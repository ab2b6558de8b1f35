/-
# Only the unread text matters

A scanner hands out the tokens of the text that it has not read as if that text stood alone.  What
it was asked for before has moved it over some characters (`passedOn_perform`), and so has decided
where the tokens stand, but not what they are (`unplaced_drain`).
-/
import ElixirTerms.Proofs.Invariant

namespace ElixirTerms

/-! ## Streams from anywhere -/

namespace Token

/-- A stream goes on behind its first token as the stream of the text after that token, up to the
places of the tokens. -/
theorem exists_unplaced_rest {text : Text} (h : text ≠ []) :
    ∃ t ts, lex text = t :: ts ∧
      ts.map unplaced = (lex (text.drop t.lexeme.length)).map unplaced := by
  obtain ⟨c, s, rfl⟩ := List.exists_cons_of_ne_nil h
  refine ⟨first .start c s, _, lexFrom_cons .start c s, ?_⟩
  have hsplit := first_append_afterFirst .start c s
  have hdrop : (c :: s).drop (first .start c s).lexeme.length = afterFirst c s :=
    calc (c :: s).drop (first .start c s).lexeme.length
        = ((first .start c s).lexeme ++ afterFirst c s).drop (first .start c s).lexeme.length := by
          rw [hsplit]
      _ = afterFirst c s := List.drop_left
  rw [hdrop]
  exact lexFrom_unplaced _ _ _

end Token

/-! ## Scanners on their way -/

namespace Scanner

/-- The second scanner is over the same text as the first and has passed some more characters. -/
def PassedOn (sc later : Scanner) : Prop :=
  ∃ n, later.text = sc.text ∧ later.pos = sc.pos + n ∧ later.rest = sc.rest.drop n

/-- A scanner that stays where it is has passed nothing. -/
theorem PassedOn.refl (sc : Scanner) : PassedOn sc sc := ⟨0, rfl, rfl, rfl⟩

/-- What is passed in two goes is passed. -/
theorem PassedOn.trans {sc mid later : Scanner} (h : PassedOn sc mid) (h' : PassedOn mid later) :
    PassedOn sc later := by
  obtain ⟨n, htext, hpos, hrest⟩ := h
  obtain ⟨m, htext', hpos', hrest'⟩ := h'
  refine ⟨n + m, htext'.trans htext, ?_, ?_⟩
  · omega
  · rw [hrest', hrest, List.drop_drop]

/-- A scanner that has passed on from where it says stands where it says. -/
theorem PassedOn.consistent {sc later : Scanner} (h : PassedOn sc later) (hsc : sc.Consistent) :
    later.Consistent := by
  obtain ⟨n, htext, hpos, hrest⟩ := h
  show later.text.drop later.pos = later.rest
  rw [htext, hpos, hrest, ← List.drop_drop, hsc]

/-- Passing a number of characters is passing on. -/
theorem passedOn_advanceBy (n : Nat) (sc : Scanner) : PassedOn sc (advanceBy n sc) :=
  ⟨n, advanceBy_text n sc, advanceBy_pos n sc, advanceBy_rest n sc⟩

/-- Each of the moves of a scanner passes a character or none. -/
theorem invariant_passedOn (sc : Scanner) : Invariant (PassedOn sc) where
  advance later h := h.trans (passedOn_advanceBy 1 later)
  mark _ h := h
  finish _ _ h := h

/-- Asking for the next token moves a scanner over that token. -/
theorem passedOn_next? (sc : Scanner) : PassedOn sc sc.next?.2 :=
  (invariant_passedOn sc).next? (.refl sc)

/-- **One step.**  Whatever a scanner is asked for moves it over some characters, or not at all. -/
theorem passedOn_perform (sc : Scanner) (call : Call) : PassedOn sc (sc.perform call).2 :=
  (invariant_passedOn sc).perform (.refl sc) call

/-- **A whole run.**  After any calls a scanner has passed some characters of its text. -/
theorem passedOn_of_mem_run {sc : Scanner} {calls : List Call} {step : Answer × Scanner}
    (h : step ∈ sc.run calls) : PassedOn sc step.2 :=
  (invariant_passedOn sc).of_mem_run (.refl sc) h

/-! ## Draining from anywhere -/

/-- Draining an open scanner gives the tokens of the text after the characters that it has passed,
up to their places. -/
theorem unplaced_drain {text : Text} {sc : Scanner} (h : PassedOn (ofText text) sc)
    (hopen : sc.finished = false) :
    sc.drain.1.map Token.unplaced = (Token.lex (text.drop sc.pos)).map Token.unplaced := by
  have hsc := h.consistent (consistent_ofText text)
  have htext : sc.text = text := h.choose_spec.1
  have hrest : text.drop sc.pos = sc.rest := by rw [← htext, hsc]
  rw [(drain_eq_lexFrom sc hsc hopen).1, hrest]
  exact Token.lexFrom_unplaced _ _ sc.rest

/-- **Only the unread text matters.**  A scanner that has passed some characters of a text, or that
has been asked for anything else and is not finished, is drained of the tokens of the text from
where it stands on, up to their places.  So the stream of a text that is not empty goes on behind
its first token as the stream of the text after that token. -/
theorem unplaced_drain_eq_lex_drop (text : Text) :
    (∀ k, (advanceBy k (ofText text)).drain.1.map Token.unplaced =
      (Token.lex (text.drop k)).map Token.unplaced) ∧
    (∀ calls, ∀ step ∈ (ofText text).run calls, step.2.finished = false →
      step.2.drain.1.map Token.unplaced =
        (Token.lex (text.drop step.2.pos)).map Token.unplaced) ∧
    (text ≠ [] → ∃ t ts, Token.lex text = t :: ts ∧
      ts.map Token.unplaced = (Token.lex (text.drop t.lexeme.length)).map Token.unplaced) := by
  refine ⟨?_, ?_, Token.exists_unplaced_rest⟩
  · intro k
    have hdrain := unplaced_drain (passedOn_advanceBy k (ofText text)) (advanceBy_finished k _)
    have hpos : (advanceBy k (ofText text)).pos = k := by
      rw [advanceBy_pos]
      exact Nat.zero_add k
    rwa [hpos] at hdrain
  · intro calls step hstep hopen
    exact unplaced_drain (passedOn_of_mem_run hstep) hopen

/-- A scanner that has passed the capital of an alias, has handed out the word after it and has
skipped the dot is drained of what follows, and the stream of the text goes on behind the alias. -/
theorem unplaced_drain_within_alias :
    (∃ step ∈ (ofText "Ab.C 1").run [.advance, .poll, .advance], step.2.finished = false ∧
      step.2.drain.1.map Token.unplaced = (Token.lex "C 1").map Token.unplaced) ∧
    "Ab.C 1".toList ≠ [] ∧
    ∃ t ts, Token.lex "Ab.C 1" = t :: ts ∧
      ts.map Token.unplaced =
        (Token.lex ("Ab.C 1".toList.drop t.lexeme.length)).map Token.unplaced := by
  have hmem : ((ofText "Ab.C 1").perform .advance).2.run [.poll, .advance] ⊆
      (ofText "Ab.C 1").run [.advance, .poll, .advance] := List.subset_cons_self _ _
  have hlast := hmem (List.mem_cons_of_mem _ List.mem_cons_self)
  refine ⟨⟨_, hlast, rfl, ?_⟩, by decide, (unplaced_drain_eq_lex_drop _).2.2 (by decide)⟩
  exact (unplaced_drain_eq_lex_drop _).2.1 _ _ hlast rfl

end Scanner

/-- Nothing follows the only token of the empty text, although the text after it has a stream: that
of the empty text. -/
theorem Token.unplaced_rest_of_lex_nil_ne :
    ¬ ∀ t ts, Token.lex [] = t :: ts →
      ts.map Token.unplaced =
        (Token.lex (([] : Text).drop t.lexeme.length)).map Token.unplaced := by
  intro h
  have hrest := h ⟨.eof, [], .start⟩ [] (Token.lexFrom_nil .start)
  rw [List.drop_nil, Token.lex, Token.lexFrom_nil] at hrest
  cases hrest

end ElixirTerms
