/-
# Every way of draining a scanner

A scanner may be asked for its tokens one at a time or for all that are left, in any order.  What it
hands out and what it would hand out if it were drained are together what they were before
(`toTokens_append_drain`), so whatever it is asked for, it hands out the one stream of its text.
-/
import ElixirTerms.Proofs.Positions
import ElixirTerms.Proofs.Unread

namespace ElixirTerms

open Token (totalLength)

namespace Token

theorem totalLength_append (ts us : List Token) :
    totalLength (ts ++ us) = totalLength ts + totalLength us := by
  rw [totalLength_eq, totalLength_eq, totalLength_eq, List.flatMap_append, List.length_append]

/-- The tokens of a text have as many characters as the text. -/
theorem totalLength_lex (text : Text) : totalLength (lex text) = text.length := by
  rw [totalLength_eq]
  exact congrArg List.length (lexemes_lexFrom .start text)

end Token

namespace Scanner

/-! ## Asking for tokens -/

/-- The ways to ask a scanner for tokens. -/
inductive Pull where
  /-- The next token; there has to be one. -/
  | next
  /-- The next token, if there is one. -/
  | poll
  /-- All tokens that are left, as a list. -/
  | drain
  deriving DecidableEq

/-- The call that asks for tokens in some way. -/
def Pull.call : Pull → Call
  | next => .next
  | poll => .poll
  | drain => .drain

/-- What is answered after the end of the input has been handed out. -/
def Pull.spent : Pull → Answer
  | next => .exhausted
  | poll => .nothing
  | drain => .tokens []

/-- The scanner after some calls. -/
def after (sc : Scanner) : List Call → Scanner
  | [] => sc
  | call :: calls => (sc.perform call).2.after calls

/-- **A whole run.**  What the three moves of a scanner keep holds after any calls. -/
theorem Invariant.after {p : Scanner → Prop} {sc : Scanner} (h : Invariant p) (hsc : p sc)
    (calls : List Call) : p (sc.after calls) := by
  induction calls generalizing sc with
  | nil => exact hsc
  | cons call calls ih => exact ih (h.perform hsc call)

/-- The tokens that some calls have been answered with, in order. -/
def handedOut (sc : Scanner) (calls : List Call) : List Token :=
  (sc.run calls).flatMap (·.1.toTokens)

variable {sc : Scanner}

/-- Nothing is handed out after the end of the input. -/
@[simp] theorem toTokens_spent (pull : Pull) : pull.spent.toTokens = [] := by
  cases pull <;> rfl

/-- A finished scanner answers that there is nothing left, and stays as it is. -/
theorem perform_of_finished (h : sc.finished = true) (pull : Pull) :
    sc.perform pull.call = (pull.spent, sc) := by
  have hnext : sc.next? = (none, sc) := by simp [next?, h]
  cases pull with
  | next => simp [Pull.call, Pull.spent, perform, hnext]
  | poll => simp [Pull.call, Pull.spent, perform, hnext, Answer.ofToken?]
  | drain => simp [Pull.call, Pull.spent, perform, drain_of_finished h]

/-- A scanner that is not finished has a next token. -/
theorem exists_next? (h : sc.finished = false) : ∃ t later, sc.next? = (some t, later) := by
  unfold next?
  rw [if_neg (by simp [h])]
  dsimp only
  split
  · exact ⟨_, _, rfl⟩
  · exact ⟨_, _, rfl⟩

/-- **What a scanner does that is asked for tokens.**  It hands out all that are left, or there is
nothing left, or it hands out the next token. -/
theorem perform_cases (sc : Scanner) (pull : Pull) :
    sc.perform pull.call = (.tokens sc.drain.1, sc.drain.2) ∨
    sc.perform pull.call = (pull.spent, sc) ∨
    ∃ t later, sc.next? = (some t, later) ∧ sc.perform pull.call = (.token t, later) := by
  cases hopen : sc.finished with
  | true => exact .inr (.inl (perform_of_finished hopen pull))
  | false =>
      obtain ⟨t, later, hnext⟩ := exists_next? hopen
      cases pull with
      | next =>
          refine .inr (.inr ⟨t, later, hnext, ?_⟩)
          simp [Pull.call, perform, hnext]
      | poll =>
          refine .inr (.inr ⟨t, later, hnext, ?_⟩)
          simp [Pull.call, perform, hnext, Answer.ofToken?]
      | drain => exact .inl rfl

/-- A scanner that has been drained is finished. -/
theorem finished_drain (sc : Scanner) : sc.drain.2.finished = true := by
  cases hopen : sc.finished with
  | true => rwa [drain_of_finished hopen]
  | false =>
      obtain ⟨t, later, hnext⟩ := exists_next? hopen
      have hshorter := fuel_next?_lt hnext
      rw [drain_of_next? hnext]
      exact finished_drain later
termination_by sc.fuel

/-- **One step.**  What a scanner hands out and what it then could be drained of is what it could be
drained of before. -/
theorem toTokens_append_drain (sc : Scanner) (pull : Pull) :
    (sc.perform pull.call).1.toTokens ++ (sc.perform pull.call).2.drain.1 = sc.drain.1 := by
  rcases perform_cases sc pull with h | h | ⟨t, later, hnext, h⟩ <;> rw [h]
  · show sc.drain.1 ++ sc.drain.2.drain.1 = sc.drain.1
    rw [drain_of_finished (finished_drain sc), List.append_nil]
  · rw [toTokens_spent, List.nil_append]
  · rw [drain_of_next? hnext]
    rfl

/-! ## The place that is reached -/

/-- Handing out a token moves a scanner over the characters of the token. -/
theorem pos_of_next? (hsc : sc.Consistent) {t : Token} {later : Scanner}
    (h : sc.next? = (some t, later)) : later.pos = sc.pos + t.lexeme.length := by
  have hopen : sc.finished = false := by
    cases hfinished : sc.finished with
    | false => rfl
    | true =>
        rw [next?, if_pos hfinished] at h
        cases h
  cases hrest : sc.rest with
  | nil =>
      rw [next?_of_rest_nil hopen hrest] at h
      cases h
      rfl
  | cons c s =>
      have hle := Extent.scan_le c s
      rw [next?_of_rest hsc hopen hrest] at h
      cases h
      rw [advanceBy_pos, Token.first, List.length_take, Nat.min_eq_left hle]
      rfl

/-- Draining moves a scanner over the characters of all tokens that are left. -/
theorem pos_drain (sc : Scanner) (hsc : sc.Consistent) :
    sc.drain.2.pos = sc.pos + totalLength sc.drain.1 := by
  cases hopen : sc.finished with
  | true =>
      rw [drain_of_finished hopen]
      rfl
  | false =>
      obtain ⟨t, later, hnext⟩ := exists_next? hopen
      have hshorter := fuel_next?_lt hnext
      have hlater : later.Consistent := by
        have hpassed := passedOn_next? sc
        rw [hnext] at hpassed
        exact hpassed.consistent hsc
      have hpos := pos_of_next? hsc hnext
      have ih := pos_drain later hlater
      rw [drain_of_next? hnext, totalLength]
      dsimp only
      omega
termination_by sc.fuel

/-- **One step.**  A scanner moves over the characters of what it hands out. -/
theorem pos_perform (hsc : sc.Consistent) (pull : Pull) :
    (sc.perform pull.call).2.pos =
      sc.pos + totalLength (sc.perform pull.call).1.toTokens := by
  rcases perform_cases sc pull with h | h | ⟨t, later, hnext, h⟩ <;> rw [h]
  · exact pos_drain sc hsc
  · rw [toTokens_spent]
    rfl
  · exact pos_of_next? hsc hnext

/-! ## Whole runs -/

/-- What several calls hand out is what the first and the others do. -/
theorem handedOut_cons (sc : Scanner) (call : Call) (calls : List Call) :
    sc.handedOut (call :: calls) =
      (sc.perform call).1.toTokens ++ (sc.perform call).2.handedOut calls := rfl

/-- **A whole run.**  However a scanner is asked for tokens, what it hands out and what it then
could be drained of is what it could be drained of before. -/
theorem handedOut_append_drain (sc : Scanner) (pulls : List Pull) :
    sc.handedOut (pulls.map Pull.call) ++ (sc.after (pulls.map Pull.call)).drain.1 =
      sc.drain.1 := by
  induction pulls generalizing sc with
  | nil => rfl
  | cons pull pulls ih =>
      rw [List.map_cons, handedOut_cons, after, List.append_assoc, ih, toTokens_append_drain]

/-- **A whole run.**  However a scanner is asked for tokens, it moves over the characters of what
it hands out. -/
theorem pos_after (hsc : sc.Consistent) (pulls : List Pull) :
    (sc.after (pulls.map Pull.call)).pos =
      sc.pos + totalLength (sc.handedOut (pulls.map Pull.call)) := by
  induction pulls generalizing sc with
  | nil => rfl
  | cons pull pulls ih =>
      have hstep := pos_perform hsc pull
      have hlater := ih ((passedOn_perform sc pull.call).consistent hsc)
      rw [List.map_cons, after, handedOut_cons, Token.totalLength_append]
      omega

/-- **A whole run.**  A scanner keeps standing where it says. -/
theorem consistent_after (hsc : sc.Consistent) (pulls : List Pull) :
    (sc.after (pulls.map Pull.call)).Consistent := by
  induction pulls generalizing sc with
  | nil => exact hsc
  | cons pull pulls ih => exact ih ((passedOn_perform sc pull.call).consistent hsc)

/-- A finished scanner stays as it is, however it is asked for tokens. -/
theorem run_of_finished (h : sc.finished = true) (pulls : List Pull) :
    sc.run (pulls.map Pull.call) = pulls.map fun pull => (pull.spent, sc) := by
  induction pulls with
  | nil => rfl
  | cons pull pulls ih =>
      rw [List.map_cons, List.map_cons, run, perform_of_finished h]
      exact congrArg _ ih

/-- A scanner that has been drained at some time is finished. -/
theorem finished_after (sc : Scanner) (pulls : List Pull)
    (h : sc.finished = true ∨ .drain ∈ pulls) :
    (sc.after (pulls.map Pull.call)).finished = true := by
  induction pulls generalizing sc with
  | nil =>
      rcases h with h | h
      · exact h
      · cases h
  | cons pull pulls ih =>
      rw [List.map_cons, after]
      apply ih
      rcases h with h | h
      · left
        rwa [perform_of_finished h]
      · rcases List.mem_cons.1 h with rfl | h
        · left
          exact finished_drain sc
        · right
          exact h

/-- A scanner that can be drained of nothing is finished. -/
theorem finished_of_drain (h : sc.drain.1 = []) : sc.finished = true := by
  cases hopen : sc.finished with
  | true => rfl
  | false =>
      obtain ⟨t, later, hnext⟩ := exists_next? hopen
      rw [drain_of_next? hnext] at h
      cases h

/-- Nothing is left of a stream whose end of the input has been handed out. -/
theorem eq_nil_of_eof_mem {text : Text} {ts us : List Token} (h : ts ++ us = Token.lex text)
    (heof : ∃ t ∈ ts, t.kind = .eof) : us = [] := by
  obtain ⟨t, ht, hkind⟩ := heof
  obtain ⟨before, hlex, hbefore⟩ := Token.lexFrom_ends .start text
  rw [Token.lex, hlex] at h
  rcases List.eq_nil_or_concat us with hus | ⟨vs, u, rfl⟩
  · exact hus
  · -- the end of the input would stand before the last token
    rw [List.concat_eq_append, ← List.append_assoc] at h
    have hts := (List.append_inj' h rfl).1
    exact absurd hkind (hbefore t (hts ▸ List.mem_append_left _ ht)).1

/-- **Every way of draining gives the same stream.**  However a scanner over a text is asked for
tokens, what it has handed out is an initial part of the stream of the text; it stands behind the
characters of these tokens, within the text, and does not go back.  Once it has been drained the
stream is complete.  Once the end of the input has been handed out, it answers that there is nothing
left and does not change. -/
theorem handedOut_pulls (text : Text) (pulls : List Pull) :
    (ofText text).handedOut (pulls.map Pull.call) <+: Token.lex text ∧
    ((ofText text).after (pulls.map Pull.call)).pos =
      totalLength ((ofText text).handedOut (pulls.map Pull.call)) ∧
    ((ofText text).after (pulls.map Pull.call)).pos ≤ text.length ∧
    (∀ later : List Pull, ((ofText text).after (pulls.map Pull.call)).pos ≤
      (((ofText text).after (pulls.map Pull.call)).after (later.map Pull.call)).pos) ∧
    (.drain ∈ pulls → (ofText text).handedOut (pulls.map Pull.call) = Token.lex text) ∧
    ((∃ t ∈ (ofText text).handedOut (pulls.map Pull.call), t.kind = .eof) →
      ∀ later : List Pull, ((ofText text).after (pulls.map Pull.call)).run (later.map Pull.call) =
        later.map fun pull => (pull.spent, (ofText text).after (pulls.map Pull.call))) := by
  have hsc := consistent_ofText text
  have hstream : (ofText text).drain.1 = Token.lex text := (drain_eq_lexFrom _ hsc rfl).1
  have hsplit := handedOut_append_drain (ofText text) pulls
  have hpos := pos_after hsc pulls
  rw [hstream] at hsplit
  rw [show (ofText text).pos = 0 from rfl, Nat.zero_add] at hpos
  refine ⟨⟨_, hsplit⟩, hpos, ?_, ?_, ?_, ?_⟩
  · have hlength := congrArg totalLength hsplit
    rw [Token.totalLength_append, Token.totalLength_lex] at hlength
    omega
  · intro later
    rw [pos_after (consistent_after hsc pulls) later]
    exact Nat.le_add_right _ _
  · intro hdrain
    have hfinished := finished_after (ofText text) pulls (.inr hdrain)
    rwa [drain_of_finished hfinished, List.append_nil] at hsplit
  · intro heof
    exact run_of_finished (finished_of_drain (eq_nil_of_eof_mem hsplit heof))

/-- A scanner that has handed out an atom, and then what else there is, answers that there is
nothing left. -/
theorem handedOut_pulls_atom :
    .drain ∈ [Pull.poll, .drain, .next] ∧
    (ofText ":a 1").handedOut ([Pull.poll, .drain, .next].map Pull.call) = Token.lex ":a 1" ∧
    (∃ t ∈ (ofText ":a 1").handedOut ([Pull.poll, .drain, .next].map Pull.call), t.kind = .eof) ∧
    ∃ last : Scanner, last.run ([Pull.poll, .next, .drain].map Pull.call) =
      [(.nothing, last), (.exhausted, last), (.tokens [], last)] := by
  obtain ⟨-, -, -, -, hcomplete, hend⟩ := handedOut_pulls ":a 1" [.poll, .drain, .next]
  have hstream := hcomplete (by decide)
  have heof : ∃ t ∈ (ofText ":a 1").handedOut ([Pull.poll, .drain, .next].map Pull.call),
      t.kind = .eof := by
    obtain ⟨before, hlex, -⟩ := Token.lexFrom_ends .start ":a 1"
    rw [hstream, Token.lex, hlex]
    exact ⟨_, List.mem_append_right _ List.mem_cons_self, rfl⟩
  exact ⟨by decide, hstream, heof, _, hend heof [.poll, .next, .drain]⟩

end Scanner

end ElixirTerms
