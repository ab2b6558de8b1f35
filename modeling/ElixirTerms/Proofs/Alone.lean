/-
# Tokens by themselves

A token that is cut out of its text is the only token of its own lexeme, unless it is an alias with
a dot at its end (`lex_lexeme_iff`).  Such an alias has gone on over the dot because an upper-case
character follows, which then belongs to no atom; without that character the dot is a token of its
own.
-/
import ElixirTerms.Proofs.Lookahead

namespace ElixirTerms.Token

open Extent

variable {t : Token} {s u text : Text} {p : Position}

/-! ## Tokens before nothing -/

/-- A token stays where nothing follows it, unless it is an alias with a dot at its end. -/
theorem Heads.alone (h : Heads t u) (hdotted : ¬ Dotted t.kind t.lexeme) : Heads t [] := by
  by_cases hu : u = []
  · rwa [hu] at h
  cases htrivia : t.kind.isTrivia with
  | false =>
      -- nothing looks to such a token like a blank
      have hblanked : Blanked [] := by
        intro d hd
        cases hd
      exact h.exchange hu (.blanked hblanked htrivia hdotted)
  | true =>
      obtain ⟨c, s, hlexeme, hscan⟩ := h
      have hsettled : Settled t.kind := by
        constructor
        all_goals
          intro hkind
          rw [hkind] at htrivia
          cases htrivia
      refine ⟨c, s, hlexeme, ?_⟩
      rw [List.append_nil, ← hscan]
      apply scan_of_append
      · rw [hscan]
      · rwa [hscan]
      · rwa [hscan, ← hlexeme]

/-- A token is found where nothing follows it if and only if it is no alias with a dot at its
end. -/
theorem Heads.alone_iff (h : Heads t u) : Heads t [] ↔ ¬ Dotted t.kind t.lexeme := by
  constructor
  · intro halone
    apply halone.not_dotted
    intro d hd
    cases hd
  · exact h.alone

/-- A token that stands before nothing is the one token of its lexeme. -/
theorem Heads.lex_eq (h : Heads t []) :
    lex t.lexeme = [⟨t.kind, t.lexeme, .start⟩, ⟨.eof, [], Position.start.after t.lexeme⟩] := by
  have hlex := h.lexFrom_eq .start
  rwa [List.append_nil, lexFrom_nil] at hlex

/-- The first token of a text that takes all of it stands before nothing. -/
theorem heads_of_lex {v : Token} {vs : List Token} (h : lex s = v :: vs) (hv : v.lexeme = s)
    (hs : s ≠ []) : Heads v [] := by
  obtain ⟨c, s, rfl⟩ := List.exists_cons_of_ne_nil hs
  rw [lex, lexFrom_cons] at h
  obtain ⟨rfl, -⟩ := List.cons.inj h
  have hsplit := first_append_afterFirst .start c s
  rw [hv] at hsplit
  have hafter : afterFirst c s = [] := List.append_right_eq_self.1 hsplit
  have hheads := heads_first .start c s
  rwa [hafter] at hheads

/-! ## Tokens of a stream -/

/-- Every token of a stream but the end of the input stands before some text. -/
theorem exists_heads_of_mem (h : t ∈ lexFrom p s) (hkind : t.kind ≠ .eof) : ∃ u, Heads t u := by
  obtain ⟨before, later, hsplit⟩ := List.append_of_mem h
  obtain ⟨u, -, -, hu⟩ := lexFrom_split hsplit (List.cons_ne_nil t later)
  have hlater : later ≠ [] := (rest_ne_nil_iff hu.symm).2 hkind
  obtain ⟨w, -, hheads, -, -⟩ := heads_of_lexFrom hu.symm hlater
  exact ⟨w, hheads⟩

/-- **Tokens by themselves.**  The lexeme of a token of any text holds this one token and nothing
else if and only if the token is no alias with a dot at its end. -/
theorem lex_lexeme_iff (ht : t ∈ lex text) (hkind : t.kind ≠ .eof) :
    (lex t.lexeme).map unplaced = [t.unplaced, ⟨.eof, [], .nowhere⟩] ↔
      ¬ Dotted t.kind t.lexeme := by
  obtain ⟨u, hheads⟩ := exists_heads_of_mem ht hkind
  rw [← hheads.alone_iff]
  constructor
  · intro h
    rcases hlex : lex t.lexeme with _ | ⟨v, vs⟩
    · rw [hlex] at h
      cases h
    · rw [hlex] at h
      have hv : v.unplaced = t.unplaced := (List.cons.inj h).1
      have hlexeme : v.lexeme = t.lexeme := by
        show v.unplaced.lexeme = t.unplaced.lexeme
        rw [hv]
      have hsame : v.kind = t.kind := by
        show v.unplaced.kind = t.unplaced.kind
        rw [hv]
      have halone := heads_of_lex hlex hlexeme hheads.lexeme_ne_nil
      unfold Heads at halone
      rwa [hlexeme, hsame] at halone
  · intro h
    rw [h.lex_eq]
    rfl

/-- An alias over two dots is the one token of its lexeme, without the dots that follow it. -/
theorem lex_lexeme_of_alias :
    (⟨.atom, "Ab.C.D", ⟨1, 2⟩⟩ : Token) ∈ lex "[Ab.C.D..1" ∧
    (lex "Ab.C.D").map unplaced = [⟨.atom, "Ab.C.D", .nowhere⟩, ⟨.eof, [], .nowhere⟩] := by
  have hmem : (⟨.atom, "Ab.C.D", ⟨1, 2⟩⟩ : Token) ∈ lex "[Ab.C.D..1" := by
    have hlex : lex "[Ab.C.D..1" = [⟨.delimiter, ['['], ⟨1, 1⟩⟩, ⟨.atom, "Ab.C.D", ⟨1, 2⟩⟩,
      ⟨.dot, ['.', '.'], ⟨1, 8⟩⟩, ⟨.number, ['1'], ⟨1, 10⟩⟩, ⟨.eof, [], ⟨1, 11⟩⟩] := by cbv
    rw [hlex]
    exact List.mem_cons_of_mem _ List.mem_cons_self
  exact ⟨hmem, (lex_lexeme_iff hmem (by decide)).2 (by decide)⟩

/-- Before a circled capital, which is upper case but belongs to no atom, an alias goes on over a
dot that its lexeme alone gives to another token. -/
theorem lex_lexeme_of_dotted_alias :
    ∃ t ∈ lex "Ab.Ⓐ", t.kind ≠ .eof ∧
      (lex t.lexeme).map unplaced ≠ [t.unplaced, ⟨.eof, [], .nowhere⟩] := by
  have hlex : lex "Ab.Ⓐ" = [⟨.atom, "Ab.", ⟨1, 1⟩⟩, ⟨.identifier, "Ⓐ", ⟨1, 4⟩⟩,
    ⟨.eof, [], ⟨1, 5⟩⟩] := by decide +kernel
  have halone : lex "Ab." = [⟨.atom, "Ab", ⟨1, 1⟩⟩, ⟨.dot, ['.'], ⟨1, 3⟩⟩, ⟨.eof, [], ⟨1, 4⟩⟩] := by
    cbv
  refine ⟨⟨.atom, "Ab.", ⟨1, 1⟩⟩, ?_, by decide, ?_⟩
  · rw [hlex]
    exact List.mem_cons_self
  · rw [halone]
    intro h
    cases (List.cons.inj h).1

end ElixirTerms.Token
