/-
# The parser accepts exactly its grammar

A list of tokens parses to some nodes if and only if the grammar derives these nodes from its
significant tokens, unless the nesting is too deep; and it derives no others.
-/
import Mathlib
import ElixirTerms.Proofs.Grammar.Sound

namespace ElixirTerms

namespace Grammar

open Expression

/-! ## Unique readings -/

/-- Of two expressions at the head of the same tokens both are the same, as is what follows. -/
theorem derives_unique {n n' : Node} {ts ts' us us' : List Token}
    (h : Derives (.expression n) ts) (h' : Derives (.expression n') ts')
    (heq : ts ++ us = ts' ++ us') : n = n' ∧ us = us' := by
  -- with room for both, the reader cannot tell them apart
  obtain ⟨_, hread⟩ := h.read (max n.nesting n'.nesting) none us
  obtain ⟨_, hread'⟩ := h'.read (max n.nesting n'.nesting) none us'
  rw [if_pos (Nat.le_max_left _ _)] at hread
  rw [if_pos (Nat.le_max_right _ _), ← heq] at hread'
  have hsame := hread.symm.trans hread'
  injection hsame with hn hus
  exact ⟨hn, hus⟩

/-- The nodes that the grammar derives from a list of tokens are the only ones. -/
theorem derivesAll_unique {ns ns' : List Node} {ts ts' : List Token} (h : DerivesAll ns ts)
    (h' : DerivesAll ns' ts') (heq : ts = ts') : ns = ns' := by
  induction h generalizing ns' ts' with
  | nil =>
      cases h' with
      | nil => rfl
      | cons hn _ =>
          -- an expression takes at least one token
          exact absurd (List.append_eq_nil_iff.1 heq.symm).1 hn.ne_nil
  | cons hn _ ih =>
      cases h' with
      | nil => exact absurd (List.append_eq_nil_iff.1 heq).1 hn.ne_nil
      | cons hn' hns' =>
          obtain ⟨rfl, hus⟩ := derives_unique hn hn' heq
          exact congrArg _ (ih hns' hus)

/-! ## Programs -/

/-- All expressions of a program have room. -/
def Fits (ns : List Node) : Prop := ∀ n ∈ ns, n.nesting ≤ nestingLimit + 1

instance (ns : List Node) : Decidable (Fits ns) :=
  inferInstanceAs (Decidable (∀ n ∈ ns, n.nesting ≤ nestingLimit + 1))

/-- A program has room if its first expression and the others have. -/
theorem fits_cons (n : Node) (ns : List Node) :
    Fits (n :: ns) ↔ n.nesting ≤ nestingLimit + 1 ∧ Fits ns :=
  List.forall_mem_cons

/-- Reading a program goes on after its first expression. -/
theorem expressions_of_done {last : Option Token} {ts rest : List Token} {n : Node}
    (h : top last ts = .done n rest) :
    Program.expressions last ts = (Program.expressions last rest).map (n :: ·) := by
  cases ts with
  | nil => cases h
  | cons t us => rw [Program.expressions_cons, h]

/-- Reading a program ends with the first error. -/
theorem expressions_of_fail {last : Option Token} {ts rest : List Token} {e : ParseError}
    (hts : ts ≠ []) (h : top last ts = .fail e rest) :
    Program.expressions last ts = .fail e rest := by
  cases ts with
  | nil => exact absurd rfl hts
  | cons t us => rw [Program.expressions_cons, h]

/-- A program that the grammar derives is read if it has room; else the nesting is too deep. -/
theorem expressions_of_derivesAll {ns : List Node} {ts : List Token} (h : DerivesAll ns ts)
    (last : Option Token) :
    ∃ left, Program.expressions last ts =
      if Fits ns then .done ns [] else .fail .nestingTooDeep left := by
  induction h with
  | nil => exact ⟨[], by rw [if_pos (by simp [Fits]), Program.expressions]⟩
  | @cons n ns ts us hn _ ih =>
      obtain ⟨left, hread⟩ := hn.read (nestingLimit + 1) last us
      obtain ⟨left', hns⟩ := ih
      by_cases hroom : n.nesting ≤ nestingLimit + 1
      · rw [if_pos hroom] at hread
        refine ⟨left', ?_⟩
        simp only [expressions_of_done hread, hns, fits_cons, hroom, true_and]
        split_ifs <;> rfl
      · rw [if_neg hroom] at hread
        refine ⟨left, ?_⟩
        rw [expressions_of_fail (by simp [hn.ne_nil]) hread, if_neg (by simp [fits_cons, hroom])]

/-- A program that is read is one that the grammar derives, is read to its end, and has room. -/
theorem derivesAll_of_expressions {last : Option Token} {ts rest : List Token} {ns : List Node}
    (h : Program.expressions last ts = .done ns rest) : rest = [] ∧ DerivesAll ns ts ∧ Fits ns := by
  by_cases hts : ts = []
  · subst hts
    rw [Program.expressions] at h
    cases h
    exact ⟨rfl, .nil, by simp [Fits]⟩
  · cases htop : top last ts with
    | fail e r =>
        rw [expressions_of_fail hts htop] at h
        cases h
    | done n us =>
        -- the induction is on the tokens that are left
        have hshorter := length_rest_lt_of_top htop
        rw [expressions_of_done htop] at h
        obtain ⟨ns', hns, rfl⟩ := Reading.map_eq_done_iff.1 h
        obtain ⟨taken, rfl, hn, hroom⟩ := sound _ _ _ _ _ htop
        obtain ⟨hrest, hns', hfits⟩ := derivesAll_of_expressions hns
        exact ⟨hrest, .cons hn hns', (fits_cons n ns').2 ⟨hroom, hfits⟩⟩
termination_by ts.length

/-- Parsing succeeds with what the grammar derives if it has room; else the nesting is too deep. -/
theorem parse_of_derivesAll {tokens : List Token} {ns : List Node}
    (h : DerivesAll ns (Program.significant tokens)) :
    Program.parse tokens = if Fits ns then .ok ns else .error .nestingTooDeep := by
  obtain ⟨left, hread⟩ := expressions_of_derivesAll h (Program.significant tokens).getLast?
  simp only [Program.parse, hread]
  split_ifs <;> rfl

/-- What parsing succeeds with is what the grammar derives. -/
theorem derivesAll_of_parse {tokens : List Token} {ns : List Node}
    (h : Program.parse tokens = .ok ns) : DerivesAll ns (Program.significant tokens) := by
  obtain ⟨rest, hread⟩ := Reading.outcome_eq_ok_iff.1 h
  exact (derivesAll_of_expressions hread).2.1

/-- What parsing succeeds with has room. -/
theorem fits_of_parse {tokens : List Token} {ns : List Node}
    (h : Program.parse tokens = .ok ns) : Fits ns := by
  rw [parse_of_derivesAll (derivesAll_of_parse h)] at h
  split_ifs at h with hfits
  exact hfits

/-- **The parser accepts exactly its grammar.**  Unless the nesting is too deep, a list of tokens
parses to some nodes if and only if the grammar derives them from its significant tokens; and no
two programs are derived from the same tokens, however deep they are. -/
theorem parse_eq_ok_iff_derivesAll (tokens : List Token) :
    (Program.parse tokens ≠ .error .nestingTooDeep →
      ∀ ns, Program.parse tokens = .ok ns ↔ DerivesAll ns (Program.significant tokens)) ∧
    ∀ ns ns', DerivesAll ns (Program.significant tokens) →
      DerivesAll ns' (Program.significant tokens) → ns = ns' := by
  constructor
  · intro hdeep ns
    constructor
    · exact derivesAll_of_parse
    · intro h
      have hparse := parse_of_derivesAll h
      split_ifs at hparse
      · exact hparse
      · exact absurd hparse hdeep
  · intro ns ns' h h'
    exact derivesAll_unique h h' rfl

/-- A map with a keyword and an arrow, lists and calls is parsed to what the grammar derives, and to
nothing else. -/
theorem derivesAll_of_mixed_map :
    Program.parse (Token.lex "%\x7bk: [1, nil], :a => f.(\"s\")\x7d @v 2") ≠
      .error .nestingTooDeep ∧
    ∃ ns, Program.parse (Token.lex "%\x7bk: [1, nil], :a => f.(\"s\")\x7d @v 2") = .ok ns ∧
      DerivesAll ns
        (Program.significant (Token.lex "%\x7bk: [1, nil], :a => f.(\"s\")\x7d @v 2")) ∧
      ∀ ns', DerivesAll ns'
        (Program.significant (Token.lex "%\x7bk: [1, nil], :a => f.(\"s\")\x7d @v 2")) →
          ns' = ns := by
  obtain ⟨ns, hparse⟩ :
      ∃ ns, Program.parse (Token.lex "%\x7bk: [1, nil], :a => f.(\"s\")\x7d @v 2") = .ok ns :=
    ⟨_, by cbv⟩
  have hdeep : Program.parse (Token.lex "%\x7bk: [1, nil], :a => f.(\"s\")\x7d @v 2") ≠
      .error .nestingTooDeep := by
    rw [hparse]
    intro h
    cases h
  have hderives := ((parse_eq_ok_iff_derivesAll _).1 hdeep ns).1 hparse
  refine ⟨hdeep, ns, hparse, hderives, ?_⟩
  intro ns' h
  exact (parse_eq_ok_iff_derivesAll _).2 ns' ns h hderives

end Grammar

end ElixirTerms
