/-
# Rounds of reading with recovery

Reading with recovery goes round by round: each round starts where the one before it ended, takes
at least one token, and gives one result.  An expression takes exactly the tokens that it is made
of, so it is found again where these stand alone (`parse_of_top`).
-/
import ElixirTerms.Proofs.Grammar.Exact

namespace ElixirTerms.Program

open Expression Grammar

/-! ## Rounds -/

/-- What the rounds over a list of tokens take and give.  An error takes what was consumed before
it, or else the token at which it arose. -/
inductive Rounds (last : Option Token) :
    List (List Token × Except ParseError Node) → List Token → Prop where
  | done : Rounds last [] []
  | expression {taken rest : List Token} {n : Node}
      {pieces : List (List Token × Except ParseError Node)} :
      top last (taken ++ rest) = .done n rest → Rounds last pieces rest →
      Rounds last ((taken, .ok n) :: pieces) (taken ++ rest)
  | error {taken rest : List Token} {e : ParseError}
      {pieces : List (List Token × Except ParseError Node)} :
      top last (taken ++ rest) = .fail e rest → taken ≠ [] → Rounds last pieces rest →
      Rounds last ((taken, .error e) :: pieces) (taken ++ rest)
  | skip {t : Token} {rest : List Token} {e : ParseError}
      {pieces : List (List Token × Except ParseError Node)} :
      top last (t :: rest) = .fail e (t :: rest) → Rounds last pieces rest →
      Rounds last (([t], .error e) :: pieces) (t :: rest)

/-! ## The results of one round -/

section

variable {last : Option Token} {ts taken rest us : List Token} {t : Token} {n : Node}
  {e : ParseError}

/-- Without tokens there are no results. -/
theorem results_nil (last : Option Token) : results last [] = [] := by
  rw [results]

/-- After an expression, reading goes on with what the expression left. -/
theorem results_of_done (h : top last ts = .done n rest) :
    results last ts = .ok n :: results last rest := by
  cases ts with
  | nil => cases h
  | cons t us =>
      rw [results_cons, h]

/-- After an error that consumed some tokens, reading goes on behind them. -/
theorem results_of_fail (h : top last (taken ++ rest) = .fail e rest) (htaken : taken ≠ []) :
    results last (taken ++ rest) = .error e :: results last rest := by
  cases taken with
  | nil => exact absurd rfl htaken
  | cons t taken =>
      have hresume : resume (taken ++ rest) rest = rest := by
        rw [resume, if_pos (by simp)]
      rw [List.cons_append] at h ⊢
      rw [results_cons, h]
      dsimp only
      rw [hresume]

/-- After an error that consumed nothing, reading goes on behind the first token. -/
theorem results_of_stuck (h : top last (t :: us) = .fail e (t :: us)) :
    results last (t :: us) = .error e :: results last us := by
  have hresume : resume us (t :: us) = us := by
    rw [resume, if_neg (by simp)]
  rw [results_cons, h]
  dsimp only
  rw [hresume]

/-- A reading that is not at its end comes to an expression, to an error after some tokens, or to an
error at the first token. -/
theorem top_cases (last : Option Token) (t : Token) (us : List Token) :
    (∃ taken n rest, t :: us = taken ++ rest ∧ top last (taken ++ rest) = .done n rest) ∨
    (∃ taken e rest, t :: us = taken ++ rest ∧ taken ≠ [] ∧
      top last (taken ++ rest) = .fail e rest) ∨
    ∃ e, top last (t :: us) = .fail e (t :: us) := by
  have hadvances := top_advances last (t :: us)
  cases htop : top last (t :: us) with
  | done n rest =>
      rw [htop] at hadvances
      obtain ⟨taken, htaken⟩ := hadvances.1
      exact Or.inl ⟨taken, n, rest, htaken.symm, htaken ▸ htop⟩
  | fail e rest =>
      rw [htop] at hadvances
      obtain ⟨taken, htaken⟩ : rest <:+ t :: us := hadvances
      cases taken with
      | nil =>
          rw [List.nil_append] at htaken
          exact Or.inr (Or.inr ⟨e, by rw [htaken]⟩)
      | cons u taken =>
          exact Or.inr (Or.inl
            ⟨u :: taken, e, rest, htaken.symm, List.cons_ne_nil u taken, htaken ▸ htop⟩)

end

/-- An expression costs at least one token. -/
theorem ne_nil_of_top {last : Option Token} {taken rest : List Token} {n : Node}
    (h : top last (taken ++ rest) = .done n rest) : taken ≠ [] := by
  rintro rfl
  exact Nat.lt_irrefl _ (length_rest_lt_of_top h)

/-- What is left after some tokens is shorter than the tokens before. -/
theorem length_lt_of_append {ts taken rest : List Token} (h : ts = taken ++ rest)
    (htaken : taken ≠ []) : rest.length < ts.length := by
  have hpos := List.length_pos_iff.2 htaken
  rw [h, List.length_append]
  omega

/-- Reading with recovery goes over any tokens in rounds, and its results are what these give. -/
theorem exists_rounds (last : Option Token) (ts : List Token) :
    ∃ pieces, Rounds last pieces ts ∧ results last ts = pieces.map Prod.snd := by
  match ts with
  | [] => exact ⟨[], .done, results_nil last⟩
  | t :: us =>
      -- each round leaves fewer tokens, so the induction is on what is left
      rcases top_cases last t us with ⟨taken, n, rest, hsplit, htop⟩ |
        ⟨taken, e, rest, hsplit, htaken, htop⟩ | ⟨e, htop⟩
      · have hshorter := length_lt_of_append hsplit (ne_nil_of_top htop)
        obtain ⟨pieces, hpieces, hmap⟩ := exists_rounds last rest
        refine ⟨(taken, .ok n) :: pieces, hsplit ▸ .expression htop hpieces, ?_⟩
        rw [hsplit, results_of_done htop, hmap, List.map_cons]
      · have hshorter := length_lt_of_append hsplit htaken
        obtain ⟨pieces, hpieces, hmap⟩ := exists_rounds last rest
        refine ⟨(taken, .error e) :: pieces, hsplit ▸ .error htop htaken hpieces, ?_⟩
        rw [hsplit, results_of_fail htop htaken, hmap, List.map_cons]
      · obtain ⟨pieces, hpieces, hmap⟩ := exists_rounds last us
        refine ⟨([t], .error e) :: pieces, .skip htop hpieces, ?_⟩
        rw [results_of_stuck htop, hmap, List.map_cons]
termination_by ts.length
decreasing_by
  · exact hshorter
  · exact hshorter
  · exact Nat.lt_succ_self us.length

/-! ## Runs of tokens -/

variable {last : Option Token} {pieces : List (List Token × Except ParseError Node)}
  {ts : List Token}

/-- No token is lost and none is read twice: what the rounds take, in order, are the tokens. -/
theorem Rounds.flatMap_fst (h : Rounds last pieces ts) : pieces.flatMap Prod.fst = ts := by
  induction h with
  | done => rfl
  | expression _ _ ih | error _ _ _ ih => rw [List.flatMap_cons, ih]
  | @skip t _ _ _ _ _ ih => exact congrArg (t :: ·) ih

/-- Every round takes at least one token. -/
theorem Rounds.fst_ne_nil (h : Rounds last pieces ts) : ∀ piece ∈ pieces, piece.1 ≠ [] := by
  induction h with
  | done => exact List.forall_mem_nil _
  | expression htop _ ih => exact List.forall_mem_cons.2 ⟨ne_nil_of_top htop, ih⟩
  | error _ htaken _ ih => exact List.forall_mem_cons.2 ⟨htaken, ih⟩
  | skip _ _ ih => exact List.forall_mem_cons.2 ⟨List.cons_ne_nil _ _, ih⟩

/-- Where a round gives an expression, the expression has been read off the tokens that the round
takes. -/
theorem Rounds.top_of_ok (h : Rounds last pieces ts) :
    ∀ piece ∈ pieces, ∀ n, piece.2 = .ok n →
      ∃ rest, top last (piece.1 ++ rest) = .done n rest := by
  induction h with
  | done => exact List.forall_mem_nil _
  | @expression taken rest n pieces htop _ ih =>
      refine List.forall_mem_cons.2 ⟨?_, ih⟩
      intro n' hn
      cases hn
      exact ⟨rest, htop⟩
  | error _ _ _ ih | skip _ _ ih => exact List.forall_mem_cons.2 ⟨nofun, ih⟩

/-- Consecutive runs that are not empty are no more than their tokens. -/
theorem length_le_of_ne_nil (hne : ∀ piece ∈ pieces, piece.1 ≠ []) :
    pieces.length ≤ (pieces.flatMap Prod.fst).length := by
  induction pieces with
  | nil => exact Nat.le_refl 0
  | cons piece pieces ih =>
      obtain ⟨hpiece, hpieces⟩ := List.forall_mem_cons.1 hne
      have hpos := List.length_pos_iff.2 hpiece
      have := ih hpieces
      rw [List.flatMap_cons, List.length_append, List.length_cons]
      omega

/-! ## Expressions alone -/

/-- What was read as an expression is a program of this one expression where it stands alone. -/
theorem parse_of_top {taken rest : List Token} {n : Node}
    (h : top last (taken ++ rest) = .done n rest)
    (hsignificant : ∀ t ∈ taken, t.isSignificant = true) : parse taken = .ok [n] := by
  -- the grammar derives the expression from the tokens that were taken, and needs no others
  obtain ⟨taken', htaken, hderives, hroom⟩ := sound _ _ _ _ _ h
  cases List.append_cancel_right htaken
  have hall : DerivesAll [n] (significant taken) := by
    rw [significant, List.filter_eq_self.2 hsignificant, ← List.append_nil taken]
    exact .cons hderives .nil
  rw [parse_of_derivesAll hall, if_pos ((fits_cons n []).2 ⟨hroom, by simp [Fits]⟩)]

/-- An expression that reading with recovery gives is derived from some of the tokens. -/
theorem exists_derives_of_mem_parseAll {tokens : List Token} {n : Node}
    (h : .ok n ∈ parseAll tokens) : ∃ us ⊆ significant tokens, Derives (.expression n) us := by
  obtain ⟨pieces, hrounds, hresults⟩ := exists_rounds (significant tokens).getLast?
    (significant tokens)
  rw [parseAll, hresults] at h
  obtain ⟨piece, hpiece, hn⟩ := List.mem_map.1 h
  obtain ⟨rest, htop⟩ := hrounds.top_of_ok piece hpiece n hn
  obtain ⟨us, htaken, hderives, -⟩ := sound _ _ _ _ _ htop
  cases List.append_cancel_right htaken
  refine ⟨piece.1, ?_, hderives⟩
  rw [← hrounds.flatMap_fst]
  exact fun t ht => List.mem_flatMap_of_mem hpiece ht

/-- **Recovery neither loses nor rescans tokens.**  Reading with recovery goes over the significant
tokens in rounds, of which there are no more than tokens.  Each round takes a run of them that is
not empty and gives one result; the runs in order are the tokens; and a run that gives an
expression is, by itself, a program of this one expression. -/
theorem parseAll_partition (tokens : List Token) :
    ∃ pieces : List (List Token × Except ParseError Node),
      Rounds (significant tokens).getLast? pieces (significant tokens) ∧
      parseAll tokens = pieces.map Prod.snd ∧
      pieces.flatMap Prod.fst = significant tokens ∧
      (∀ piece ∈ pieces, piece.1 ≠ [] ∧ ∀ n, piece.2 = .ok n → parse piece.1 = .ok [n]) ∧
      (parseAll tokens).length ≤ (significant tokens).length := by
  obtain ⟨pieces, hrounds, hresults⟩ := exists_rounds (significant tokens).getLast?
    (significant tokens)
  have hne := hrounds.fst_ne_nil
  have htokens := hrounds.flatMap_fst
  refine ⟨pieces, hrounds, hresults, htokens, ?_, ?_⟩
  · intro piece hpiece
    refine ⟨hne piece hpiece, ?_⟩
    intro n hn
    obtain ⟨rest, htop⟩ := hrounds.top_of_ok piece hpiece n hn
    refine parse_of_top htop ?_
    intro t ht
    have hmem : t ∈ significant tokens := htokens ▸ List.mem_flatMap_of_mem hpiece ht
    exact (List.mem_filter.1 hmem).2
  · have hlength := length_le_of_ne_nil hne
    rw [htokens] at hlength
    rwa [parseAll, hresults, List.length_map]

end ElixirTerms.Program
