/-
# Errors inside brackets stay there

Brackets that are closed give one result, whatever stands in them: the node of all their items or
the error of the first segment that is no item.  Reading goes on right behind the closing bracket,
so what follows gives the results that it gives alone (`parseAll_brackets`).
-/
import ElixirTerms.Proofs.Grammar.Balance
import ElixirTerms.Proofs.Grammar.Brackets
import ElixirTerms.Proofs.Recovery.Rounds

namespace ElixirTerms.Program

open Expression Grammar Segment

/-! ## The first segment that fails -/

section

variable {β : Type} {f : List Token → Except ParseError β} {before after : List (List Token)}
  {run : List Token} {items : List β} {e : ParseError}

/-- If all segments are items, then reading them one after the other gives these. -/
theorem mapM_of_map_eq {segments : List (List Token)} (h : segments.map f = items.map .ok) :
    segments.mapM f = .ok items := by
  induction segments generalizing items with
  | nil =>
      cases items with
      | nil => rfl
      | cons item items => cases h
  | cons segment segments ih =>
      cases items with
      | nil => cases h
      | cons item items =>
          obtain ⟨hitem, hitems⟩ := List.cons.inj h
          rw [List.mapM_cons, hitem, ih hitems]
          rfl

/-- Reading segments one after the other ends with the error of the first that is no item. -/
theorem mapM_of_error (hbefore : ∀ segment ∈ before, ∃ item, f segment = .ok item)
    (hrun : f run = .error e) : (before ++ run :: after).mapM f = .error e := by
  induction before with
  | nil =>
      rw [List.nil_append, List.mapM_cons, hrun]
      rfl
  | cons segment before ih =>
      obtain ⟨⟨item, hitem⟩, hbefore⟩ := List.forall_mem_cons.1 hbefore
      rw [List.cons_append, List.mapM_cons, hitem, ih hbefore]
      rfl

end

/-! ## One result -/

variable {brackets : Brackets} {tokens head body ys : List Token} {closing : Token}
  {segments : List (List Token)}

/-- What stands behind other tokens gives the results that it gives alone. -/
theorem results_getLast?_append (ts ys : List Token) :
    results (ts ++ ys).getLast? ys = results ys.getLast? ys := by
  cases ys with
  | nil => rw [results_nil, results_nil]
  | cons y ys => rw [List.getLast?_append, List.getLast?_cons, Option.some_or]

/-- An expression that stands inside nothing is read with the readers of its parts. -/
theorem top_eq : top = term topValue topElement := expression_succ nestingLimit

/-- Closed brackets give one result and no token of what follows them is touched. -/
theorem results_of_opens (hopens : Opens topElement head brackets)
    (hclosing : closing.isDelimiter brackets.closer = true) (hjoined : CommaJoined segments body)
    (hruns : ∀ run ∈ segments, run ≠ [] ∧ Closed run) (last : Option Token) :
    results last (head ++ (body ++ closing :: ys)) =
      brackets.read segments :: results last ys := by
  have htop : top last (head ++ (body ++ closing :: ys)) =
      (Reading.done segments ys).build brackets.read := by
    rw [top_eq, hopens.term_eq, enclosed,
      row_of_commaJoined hclosing hopens.isClosing hjoined hruns]
  cases hread : brackets.read segments with
  | ok n =>
      simp only [Reading.build, hread] at htop
      exact results_of_done htop
  | error e =>
      simp only [Reading.build, hread] at htop
      have hsplit : head ++ (body ++ closing :: ys) = (head ++ (body ++ [closing])) ++ ys := by simp
      rw [hsplit] at htop ⊢
      exact results_of_fail htop (by simp)

/-- Closed brackets and what follows them give the result of the brackets and the results of the
other tokens alone. -/
theorem parseAll_of_opens (htokens : significant tokens = head ++ (body ++ closing :: ys))
    (hopens : Opens topElement head brackets)
    (hclosing : closing.isDelimiter brackets.closer = true) (hjoined : CommaJoined segments body)
    (hruns : ∀ run ∈ segments, run ≠ [] ∧ Closed run) :
    parseAll tokens = brackets.read segments :: parseAll ys := by
  have hsplit : significant tokens = (head ++ (body ++ [closing])) ++ ys := by
    rw [htokens]
    simp
  have hys : significant ys = ys := by
    apply significant_of_forall
    intro t ht
    exact isSignificant_of_mem (hsplit ▸ List.mem_append_right _ ht)
  have hlast : results (significant tokens).getLast? ys = parseAll ys := by
    rw [hsplit, results_getLast?_append, parseAll, hys]
  rw [← hlast, parseAll]
  conv_lhs => rw [htokens]
  rw [results_of_opens hopens hclosing hjoined hruns, ← htokens]

/-- **Errors inside closed brackets stay there.**  Let tokens begin with brackets, and let what
stands in these be segments joined by commas, none of them empty and each balanced.  Then recovery
gives one result for all of the brackets, and behind it the results of the other tokens alone.
That one result is the node of the items if each segment is one, and else the error of the first
segment that is none. -/
theorem parseAll_brackets (htokens : significant tokens = head ++ (body ++ closing :: ys))
    (hopens : Opens topElement head brackets)
    (hclosing : closing.isDelimiter brackets.closer = true) (hjoined : CommaJoined segments body)
    (hruns : ∀ run ∈ segments, run ≠ [] ∧ Balanced run) :
    (∀ items, segments.map brackets.item = items.map .ok →
      parseAll tokens = .ok (brackets.node items) :: parseAll ys) ∧
    (∀ before run after e, segments = before ++ run :: after →
      (∀ segment ∈ before, ∃ item, brackets.item segment = .ok item) →
      brackets.item run = .error e → parseAll tokens = .error e :: parseAll ys) := by
  have hclosed : ∀ run ∈ segments, run ≠ [] ∧ Closed run := by
    intro run hrun
    obtain ⟨hne, hbalanced⟩ := hruns run hrun
    exact ⟨hne, (closed_iff_balanced run).2 hbalanced⟩
  rw [parseAll_of_opens htokens hopens hclosing hjoined hclosed, Brackets.read]
  constructor
  · intro items hitems
    rw [mapM_of_map_eq hitems]
    rfl
  · intro before run after e hsegments hbefore hrun
    rw [hsegments, mapM_of_error hbefore hrun]
    rfl

/-- Two numbers that no comma parts are the one error of a list, and the attribute behind the list
is read as it is alone. -/
theorem parseAll_brackets_of_list :
    ∃ e, topElement [⟨.number, ['1'], ⟨1, 6⟩⟩, ⟨.number, ['2'], ⟨1, 8⟩⟩] = .error e ∧
      parseAll (Token.lex "[:a, 1 2] @b nil") = .error e :: parseAll
        [⟨.atSign, ['@'], ⟨1, 11⟩⟩, ⟨.identifier, ['b'], ⟨1, 12⟩⟩, ⟨.boolean, "nil", ⟨1, 14⟩⟩] := by
  have htokens : significant (Token.lex "[:a, 1 2] @b nil") =
      [⟨.delimiter, ['['], ⟨1, 1⟩⟩] ++
        (([⟨.atom, ":a", ⟨1, 2⟩⟩] ++ ⟨.comma, [','], ⟨1, 4⟩⟩ ::
          [⟨.number, ['1'], ⟨1, 6⟩⟩, ⟨.number, ['2'], ⟨1, 8⟩⟩]) ++
        ⟨.delimiter, [']'], ⟨1, 9⟩⟩ ::
        [⟨.atSign, ['@'], ⟨1, 11⟩⟩, ⟨.identifier, ['b'], ⟨1, 12⟩⟩,
          ⟨.boolean, "nil", ⟨1, 14⟩⟩]) := by cbv
  have hopens : Opens topElement [⟨.delimiter, ['['], ⟨1, 1⟩⟩] (.collection topElement .list) :=
    .collection .list (by decide)
  have hjoined : CommaJoined
      [[⟨.atom, ":a", ⟨1, 2⟩⟩], [⟨.number, ['1'], ⟨1, 6⟩⟩, ⟨.number, ['2'], ⟨1, 8⟩⟩]] _ :=
    @CommaJoined.more _ _ ⟨.comma, [','], ⟨1, 4⟩⟩ _ (by decide) (by simp) (.one _)
  have hruns : ∀ run ∈ [[(⟨.atom, ":a", ⟨1, 2⟩⟩ : Token)],
      [⟨.number, ['1'], ⟨1, 6⟩⟩, ⟨.number, ['2'], ⟨1, 8⟩⟩]], run ≠ [] ∧ Balanced run := by
    simp only [← closed_iff_balanced, Closed]
    decide
  obtain ⟨n, hn⟩ : ∃ n, topElement [⟨.atom, ":a", ⟨1, 2⟩⟩] = .ok n := ⟨_, rfl⟩
  obtain ⟨e, he⟩ : ∃ e, topElement [⟨.number, ['1'], ⟨1, 6⟩⟩, ⟨.number, ['2'], ⟨1, 8⟩⟩] =
      .error e := ⟨_, rfl⟩
  refine ⟨e, he, ?_⟩
  exact (parseAll_brackets htokens hopens (by decide) hjoined hruns).2 [_] _ [] e rfl
    (by simpa using ⟨n, hn⟩) he

end ElixirTerms.Program
