/-
# Rows are cut as they were joined

Reading the contents of brackets gives the closed segments that commas have joined
(`row_of_commaJoined`), and whatever it gives has been joined so (`commaJoined_of_row`).  Looking
for an arrow in an entry finds the one after the key, because no expression shows an arrow outside
its brackets.
-/
import ElixirTerms.Proofs.Grammar.Segments
import ElixirTerms.Proofs.Success

namespace ElixirTerms

namespace Segment

open Grammar

/-! ## Reading what was joined -/

/-- Reading a row takes the tokens that end no segment into the segment at hand. -/
theorem rowFrom_append {closer : Text} {last : Option Token} {depth d : Nat} {us : List Token}
    (h : depthOver depth us = some d) (taken vs : List Token) :
    rowFrom closer last depth taken (us ++ vs) = rowFrom closer last d (taken ++ us) vs := by
  induction us generalizing depth taken with
  | nil =>
      cases h
      simp
  | cons u us ih =>
      obtain ⟨e, he, hus⟩ := Option.bind_eq_some_iff.1 h
      rw [List.cons_append, rowFrom, he]
      simpa using ih hus (taken ++ [u])

/-- A closing bracket ends the last segment of a row. -/
theorem rowFrom_closing {closer : Text} {closing : Token} {taken : List Token}
    (hc : closing.isDelimiter closer = true) (hclosing : IsClosing closer) (htaken : taken ≠ [])
    (last : Option Token) (rest : List Token) :
    rowFrom closer last 0 taken (closing :: rest) = .done [taken] rest := by
  have hkind : closing.kind ≠ .comma := by
    simp only [Token.isDelimiter, decide_eq_true_eq] at hc
    simp [hc.1]
  rw [rowFrom, depthAfter_closing_zero hc hclosing]
  simp [htaken, hkind, hc]

/-- A comma ends a segment, and the row goes on after it. -/
theorem rowFrom_comma {closer : Text} {comma : Token} {taken : List Token}
    (hcomma : comma.kind = .comma) (htaken : taken ≠ []) (last : Option Token)
    (rest : List Token) :
    rowFrom closer last 0 taken (comma :: rest) =
      (rowFrom closer last 0 [] rest).map (taken :: ·) := by
  rw [rowFrom, depthAfter_comma_zero hcomma]
  simp [htaken, hcomma]

/-- Closed segments that commas have joined are read as they were, up to the closing bracket. -/
theorem rowFrom_of_commaJoined {closer : Text} {closing : Token}
    (hc : closing.isDelimiter closer = true) (hclosing : IsClosing closer)
    {segments : List (List Token)} {ts : List Token} (h : CommaJoined segments ts)
    (hne : segments ≠ []) (hall : ∀ s ∈ segments, s ≠ [] ∧ Closed s) (last : Option Token)
    (rest : List Token) :
    rowFrom closer last 0 [] (ts ++ closing :: rest) = .done segments rest := by
  induction h with
  | none => exact absurd rfl hne
  | one ts =>
      obtain ⟨hts, hclosed⟩ := hall ts List.mem_cons_self
      rw [rowFrom_append hclosed, List.nil_append, rowFrom_closing hc hclosing hts]
  | @more ts us comma segments hcomma hsegments _ ih =>
      obtain ⟨hts, hclosed⟩ := hall ts List.mem_cons_self
      rw [List.append_assoc, List.cons_append, rowFrom_append hclosed, List.nil_append,
        rowFrom_comma hcomma hts, ih hsegments fun s hs => hall s (List.mem_cons_of_mem _ hs)]
      rfl

/-- The first token of a row that is not empty closes nothing. -/
theorem head_of_commaJoined {segments : List (List Token)} {ts : List Token}
    (h : CommaJoined segments ts) (hne : segments ≠ []) (hall : ∀ s ∈ segments, s ≠ [] ∧ Closed s) :
    ∃ t us, ts = t :: us ∧ depthAfter 0 t ≠ none := by
  -- a closed segment does not end before its end, so its first token does not end it
  have hhead : ∀ s : List Token, s ≠ [] ∧ Closed s →
      ∃ t us, s = t :: us ∧ depthAfter 0 t ≠ none := by
    rintro (_ | ⟨t, us⟩) ⟨hs, hclosed⟩
    · exact absurd rfl hs
    · refine ⟨t, us, rfl, ?_⟩
      intro hnone
      rw [Closed, depthOver_cons, hnone] at hclosed
      cases hclosed
  cases h with
  | none => exact absurd rfl hne
  | one ts => exact hhead ts (hall ts List.mem_cons_self)
  | more =>
      obtain ⟨t, us, rfl, ht⟩ := hhead _ (hall _ List.mem_cons_self)
      exact ⟨t, _, rfl, ht⟩

/-- The contents of brackets are read as the closed segments that commas have joined. -/
theorem row_of_commaJoined {closer : Text} {closing : Token}
    (hc : closing.isDelimiter closer = true) (hclosing : IsClosing closer)
    {segments : List (List Token)} {ts : List Token} (h : CommaJoined segments ts)
    (hall : ∀ s ∈ segments, s ≠ [] ∧ Closed s) (last : Option Token) (rest : List Token) :
    row closer last (ts ++ closing :: rest) = .done segments rest := by
  by_cases hne : segments = []
  · subst hne
    cases h
    simp [row, hc]
  · obtain ⟨t, us, rfl, ht⟩ := head_of_commaJoined h hne hall
    have hnot : ¬ t.isDelimiter closer = true := fun hd => ht (depthAfter_closing_zero hd hclosing)
    rw [List.cons_append, row, if_neg hnot, ← List.cons_append]
    exact rowFrom_of_commaJoined hc hclosing h hne hall last rest

/-! ## Joining what was read -/

/-- What is read from within a segment on is the end of that segment and a row of others. -/
theorem exists_of_rowFrom {closer : Text} {last : Option Token} {depth : Nat}
    {taken ts rest : List Token} {segments : List (List Token)}
    (h : rowFrom closer last depth taken ts = .done segments rest) :
    ∃ s others us closing, segments = (taken ++ s) :: others ∧ taken ++ s ≠ [] ∧
      depthOver depth s = some 0 ∧ (∀ o ∈ others, o ≠ [] ∧ Closed o) ∧
      CommaJoined (s :: others) us ∧ closing.isDelimiter closer = true ∧
      ts = us ++ closing :: rest := by
  induction ts generalizing depth taken segments with
  | nil => simp [rowFrom] at h
  | cons t ts ih =>
      rw [rowFrom] at h
      split at h
      · -- the token belongs to the segment at hand
        rename_i d hd
        obtain ⟨s, others, us, closing, hsegments, hne, hdepth, hothers, hjoined, hc, rfl⟩ := ih h
        refine ⟨t :: s, others, t :: us, closing, by simpa using hsegments, by simp, ?_, hothers,
          ?_, hc, rfl⟩
        · rw [depthOver_cons, hd]
          exact hdepth
        · cases hjoined with
          | one => exact .one _
          | more hcomma hne' hrest => exact @CommaJoined.more (t :: s) _ _ _ hcomma hne' hrest
      · rename_i hd
        have hdepth : depth = 0 := eq_zero_of_depthAfter_eq_none hd
        split_ifs at h with htaken hcomma hc
        · -- a comma: the segment ends here, and the row goes on
          obtain ⟨segments', hrest, rfl⟩ := Reading.map_eq_done_iff.1 h
          obtain ⟨s, others, us, closing, rfl, hne, hs, hothers, hjoined, hc, rfl⟩ := ih hrest
          refine ⟨[], s :: others, t :: us, closing, by simp, by simpa using htaken, ?_, ?_, ?_, hc,
            rfl⟩
          · rw [hdepth]
            rfl
          · exact List.forall_mem_cons.2 ⟨⟨hne, hs⟩, hothers⟩
          · exact @CommaJoined.more [] _ _ _ hcomma (List.cons_ne_nil _ _) hjoined
        · -- the closing bracket
          cases h
          refine ⟨[], [], [], t, by simp, by simpa using htaken, ?_, by simp, .one [], hc, rfl⟩
          rw [hdepth]
          rfl

/-- The segments that are read from the contents of brackets are closed, and commas join them. -/
theorem commaJoined_of_row {closer : Text} {last : Option Token} {ts rest : List Token}
    {segments : List (List Token)} (h : row closer last ts = .done segments rest) :
    ∃ us closing, ts = us ++ closing :: rest ∧ closing.isDelimiter closer = true ∧
      CommaJoined segments us ∧ ∀ s ∈ segments, s ≠ [] ∧ Closed s := by
  cases ts with
  | nil => simp [row] at h
  | cons t ts =>
      rw [row] at h
      split_ifs at h with hc
      · cases h
        exact ⟨[], t, rfl, hc, .none, by simp⟩
      · obtain ⟨s, others, us, closing, rfl, hne, hs, hothers, hjoined, hc', hts⟩ :=
          exists_of_rowFrom h
        rw [List.nil_append] at hne ⊢
        exact ⟨us, closing, hts, hc', hjoined, List.forall_mem_cons.2 ⟨⟨hne, hs⟩, hothers⟩⟩

/-! ## Looking outside the brackets -/

/-- The balance of the brackets and their depth move alike where a segment does not end. -/
theorem balanceAfter_of_depthAfter {depth d : Nat} {t : Token} (h : depthAfter depth t = some d)
    (k : Int) : balanceAfter (depth + k) t = d + k := by
  unfold depthAfter at h
  unfold balanceAfter
  split_ifs at h ⊢ <;> simp_all <;> omega

/-- Looking from a depth passes over the tokens: none of them is found, and the depth is kept. -/
def Passed (p : Token → Bool) (depth : Int) (ts : List Token) : Prop :=
  ∀ us, topLevelIndex? p depth (ts ++ us) = (topLevelIndex? p depth us).map (· + ts.length)

/-- Nothing is found in an empty list. -/
theorem passed_nil (p : Token → Bool) (depth : Int) : Passed p depth [] := by
  intro us
  simp

/-- What is passed over piece by piece is passed over. -/
theorem Passed.append {p : Token → Bool} {depth : Int} {ts us : List Token}
    (hts : Passed p depth ts) (hus : Passed p depth us) : Passed p depth (ts ++ us) := by
  intro vs
  rw [List.append_assoc, hts, hus, Option.map_map, List.length_append]
  congr 1
  funext n
  simp only [Function.comp]
  omega

/-- A token that is not sought there and keeps the depth is passed over. -/
theorem passed_singleton {p : Token → Bool} {depth : Int} {t : Token}
    (h : ¬ (t.kind ≠ .delimiter ∧ depth = 0 ∧ p t = true)) (hdepth : balanceAfter depth t = depth) :
    Passed p depth [t] := by
  intro us
  rw [List.cons_append, topLevelIndex?, if_neg h, hdepth]
  rfl

/-- A token that is neither sought nor a delimiter is passed over. -/
theorem passed_of_kind {p : Token → Bool} {t : Token} (hp : ¬ p t = true)
    (hd : t.kind ≠ .delimiter) (depth : Int) : Passed p depth [t] := by
  refine passed_singleton (by simp [hp]) ?_
  simp [balanceAfter, Token.isOpener, Token.isCloser, hd]

/-- A closed segment inside a bracket is passed over. -/
theorem Closed.passed {ts : List Token} (h : Closed ts) (p : Token → Bool) : Passed p 1 ts := by
  -- the depth may rise and fall inside the segment, but it stays above that of the bracket
  have key : ∀ (ts : List Token) (depth d : Nat), Segment.depthOver depth ts = some d → ∀ us,
      topLevelIndex? p (depth + 1) (ts ++ us) =
        (topLevelIndex? p (d + 1) us).map (· + ts.length) := by
    intro ts
    induction ts with
    | nil =>
        intro depth d h us
        cases h
        simp
    | cons t ts ih =>
        intro depth d h us
        obtain ⟨e, he, hts⟩ := Option.bind_eq_some_iff.1 h
        have hne : ¬ (t.kind ≠ .delimiter ∧ (depth : Int) + 1 = 0 ∧ p t = true) := by omega
        rw [List.cons_append, topLevelIndex?, if_neg hne, balanceAfter_of_depthAfter he,
          ih e d hts, Option.map_map]
        rfl
  intro us
  simpa using key ts 0 0 h us

/-- A row of closed segments inside a bracket is passed over. -/
theorem passed_of_commaJoined {segments : List (List Token)} {ts : List Token}
    (h : CommaJoined segments ts) (hclosed : ∀ s ∈ segments, Closed s) (p : Token → Bool) :
    Passed p 1 ts := by
  induction h with
  | none => exact passed_nil p 1
  | one ts => exact (hclosed ts List.mem_cons_self).passed p
  | @more ts us comma segments hcomma _ _ ih =>
      have hts := (hclosed ts List.mem_cons_self).passed p
      have hus := ih fun s hs => hclosed s (List.mem_cons_of_mem _ hs)
      have hc : Passed p 1 [comma] :=
        passed_singleton (by simp) (by simp [balanceAfter, comma_not_bracket hcomma])
      exact hts.append (hc.append hus)

/-- A row of closed segments between brackets is passed over. -/
theorem passed_brackets {segments : List (List Token)} {ts : List Token} {opening closing : Token}
    {left right : Text} (ho : opening.isDelimiter left = true) (hleft : IsOpening left)
    (hc : closing.isDelimiter right = true) (hright : IsClosing right)
    (h : CommaJoined segments ts) (hclosed : ∀ s ∈ segments, Closed s) (p : Token → Bool) :
    Passed p 0 (opening :: (ts ++ [closing])) := by
  intro us
  have hopen := depthAfter_opening ho hleft 0
  have hclose := depthAfter_closing_succ hc hright 0
  have hbo : balanceAfter 0 opening = 1 := by simpa using balanceAfter_of_depthAfter hopen 0
  have hbc : balanceAfter 1 closing = 0 := by simpa using balanceAfter_of_depthAfter hclose 0
  simp only [Token.isDelimiter, decide_eq_true_eq] at ho hc
  rw [List.cons_append, topLevelIndex?, if_neg (by simp [ho.1]), hbo, List.append_assoc,
    passed_of_commaJoined h hclosed p, List.singleton_append, topLevelIndex?,
    if_neg (by simp), hbc, Option.map_map, Option.map_map]
  congr 1
  funext n
  simp only [Function.comp, List.length_cons, List.length_append, List.length_nil]
  omega

/-- What is found splits the list: what is sought stands at the index. -/
theorem split_of_topLevelIndex? {p : Token → Bool} {depth : Int} {ts : List Token} {i : Nat}
    (h : topLevelIndex? p depth ts = some i) :
    ∃ t, ts = ts.take i ++ t :: ts.drop (i + 1) ∧ p t = true := by
  induction ts generalizing depth i with
  | nil => simp [topLevelIndex?] at h
  | cons t ts ih =>
      rw [topLevelIndex?] at h
      split_ifs at h with ht
      · cases h
        exact ⟨t, rfl, ht.2.2⟩
      · obtain ⟨j, hj, rfl⟩ := Option.map_eq_some_iff.1 h
        obtain ⟨u, hu, hp⟩ := ih hj
        exact ⟨u, congrArg (t :: ·) hu, hp⟩

end Segment

/-! ## No expression shows an arrow -/

namespace Grammar

open Segment

/-- Looking for an operator passes over an expression. -/
theorem Derives.passed {n : Node} {ts : List Token} (h : Derives (.expression n) ts)
    {p : Token → Bool} (hp : ∀ t, p t = true → t.kind = .operator) : Passed p 0 ts := by
  have hkind : ∀ t : Token, t.kind ≠ .operator → ¬ p t = true := fun t ht hpt => ht (hp t hpt)
  -- rows are passed because they are closed; only the value of an attribute needs the theorem again
  cases h with
  | moduleAttribute hsign hname hv =>
      exact (passed_of_kind (hkind _ (by simp [hsign])) (by simp [hsign]) 0).append
        ((passed_of_kind (hkind _ (by simp [hname])) (by simp [hname]) 0).append (hv.passed hp))
  | call hi hd _ ho hc hparts hjoined =>
      refine (passed_of_kind (hkind _ (by simp [hi])) (by simp [hi]) 0).append
        ((passed_of_kind (hkind _ (by simp [hd])) (by simp [hd]) 0).append
          (passed_brackets ho (Or.inl rfl) hc (Or.inl rfl) hjoined ?_ p))
      exact List.forall_mem_map.2 fun part hpart => (hparts part hpart).closed
  | literal h =>
      refine passed_of_kind (hkind _ ?_) h.kind_ne.1 0
      intro ht
      rw [ht] at h
      cases h
  | collection ho hc hparts hjoined =>
      exact passed_brackets ho (isOpening_opener _) hc (isClosing_closer _) hjoined
        (List.forall_mem_map.2 fun part hpart => (hparts part hpart).closed) p
  | @hashMap sign _ _ _ _ hs ho hc hparts hjoined =>
      have hsign : Passed p 0 [sign] := by
        simp only [Token.isDelimiter, decide_eq_true_eq] at hs
        refine passed_singleton (by simp [hs.1]) ?_
        simp [balanceAfter, Token.isOpener, Token.isCloser, hs.1, hs.2]
      refine hsign.append (passed_brackets ho (Or.inr (Or.inr rfl)) hc (Or.inr (Or.inr rfl))
        hjoined ?_ p)
      exact List.forall_mem_map.2 fun part hpart => (hparts part hpart).closed

end Grammar

end ElixirTerms
