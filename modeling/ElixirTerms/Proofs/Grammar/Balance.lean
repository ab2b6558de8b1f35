/-
# Counting brackets

A segment is closed if and only if it has as many closing brackets as opening ones, at no point
more of them, and no comma where it has as many (`closed_iff_balanced`).  Only the numbers count:
their kinds are not told apart.
-/
import ElixirTerms.Proofs.Grammar.Segments

namespace ElixirTerms.Segment

open Grammar

/-! ## The number of open brackets -/

/-- The number of opening brackets less the number of closing ones. -/
def openBrackets (ts : List Token) : Int := ts.countP Token.isOpener - ts.countP Token.isCloser

@[simp] theorem openBrackets_nil : openBrackets [] = 0 := rfl

/-- The brackets of two lists are counted one list after the other. -/
theorem openBrackets_append (ts us : List Token) :
    openBrackets (ts ++ us) = openBrackets ts + openBrackets us := by
  simp only [openBrackets, List.countP_append]
  omega

theorem openBrackets_cons (t : Token) (ts : List Token) :
    openBrackets (t :: ts) = openBrackets [t] + openBrackets ts :=
  openBrackets_append [t] ts

/-- No bracket both opens and closes. -/
theorem isCloser_of_isOpener {t : Token} (h : t.isOpener = true) : t.isCloser = false := by
  simp only [Token.isOpener, decide_eq_true_eq] at h
  rcases h.2 with h | h | h <;> simp [Token.isCloser, h]

/-- A token changes the depth by what it counts, unless it ends the segment. -/
theorem eq_of_depthAfter {depth d : Nat} {t : Token} (h : depthAfter depth t = some d) :
    (d : Int) = depth + openBrackets [t] := by
  simp only [openBrackets, List.countP_singleton]
  unfold depthAfter at h
  split_ifs at h with hopener hcloser hdepth hcomma
  · cases h
    simp [hopener, isCloser_of_isOpener hopener]
  · cases h
    simp only [Bool.not_eq_true] at hopener
    simp only [hopener, hcloser, if_true, Bool.false_eq_true, if_false]
    omega
  · cases h
    simp only [Bool.not_eq_true] at hopener hcloser
    simp [hopener, hcloser]

/-- A token that ends a segment shuts a bracket or is a comma. -/
theorem of_depthAfter_eq_none {depth : Nat} {t : Token} (h : depthAfter depth t = none) :
    openBrackets [t] = -1 ∨ t.kind = .comma := by
  unfold depthAfter at h
  split_ifs at h with hopener hcloser hdepth hcomma
  · simp only [Bool.not_eq_true] at hopener
    exact Or.inl (by simp [openBrackets, hopener, hcloser])
  · exact Or.inr hcomma.1

/-- Tokens change the depth by what they count, unless one of them ends the segment. -/
theorem eq_of_depthOver {depth d : Nat} {ts : List Token} (h : depthOver depth ts = some d) :
    (d : Int) = depth + openBrackets ts := by
  induction ts generalizing depth with
  | nil =>
      cases h
      simp
  | cons t ts ih =>
      obtain ⟨e, he, hts⟩ := Option.bind_eq_some_iff.1 h
      rw [openBrackets_cons, ih hts, eq_of_depthAfter he]
      omega

/-- Closed tokens count nothing. -/
theorem Closed.openBrackets_eq {ts : List Token} (h : Closed ts) : openBrackets ts = 0 := by
  have := eq_of_depthOver h
  omega

/-- An opening bracket counts one. -/
theorem openBrackets_opening {t : Token} {lexeme : Text} (h : t.isDelimiter lexeme = true)
    (ho : IsOpening lexeme) : openBrackets [t] = 1 := by
  have := eq_of_depthAfter (depthAfter_opening h ho 0)
  omega

/-- A comma counts nothing. -/
theorem openBrackets_comma {t : Token} (h : t.kind = .comma) : openBrackets [t] = 0 := by
  simp [openBrackets, comma_not_bracket h]

/-! ## Balanced tokens -/

/-- Inside some brackets, tokens shut no more of them than there are, and have no comma where all
are shut. -/
structure Within (depth : Nat) (ts : List Token) : Prop where
  nonneg : ∀ us, us <+: ts → 0 ≤ depth + openBrackets us
  comma : ∀ us comma vs, ts = us ++ comma :: vs → comma.kind = .comma →
    depth + openBrackets us ≠ 0

/-- Tokens shut all the brackets that they open and at no point more, and have no comma outside
them. -/
structure Balanced (ts : List Token) : Prop where
  nonneg : ∀ us, us <+: ts → 0 ≤ openBrackets us
  shut : openBrackets ts = 0
  comma : ∀ us comma vs, ts = us ++ comma :: vs → comma.kind = .comma → openBrackets us ≠ 0

theorem within_nil (depth : Nat) : Within depth [] := by
  constructor
  · intro us hus
    rw [List.prefix_nil.1 hus, openBrackets_nil]
    omega
  · intro us comma vs h
    simp at h

/-- The first token ends no segment, and the others are within the depth after it. -/
theorem within_cons (depth : Nat) (t : Token) (ts : List Token) :
    Within depth (t :: ts) ↔ ∃ d, depthAfter depth t = some d ∧ Within d ts := by
  constructor
  · intro h
    cases hd : depthAfter depth t with
    | none =>
        -- a closing bracket shuts one too many, and a comma stands outside
        have hdepth := eq_zero_of_depthAfter_eq_none hd
        rcases of_depthAfter_eq_none hd with hcount | hkind
        · have := h.nonneg [t] ⟨ts, rfl⟩
          omega
        · have := h.comma [] t ts rfl hkind
          rw [openBrackets_nil] at this
          omega
    | some d =>
        have hcount := eq_of_depthAfter hd
        refine ⟨d, rfl, ?_, ?_⟩
        · intro us hus
          have := h.nonneg (t :: us) (List.cons_prefix_cons.2 ⟨rfl, hus⟩)
          rw [openBrackets_cons] at this
          omega
        · intro us comma vs hts hkind
          have := h.comma (t :: us) comma vs (by rw [hts]; rfl) hkind
          rw [openBrackets_cons] at this
          omega
  · rintro ⟨d, hd, h⟩
    have hcount := eq_of_depthAfter hd
    constructor
    · intro us hus
      rcases List.prefix_cons_iff.1 hus with rfl | ⟨us', rfl, hus'⟩
      · simp
      · have := h.nonneg us' hus'
        rw [openBrackets_cons]
        omega
    · intro us comma vs heq hkind
      cases us with
      | nil =>
          -- a comma outside all brackets would have ended the segment
          obtain ⟨rfl, -⟩ := List.cons.inj heq
          intro hzero
          have hdepth : depth = 0 := by simpa using hzero
          rw [hdepth, depthAfter_comma_zero hkind] at hd
          cases hd
      | cons u us =>
          obtain ⟨rfl, hts⟩ := List.cons.inj heq
          have := h.comma us comma vs hts hkind
          rw [openBrackets_cons]
          omega

/-- None of some tokens ends the segment if and only if they are within the depth. -/
theorem exists_depthOver_iff_within (depth : Nat) (ts : List Token) :
    (∃ d, depthOver depth ts = some d) ↔ Within depth ts := by
  induction ts generalizing depth with
  | nil => exact ⟨fun _ => within_nil depth, fun _ => ⟨depth, rfl⟩⟩
  | cons t ts ih =>
      simp only [within_cons, depthOver_cons, Option.bind_eq_some_iff, ← ih]
      constructor
      · rintro ⟨d, e, he, hts⟩
        exact ⟨e, he, d, hts⟩
      · rintro ⟨e, he, d, hts⟩
        exact ⟨d, e, he, hts⟩

/-- The closed segments are those whose brackets balance. -/
theorem closed_iff_balanced (ts : List Token) : Closed ts ↔ Balanced ts := by
  constructor
  · intro h
    obtain ⟨hnonneg, hcomma⟩ := (exists_depthOver_iff_within 0 ts).1 ⟨0, h⟩
    simp only [Int.natCast_zero, Int.zero_add] at hnonneg hcomma
    exact ⟨hnonneg, h.openBrackets_eq, hcomma⟩
  · rintro ⟨hnonneg, hshut, hcomma⟩
    have hwithin : Within 0 ts := by
      constructor
      · simpa using hnonneg
      · simpa using hcomma
    obtain ⟨d, hd⟩ := (exists_depthOver_iff_within 0 ts).2 hwithin
    have := eq_of_depthOver hd
    have hzero : d = 0 := by omega
    rwa [hzero] at hd

end ElixirTerms.Segment
