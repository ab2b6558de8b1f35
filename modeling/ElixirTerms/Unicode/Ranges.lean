/-
# Sets of characters as ranges of code points

A character class is given as a list of inclusive ranges in ascending order.  Membership stops at
the first range that begins beyond the code point in question.
-/

namespace ElixirTerms.Unicode

/-- An inclusive range of code points, first and last. -/
abbrev CodeRange := Nat × Nat

/-- Whether a code point lies in one of the ranges, which stand in ascending order. -/
def inRanges (n : Nat) : List CodeRange → Bool
  | [] => false
  | (first, last) :: later => first ≤ n && (n ≤ last || inRanges n later)

/-- A member of the class lies between the ends of one of its ranges. -/
theorem exists_range_of_inRanges {n : Nat} {ranges : List CodeRange}
    (h : inRanges n ranges = true) : ∃ r ∈ ranges, r.1 ≤ n ∧ n ≤ r.2 := by
  induction ranges with
  | nil => simp [inRanges] at h
  | cons r later ih =>
    simp only [inRanges, Bool.and_eq_true, Bool.or_eq_true, decide_eq_true_eq] at h
    obtain ⟨hfirst, hlast | hlater⟩ := h
    · exact ⟨r, List.mem_cons_self, hfirst, hlast⟩
    · obtain ⟨r', hr', hbounds⟩ := ih hlater
      exact ⟨r', List.mem_cons_of_mem r hr', hbounds⟩

end ElixirTerms.Unicode
