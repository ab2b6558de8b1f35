/-
# Classes of characters that exclude each other

No blank is a letter, a number or upper case, so no word holds one; and no punctuation that starts
another token is alphanumeric or upper case.
-/
import Mathlib.Tactic.SplitIfs
import ElixirTerms.Token.Alphabet

namespace ElixirTerms

namespace Unicode

/-- Whether all of some characters have a property is decided one by one. -/
instance decidableForallMem (p : Char → Prop) [DecidablePred p] (cs : List Char) :
    Decidable (∀ c ∈ cs, p c) := List.decidableBAll p cs

/-- The code points of the blanks, one by one. -/
def blankCodes : List Nat :=
  [0x9, 0xA, 0xB, 0xC, 0xD, 0x1C, 0x1D, 0x1E, 0x1F, 0x20, 0x85, 0xA0, 0x1680, 0x2000, 0x2001,
   0x2002, 0x2003, 0x2004, 0x2005, 0x2006, 0x2007, 0x2008, 0x2009, 0x200A, 0x2028, 0x2029, 0x202F,
   0x205F, 0x3000]

/-- A blank has one of these code points. -/
theorem mem_blankCodes {c : Char} (h : isBlank c = true) : c.toNat ∈ blankCodes := by
  -- the ranges are short enough to be listed
  obtain ⟨r, hr, hfirst, hlast⟩ := exists_range_of_inRanges h
  simp only [blankRanges, List.mem_cons, List.not_mem_nil, or_false] at hr
  simp only [blankCodes, List.mem_cons, List.not_mem_nil, or_false]
  rcases hr with rfl | rfl | rfl | rfl | rfl | rfl | rfl | rfl | rfl | rfl <;>
    simp only at hfirst hlast <;> omega

/-- No code point of a blank is in the tables of alphanumeric or of upper-case characters. -/
theorem blankCodes_excluded :
    ∀ n ∈ blankCodes, inRanges n alphanumericRanges = false ∧ inRanges n upperRanges = false := by
  decide +kernel

/-- A blank of ASCII is neither alphanumeric nor upper case. -/
theorem ascii_blank_excluded {c : Char} (h : isBlank c = true) (hc : c.toNat < 0x80) :
    c.isAlphanum = false ∧ c.isUpper = false := by
  have hmem := mem_blankCodes h
  simp only [blankCodes, List.mem_cons, List.not_mem_nil, or_false] at hmem
  have hnot : ∀ n ∈ [0x9, 0xA, 0xB, 0xC, 0xD, 0x1C, 0x1D, 0x1E, 0x1F, 0x20],
      (Char.ofNat n).isAlphanum = false ∧ (Char.ofNat n).isUpper = false := by decide
  have := hnot c.toNat (by simp only [List.mem_cons, List.not_mem_nil, or_false]; omega)
  rwa [Char.ofNat_toNat] at this

/-- No blank is alphanumeric. -/
theorem not_isAlphanumeric_of_isBlank {c : Char} (h : isBlank c = true) :
    isAlphanumeric c = false := by
  unfold isAlphanumeric
  split_ifs with hc
  · exact (ascii_blank_excluded h hc).1
  · exact (blankCodes_excluded c.toNat (mem_blankCodes h)).1

/-- No blank is upper case. -/
theorem not_isUpper_of_isBlank {c : Char} (h : isBlank c = true) : isUpper c = false := by
  unfold isUpper
  split_ifs with hc
  · exact (ascii_blank_excluded h hc).2
  · exact (blankCodes_excluded c.toNat (mem_blankCodes h)).2

/-- An alphanumeric character is no blank. -/
theorem not_isBlank_of_isAlphanumeric {c : Char} (h : isAlphanumeric c = true) :
    isBlank c = false := by
  cases hblank : isBlank c with
  | false => rfl
  | true => rw [not_isAlphanumeric_of_isBlank hblank] at h; cases h

/-- An upper-case character is no blank. -/
theorem not_isBlank_of_isUpper {c : Char} (h : isUpper c = true) : isBlank c = false := by
  cases hblank : isBlank c with
  | false => rfl
  | true => rw [not_isUpper_of_isBlank hblank] at h; cases h

/-- The code points of the upper-case letters of ASCII. -/
theorem toNat_of_isUpper {c : Char} (h : c.isUpper = true) :
    0x41 ≤ c.toNat ∧ c.toNat ≤ 0x5A := by
  have hcode : 0x41 ≤ c.val ∧ c.val ≤ 0x5A := of_decide_eq_true h
  exact hcode

/-- The code points of the lower-case letters of ASCII. -/
theorem toNat_of_isLower {c : Char} (h : c.isLower = true) :
    0x61 ≤ c.toNat ∧ c.toNat ≤ 0x7A := by
  obtain ⟨hfirst, hlast⟩ := (Bool.and_eq_true _ _).mp h
  exact ⟨of_decide_eq_true hfirst, of_decide_eq_true hlast⟩

/-- Letters and digits of ASCII lie in ASCII. -/
theorem toNat_lt_of_isAlphanum {c : Char} (h : c.isAlphanum = true) : c.toNat < 0x80 := by
  have hkind : (c.isUpper = true ∨ c.isLower = true) ∨ c.isDigit = true :=
    ((Bool.or_eq_true _ _).mp h).imp_left (Bool.or_eq_true _ _).mp
  rcases hkind with (h | h) | h
  · have hcode := toNat_of_isUpper h
    omega
  · have hcode := toNat_of_isLower h
    omega
  · have hcode : 0x30 ≤ c.toNat ∧ c.toNat ≤ 0x39 := Char.isDigit_iff_toNat.1 h
    omega

/-- A letter or digit of ASCII is alphanumeric. -/
theorem isAlphanumeric_of_isAlphanum {c : Char} (h : c.isAlphanum = true) :
    isAlphanumeric c = true := by
  rw [isAlphanumeric, if_pos (toNat_lt_of_isAlphanum h), h]

/-- An upper-case character is alphanumeric, or it lies beyond ASCII. -/
theorem isAlphanumeric_or_of_isUpper {c : Char} (h : isUpper c = true) :
    isAlphanumeric c = true ∨ 0x80 ≤ c.toNat := by
  by_cases hc : c.toNat < 0x80
  · rw [isUpper, if_pos hc] at h
    left
    have halpha : (c.isUpper || c.isLower || c.isDigit) = true := by
      rw [h, Bool.true_or, Bool.true_or]
    exact isAlphanumeric_of_isAlphanum halpha
  · right
    omega

end Unicode

namespace Token

open Unicode

/-! ## Words -/

/-- An atom holds no blank. -/
theorem not_isBlank_of_isAtomChar {c : Char} (h : isAtomChar c = true) : isBlank c = false := by
  rw [isAtomChar, Bool.or_eq_true, decide_eq_true_eq] at h
  rcases h with h | h
  · exact not_isBlank_of_isAlphanumeric h
  · have hmarks : ∀ d ∈ ['_', '?', '!'], isBlank d = false := by decide
    exact hmarks c h

/-- What an atom may hold, a word may. -/
theorem isWordChar_of_isAtomChar {c : Char} (h : isAtomChar c = true) : isWordChar c = true := by
  simp [isWordChar, not_isBlank_of_isAtomChar h, h]

/-- A word may hold upper-case characters. -/
theorem isWordChar_of_isUpper {c : Char} (h : isUpper c = true) : isWordChar c = true := by
  -- beyond ASCII upper case need not be alphanumeric, but all punctuation lies in ASCII
  rcases isAlphanumeric_or_of_isUpper h with hc | hc
  · exact isWordChar_of_isAtomChar (by simp [isAtomChar, hc])
  · have hpunctuation : isPunctuation c = false := by
      simp only [isPunctuation, inRanges, Bool.and_eq_false_iff, Bool.or_eq_false_iff,
        decide_eq_false_iff_not, and_true]
      omega
    simp [isWordChar, not_isBlank_of_isUpper h, hpunctuation]

/-! ## Comments -/

/-- The characters that end a comment are blanks. -/
theorem isBlank_of_not_isCommentChar {c : Char} (h : isCommentChar c = false) :
    isBlank c = true := by
  have hstop : c ∈ ['\n', '\r', '\t'] := Decidable.not_not.1 (of_decide_eq_false h)
  have hblanks : ∀ d ∈ ['\n', '\r', '\t'], isBlank d = true := by decide
  exact hblanks c hstop

/-! ## Marks that start other tokens -/

/-- The characters that start tokens of their own, and are part of no word that starts with
them. -/
def marks : List Char :=
  [',', '@', '#', '?', '.', '"', '\'', ':'] ++ delimiters ++ operatorChars

/-- No mark is a blank, alphanumeric, upper case or an underscore. -/
theorem marks_excluded :
    ∀ c ∈ marks, isBlank c = false ∧ isAlphanumeric c = false ∧ isUpper c = false ∧ c ≠ '_' := by
  decide +kernel

/-- A letter, a number or an underscore is no mark. -/
theorem not_mem_marks_of_isAlphanumeric {c : Char} (h : isAlphanumeric c = true ∨ c = '_') :
    c ∉ marks := by
  intro hc
  obtain ⟨-, halphanumeric, -, hunderscore⟩ := marks_excluded c hc
  rcases h with h | h
  · rw [halphanumeric] at h
    cases h
  · exact hunderscore h

/-- An upper-case character is no mark. -/
theorem not_mem_marks_of_isUpper {c : Char} (h : isUpper c = true) : c ∉ marks := by
  intro hc
  rw [(marks_excluded c hc).2.2.1] at h
  cases h

/-- An upper-case character is no digit of ASCII. -/
theorem not_isDigit_of_isUpper {c : Char} (h : isUpper c = true) : c.isDigit = false := by
  cases hdigit : c.isDigit with
  | false => rfl
  | true =>
      have hcode : 0x30 ≤ c.toNat ∧ c.toNat ≤ 0x39 := Char.isDigit_iff_toNat.1 hdigit
      rw [isUpper, if_pos (by omega)] at h
      have hupper := toNat_of_isUpper h
      omega

end Token

end ElixirTerms
