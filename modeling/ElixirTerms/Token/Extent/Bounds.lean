/-
# Bounds of extents

The token at the head of a text takes at least one character of it (`scan_pos`) and no more than
there are (`scan_le`).
-/
import ElixirTerms.Token.Extent

namespace ElixirTerms.Extent

open Token Unicode

/-! ## At least one character -/

/-- A run that starts with a character of its class takes at least that one. -/
theorem run_pos {p : Char → Bool} {c : Char} {s : Text} (h : p c = true) :
    0 < run p (c :: s) := by
  simp [run, h]

theorem heredoc_pos (quote : Char) (kind : Kind) (s : Text) :
    0 < (heredoc quote kind s).length := by
  unfold heredoc
  split <;> simp only [unclosed] <;> omega

theorem quoted_pos (quote : Char) (kind : Kind) (s : Text) :
    0 < (quoted quote kind s).length := by
  unfold quoted
  split
  · exact heredoc_pos quote kind s
  · split <;> simp only [unclosed] <;> omega

theorem atom?_pos {s : Text} {e : Extent} (h : atom? s = some e) : 0 < e.length := by
  unfold atom? at h
  split at h
  · split at h
    · cases h; exact Nat.succ_pos _
    · split at h
      · cases h; exact Nat.succ_pos _
      · cases h
  · cases h

theorem codepoint_pos (s : Text) : 0 < (codepoint s).length := by
  unfold codepoint
  split <;> exact Nat.succ_pos _

theorem word_pos {c : Char} {s : Text} (h : isWordChar c = true) :
    0 < (word (c :: s)).length := by
  simp [word, h]

/-- A character that starts no word takes part in the illegal run that it starts. -/
theorem plain_pos {c : Char} (s : Text) (h : isBlank c = false) : 0 < (plain c s).length := by
  unfold plain
  split
  · exact Nat.one_pos
  split
  · exact run_pos ‹_›
  split
  · exact run_pos (by simp_all [isNumberChar, Char.isAlphanum])
  split
  · exact word_pos ‹_›
  · exact run_pos (by simp [h])

/-- Every token takes at least one character. -/
theorem scan_pos (c : Char) (s : Text) : 0 < (scan c s).length := by
  unfold scan
  split
  · exact run_pos ‹_›
  have hblank : isBlank c = false := by simpa using ‹¬ isBlank c = true›
  split
  · exact Nat.one_pos
  split
  · exact Nat.one_pos
  split
  · subst_vars; exact run_pos (by decide)
  split
  · exact codepoint_pos _
  split
  · exact run_pos (by simpa using ‹c = '.'›)
  split
  · exact quoted_pos _ _ _
  split
  · exact quoted_pos _ _ _
  split
  · cases hatom : atom? (c :: s) with
    | none => exact plain_pos s hblank
    | some e => exact atom?_pos hatom
  · exact plain_pos s hblank

/-! ## At most the remaining text -/

/-- A run takes no more than there is. -/
theorem run_le (p : Char → Bool) (s : Text) : run p s ≤ s.length :=
  (List.takeWhile_prefix p).length_le

theorem closing?_le {quote : Char} {s : Text} {n : Nat} (h : closing? quote s = some n) :
    n ≤ s.length := by
  fun_induction closing? quote s generalizing n with
  | case1 => cases h
  | case2 => cases h
  | case3 _ s ih =>
    obtain ⟨m, hm, rfl⟩ := Option.map_eq_some_iff.1 h
    have := ih hm
    simp only [List.length_cons]
    omega
  | case4 => cases h; exact Nat.succ_pos _
  | case5 c s _ _ _ ih =>
    obtain ⟨m, hm, rfl⟩ := Option.map_eq_some_iff.1 h
    exact Nat.succ_le_succ (ih hm)

theorem tripleClosing?_le {quote : Char} {seen : Nat} {s : Text} {n : Nat}
    (h : tripleClosing? quote seen s = some n) : n ≤ s.length := by
  fun_induction tripleClosing? quote seen s generalizing n with
  | case1 => cases h
  | case2 => cases h
  | case3 _ _ s ih =>
    obtain ⟨m, hm, rfl⟩ := Option.map_eq_some_iff.1 h
    have := ih hm
    simp only [List.length_cons]
    omega
  | case4 => cases h; exact Nat.succ_pos _
  | case5 _ _ _ _ _ ih =>
    obtain ⟨m, hm, rfl⟩ := Option.map_eq_some_iff.1 h
    exact Nat.succ_le_succ (ih hm)
  | case6 _ _ _ _ _ _ ih =>
    obtain ⟨m, hm, rfl⟩ := Option.map_eq_some_iff.1 h
    exact Nat.succ_le_succ (ih hm)

theorem heredoc_le {quote : Char} {kind : Kind} {s : Text} (h : 3 ≤ s.length) :
    (heredoc quote kind s).length ≤ s.length := by
  unfold heredoc
  split
  · rename_i n hn
    have := tripleClosing?_le hn
    rw [List.length_drop] at this
    simp only
    omega
  · simp only [unclosed]
    omega

theorem quoted_le (quote : Char) (kind : Kind) (c : Char) (s : Text) :
    (quoted quote kind (c :: s)).length ≤ (c :: s).length := by
  unfold quoted
  split
  · rename_i h
    obtain ⟨hlength, -⟩ := List.getElem?_eq_some_iff.1 h.2
    exact heredoc_le hlength
  · split
    · rename_i n hn
      exact Nat.succ_le_succ (closing?_le hn)
    · simp [unclosed]

theorem atomTail_le (isAlias : Bool) (s : Text) : atomTail isAlias s ≤ s.length := by
  induction s with
  | nil => exact Nat.le_refl _
  | cons c s ih =>
    unfold atomTail
    split
    · exact Nat.succ_le_succ ih
    · exact Nat.zero_le _

theorem atom?_le {s : Text} {e : Extent} (h : atom? s = some e) : e.length ≤ s.length := by
  unfold atom? at h
  split at h
  · split at h
    · cases h; exact Nat.succ_le_succ (quoted_le _ _ _ _)
    · split at h
      · cases h; exact Nat.succ_le_succ (atomTail_le _ _)
      · cases h
  · cases h

theorem codepoint_le (c : Char) (s : Text) : (codepoint (c :: s)).length ≤ (c :: s).length := by
  unfold codepoint
  split
  · rename_i t h
    cases h
    have := run_le isCodepointChar t
    simp only [List.length_cons]
    omega
  · exact Nat.succ_le_succ (run_le isCodepointChar s)

theorem plain_le (c : Char) (s : Text) : (plain c s).length ≤ (c :: s).length := by
  unfold plain
  split
  · exact Nat.succ_pos _
  split
  · exact run_le _ _
  split
  · exact run_le _ _
  split
  · exact run_le _ _
  · exact run_le _ _

/-- No token takes more characters than there are. -/
theorem scan_le (c : Char) (s : Text) : (scan c s).length ≤ (c :: s).length := by
  unfold scan
  split
  · exact run_le _ _
  split
  · exact Nat.succ_pos _
  split
  · exact Nat.succ_pos _
  split
  · exact run_le _ _
  split
  · exact codepoint_le _ _
  split
  · exact run_le _ _
  split
  · exact quoted_le _ _ _ _
  split
  · exact quoted_le _ _ _ _
  split
  · cases hatom : atom? (c :: s) with
    | none => exact plain_le c s
    | some e => exact atom?_le hatom
  · exact plain_le c s

end ElixirTerms.Extent
