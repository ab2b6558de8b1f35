/-
# Newlines

A text has one line more than it has newlines, and texts that are joined as lines have all their
lines (`lineCount_joinLines`).  Most of what is printed holds no newline: numbers, texts between
quotes, and those words and numbers that are cut out of a text.
-/
import Mathlib
import ElixirTerms.Node.Outline
import ElixirTerms.Proofs.Canonical.Keys
import ElixirTerms.Proofs.Canonical.Source

namespace ElixirTerms

/-! ## Lines of a text -/

namespace Text

/-- The number of lines of a text: of what stands between its newlines. -/
def lineCount (s : Text) : Nat := (s.splitOn '\n').length

/-- A text has one line more than newlines. -/
theorem lineCount_eq (s : Text) : s.lineCount = s.count '\n' + 1 := by
  induction s with
  | nil => rfl
  | cons c s ih =>
      rw [lineCount] at ih ⊢
      rw [List.splitOn_cons_eq_if_modifyHead, List.count_cons]
      split_ifs with hc
      · rw [List.length_cons, ih]
      · rw [List.length_modifyHead, ih]

/-- A text without newlines is one line. -/
theorem lineCount_of_not_mem {s : Text} (h : '\n' ∉ s) : s.lineCount = 1 := by
  rw [lineCount_eq, List.count_eq_zero_of_not_mem h]

/-- What holds no newline adds no line in front of a text. -/
theorem lineCount_append_left {s : Text} (h : '\n' ∉ s) (t : Text) :
    (s ++ t).lineCount = t.lineCount := by
  rw [lineCount_eq, lineCount_eq, List.count_append, List.count_eq_zero_of_not_mem h, Nat.zero_add]

/-- What holds no newline adds no line behind a text. -/
theorem lineCount_append_right {t : Text} (h : '\n' ∉ t) (s : Text) :
    (s ++ t).lineCount = s.lineCount := by
  rw [lineCount_eq, lineCount_eq, List.count_append, List.count_eq_zero_of_not_mem h, Nat.add_zero]

/-- Texts that are joined as lines keep their lines. -/
theorem lineCount_joinLines {parts : List Text} (h : parts ≠ []) :
    (joinLines parts).lineCount = (parts.map lineCount).sum := by
  induction parts with
  | nil => exact absurd rfl h
  | cons s parts ih =>
      by_cases hparts : parts = []
      · rw [hparts, joinLines, List.intercalate_singleton, List.map_singleton, List.sum_singleton]
      · rw [joinLines_cons s hparts, List.map_cons, List.sum_cons, ← ih hparts, lineCount_eq,
          lineCount_eq, lineCount_eq, List.count_append, List.count_cons_self]
        omega

/-! ## Texts of one line -/

/-- No number holds a newline. -/
theorem newline_not_mem_toDigits {b : Nat} (hb : 1 < b) (n : Nat) : '\n' ∉ Nat.toDigits b n := by
  induction n using Nat.strong_induction_on with
  | h n ih =>
      have hdigit (d : Nat) : '\n' ≠ d.digitChar := (Nat.digitChar_ne '\n' (by decide)).symm
      rw [Nat.toDigits_eq_if hb]
      split_ifs with hn
      · rw [List.mem_singleton]
        exact hdigit n
      · rw [List.mem_append, List.mem_singleton, not_or]
        exact ⟨ih (n / b) (Nat.div_lt_self (by omega) hb), hdigit (n % b)⟩

/-- A decimal number holds digits only. -/
theorem not_mem_ofNat {c : Char} (h : c.isDigit = false) (n : Nat) : c ∉ ofNat n := by
  intro hmem
  have hdigit := Nat.isDigit_of_mem_toDigits (by decide) (by decide) hmem
  rw [h] at hdigit
  cases hdigit

/-- No decimal number holds a newline. -/
theorem newline_not_mem_ofNat (n : Nat) : '\n' ∉ ofNat n := not_mem_ofNat (by decide) n

/-- No integer holds a newline. -/
theorem newline_not_mem_ofInt (i : Int) : '\n' ∉ ofInt i := by
  cases i with
  | ofNat n => exact newline_not_mem_ofNat n
  | negSucc n => simp [ofInt, newline_not_mem_ofNat]

/-- No padded number in base sixteen holds a newline. -/
theorem newline_not_mem_hex (width n : Nat) : '\n' ∉ hex width n := by
  rw [hex, List.leftpad, List.mem_append, not_or]
  refine ⟨fun h => ?_, newline_not_mem_toDigits (by decide) n⟩
  exact absurd (List.eq_of_mem_replicate h) (by decide)

/-- No escape by code point holds a newline. -/
theorem newline_not_mem_escapeCode (n : Nat) : '\n' ∉ escapeCode n := by
  unfold escapeCode
  split_ifs <;> simp [newline_not_mem_hex]

/-- No character stands as a newline between quotes. -/
theorem newline_not_mem_escapeChar {quote : Char} (hquote : quote ≠ '\n') (c : Char) :
    '\n' ∉ escapeChar quote c := by
  unfold escapeChar
  split_ifs with hescaped hnewline
  · have hc : '\n' ≠ c := by
      rintro rfl
      rcases hescaped with h | h
      · exact hquote h.symm
      · cases h
    simp [hc]
  · decide
  · decide
  · decide
  · simpa using Ne.symm hnewline
  · exact newline_not_mem_escapeCode c.toNat

/-- A text between quotes holds no newline. -/
theorem newline_not_mem_quoted (s : Text) : '\n' ∉ quoted s := by
  have hquote : quoteFor s ≠ '\n' := by
    unfold quoteFor
    split_ifs <;> decide
  rw [quoted, List.mem_append, List.mem_cons, List.mem_flatMap, List.mem_singleton]
  rintro ((h | ⟨c, -, h⟩) | h)
  · exact hquote h.symm
  · exact newline_not_mem_escapeChar hquote c h
  · exact hquote h.symm

end Text

/-- No role holds a newline in its name. -/
theorem Role.newline_not_mem_name (role : Role) : '\n' ∉ role.name := by
  unfold name
  cases role <;> simp [indexed, Text.newline_not_mem_ofNat]

/-! ## Words and numbers of a text -/

namespace Extent

open Token Unicode

/-- A number runs over characters of numbers. -/
theorem number_of_scan_kind {c : Char} {s : Text} (h : (scan c s).kind = .number) :
    scan c s = ⟨.number, run isNumberChar (c :: s)⟩ := by
  have hplain (h : (plain c s).kind = .number) :
      plain c s = ⟨.number, run isNumberChar (c :: s)⟩ := by
    unfold plain at h ⊢
    split_ifs at h ⊢ with hdelimiter hoperator hdigit hword
    · rfl
    · simp only [word, wordKind] at h
      split_ifs at h
    · cases h
  cases start c with
  | whitespace _ hscan | comma _ hscan | atSign _ hscan | comment _ hscan | dot _ hscan =>
      rw [hscan] at h
      cases h
  | codepoint _ hscan =>
      rw [hscan, codepoint_kind] at h
      cases h
  | string _ hscan | charlist _ hscan =>
      rw [hscan] at h
      rcases quoted_kind c _ (c :: s) with hkind | hkind
      all_goals
        rw [hkind] at h
        cases h
  | atom _ hscan =>
      rw [hscan] at h ⊢
      cases hatom : atom? (c :: s) with
      | none =>
          rw [hatom] at h
          exact hplain h
      | some e =>
          rw [hatom] at h
          rcases atom?_kind hatom with hkind | hkind
          all_goals
            rw [Option.getD_some, hkind] at h
            cases h
  | plain _ _ _ hscan =>
      rw [hscan] at h ⊢
      exact hplain h

end Extent

namespace Token

open Extent Unicode

/-- No identifier, no boolean and no number holds a newline. -/
theorem Lexed.newline_not_mem {t : Token} (ht : Lexed t)
    (hkind : t.kind = .identifier ∨ t.kind = .boolean ∨ t.kind = .number) : '\n' ∉ t.lexeme := by
  obtain ⟨c, s, u, hlexeme, hscan⟩ := ht
  have hscanned : (scan c (s ++ u)).kind = t.kind := congrArg Extent.kind hscan
  rw [hlexeme]
  intro hmem
  rcases or_assoc.2 hkind with hword | hnumber
  · obtain ⟨-, -, hscan'⟩ := word_of_scan_kind (c := c) (s := s ++ u) (by rwa [hscanned])
    have hall := isWordChar_of_word (hscan'.symm.trans hscan)
    exact absurd (hall '\n' hmem) (by decide)
  · have hnum := number_of_scan_kind (hscanned.trans hnumber)
    have hlength : ((c :: s ++ u).takeWhile isNumberChar).length = (c :: s).length :=
      congrArg Extent.length (hnum.symm.trans hscan)
    have hall := List.takeWhile_eq_self_iff.1 (takeWhile_of_append hlength).2
    exact absurd (hall '\n' hmem) (by decide)

/-- An atom that holds a newline holds it between quotes, behind a colon. -/
theorem Lexed.quoted_of_newline_mem {t : Token} (ht : Lexed t) (hkind : t.kind = .atom)
    (h : '\n' ∈ t.lexeme) : ∃ quote ∈ quotes, [':', quote] <+: t.lexeme := by
  obtain ⟨c, s, u, hlexeme, hscan⟩ := ht
  rw [hkind] at hscan
  rw [hlexeme] at h ⊢
  obtain ⟨a, r, rfl, ⟨rfl, hquote, -⟩ | ⟨-, htail⟩⟩ := second_of_atom hscan
  · exact ⟨a, hquote, r, rfl⟩
  · have hstart := (atom?_of_scan_kind (congrArg Extent.kind hscan)).1
    have hall := @isAtomChar_or_dot_of_atomTail (isUpper c) (a :: r) u htail
    have hno : ¬ (isUpper '\n' = true ∨ '\n' = ':') ∧ isAtomChar '\n' = false ∧
        '\n' ≠ '.' := by decide
    rcases List.mem_cons.1 h with rfl | h
    · exact absurd hstart hno.1
    · rcases hall '\n' h with hatom | ⟨-, hdot⟩
      · rw [hno.2.1] at hatom
        cases hatom
      · exact absurd hdot hno.2.2

/-- A name before a colon holds a newline only if it is a text between double quotes. -/
theorem Lexed.quote_of_newline_mem_key {t : Token} (ht : Lexed t) (hkey : Grammar.IsKey t)
    (h : '\n' ∈ t.lexeme) : ['"'] <+: t.lexeme := by
  rcases hkey with hkind | hkind | hkind | ⟨hkind, hcolon⟩
  · exact absurd h (ht.newline_not_mem (.inl hkind))
  · exact absurd h (ht.newline_not_mem (.inr (.inl hkind)))
  · obtain ⟨c, s, u, hlexeme, hscan⟩ := ht
    have hc := eq_quote_of_scan_kind ((congrArg Extent.kind hscan).trans hkind)
    rw [hlexeme, hc]
    exact ⟨s, rfl⟩
  · obtain ⟨quote, -, r, hr⟩ := ht.quoted_of_newline_mem hkind h
    rw [← hr] at hcolon
    exact absurd rfl hcolon

end Token

end ElixirTerms
