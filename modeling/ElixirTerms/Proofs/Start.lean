/-
# How a token starts

The first character of a text chooses among ten ways in which a token may start (`start`), and what
is known of the kind of a token says which of them it was.
-/
import ElixirTerms.Proofs.Alphabet
import ElixirTerms.Token.Extent.Bounds

namespace ElixirTerms.Extent

open Token Unicode

/-! ## First characters -/

/-- How the first character of a text chooses the extent of a token. -/
inductive Start (c : Char) : Prop where
  | whitespace : isBlank c = true →
      (∀ s, scan c s = ⟨.whitespace, run isBlank (c :: s)⟩) → Start c
  | comma : c = ',' → (∀ s, scan c s = ⟨.comma, 1⟩) → Start c
  | atSign : c = '@' → (∀ s, scan c s = ⟨.atSign, 1⟩) → Start c
  | comment : c = '#' → (∀ s, scan c s = comment (c :: s)) → Start c
  | codepoint : c = '?' → (∀ s, scan c s = codepoint (c :: s)) → Start c
  | dot : c = '.' → (∀ s, scan c s = ⟨.dot, run (· = '.') (c :: s)⟩) → Start c
  | string : c = '"' → (∀ s, scan c s = quoted c .string (c :: s)) → Start c
  | charlist : c = '\'' → (∀ s, scan c s = quoted c .charlist (c :: s)) → Start c
  | atom : isUpper c = true ∨ c = ':' →
      (∀ s, scan c s = (atom? (c :: s)).getD (plain c s)) → Start c
  | plain : isBlank c = false → isUpper c = false →
      c ∉ [',', '@', '#', '?', '.', '"', '\'', ':'] → (∀ s, scan c s = plain c s) → Start c

/-- Every token starts in one of these ways. -/
theorem start (c : Char) : Start c := by
  -- in the order in which the characters are tried
  by_cases hblank : isBlank c = true
  · exact .whitespace hblank fun s => by rw [scan, if_pos hblank]
  by_cases hcomma : c = ','
  · exact .comma hcomma fun s => by rw [scan, if_neg hblank, if_pos hcomma]
  by_cases hsign : c = '@'
  · exact .atSign hsign fun s => by subst hsign; rfl
  by_cases hcomment : c = '#'
  · exact .comment hcomment fun s => by subst hcomment; rfl
  by_cases hcodepoint : c = '?'
  · exact .codepoint hcodepoint fun s => by subst hcodepoint; rfl
  by_cases hdot : c = '.'
  · exact .dot hdot fun s => by subst hdot; rfl
  by_cases hstring : c = '"'
  · exact .string hstring fun s => by subst hstring; rfl
  by_cases hcharlist : c = '\''
  · exact .charlist hcharlist fun s => by subst hcharlist; rfl
  by_cases hatom : (isUpper c || decide (c = ':')) = true
  · refine .atom (by simpa using hatom) fun s => ?_
    rw [scan, if_neg hblank, if_neg hcomma, if_neg hsign, if_neg hcomment, if_neg hcodepoint,
      if_neg hdot, if_neg hstring, if_neg hcharlist, if_pos hatom]
  · have hno : isUpper c = false ∧ c ≠ ':' := by simpa using hatom
    refine .plain (by simpa using hblank) hno.1 ?_ fun s => ?_
    · simp only [List.mem_cons, List.not_mem_nil, or_false, not_or]
      exact ⟨hcomma, hsign, hcomment, hcodepoint, hdot, hstring, hcharlist, hno.2⟩
    · rw [scan, if_neg hblank, if_neg hcomma, if_neg hsign, if_neg hcomment, if_neg hcodepoint,
        if_neg hdot, if_neg hstring, if_neg hcharlist, if_neg hatom]

/-! ## Kinds -/

/-- The kinds of tokens that start like no atom. -/
def plainKinds : List Kind := [.delimiter, .operator, .number, .boolean, .identifier, .illegal]

/-- A token that starts like no atom is of one of these kinds. -/
theorem plain_kind (c : Char) (s : Text) : (plain c s).kind ∈ plainKinds := by
  unfold plain plainKinds
  split
  · simp
  split
  · simp
  split
  · simp
  split
  · unfold word wordKind
    dsimp only
    split <;> simp
  · simp [illegal]

/-- No token that starts like no atom has a kind that is none of these. -/
theorem plain_kind_ne {c : Char} {s : Text} {kind : Kind} (h : kind ∉ plainKinds) :
    (plain c s).kind ≠ kind := by
  rintro rfl
  exact h (plain_kind c s)

/-- A quoted literal has the kind it was asked for, or is illegal. -/
theorem quoted_kind (quote : Char) (kind : Kind) (s : Text) :
    (quoted quote kind s).kind = kind ∨ (quoted quote kind s).kind = .illegal := by
  unfold quoted heredoc unclosed
  split
  · split <;> simp
  · split <;> simp

/-- An atom is an atom, or illegal. -/
theorem atom?_kind {s : Text} {e : Extent} (h : atom? s = some e) :
    e.kind = .atom ∨ e.kind = .illegal := by
  unfold atom? at h
  split at h
  · rename_i c ahead s
    split at h
    · cases h
      exact quoted_kind ahead .atom (ahead :: s)
    · split at h
      · cases h
        exact Or.inl rfl
      · cases h
  · cases h

/-- A token that starts like an atom is an atom, or of one of the kinds of tokens that do not. -/
theorem atom?_getD_kind (c : Char) (s : Text) :
    ((atom? (c :: s)).getD (plain c s)).kind ∈ .atom :: plainKinds := by
  cases hatom : atom? (c :: s) with
  | none => exact List.mem_cons_of_mem _ (plain_kind c s)
  | some e =>
      have hillegal : Kind.illegal ∈ plainKinds := by decide
      rcases atom?_kind hatom with hkind | hkind
      · exact List.mem_cons.2 (Or.inl hkind)
      · exact List.mem_cons_of_mem _ (hkind ▸ hillegal)

/-- A codepoint literal is one, however long. -/
theorem codepoint_kind (s : Text) : (codepoint s).kind = .char := by
  unfold codepoint
  split <;> rfl

/-- No character starts the token for the end of the input. -/
theorem scan_kind_ne_eof (c : Char) (s : Text) : (scan c s).kind ≠ .eof := by
  intro h
  cases start c with
  | whitespace _ hscan | comma _ hscan | atSign _ hscan | comment _ hscan | dot _ hscan =>
      rw [hscan] at h
      cases h
  | codepoint _ hscan =>
      rw [hscan, codepoint_kind] at h
      cases h
  | string _ hscan | charlist _ hscan =>
      rw [hscan] at h
      rcases quoted_kind c _ (c :: s) with hkind | hkind
      all_goals
        rw [hkind] at h
        cases h
  | atom _ hscan =>
      rw [hscan] at h
      have hkind := atom?_getD_kind c s
      rw [h] at hkind
      exact absurd hkind (by decide)
  | plain _ _ _ hscan =>
      rw [hscan] at h
      exact absurd h (plain_kind_ne (by decide))

/-- What may be an atom or a word starts like an atom or like none of the other tokens. -/
theorem scan_of_kind {c : Char} {s : Text}
    (h : (scan c s).kind = .atom ∨ (scan c s).kind = .identifier ∨ (scan c s).kind = .boolean) :
    ((isUpper c = true ∨ c = ':') ∧ scan c s = (atom? (c :: s)).getD (plain c s)) ∨
      (c ∉ [',', '@', '#', '?', '.', '"', '\'', ':'] ∧ scan c s = plain c s) := by
  cases start c with
  | whitespace _ hscan | comma _ hscan | atSign _ hscan | comment _ hscan | dot _ hscan =>
      rw [hscan] at h
      simp [comment] at h
  | codepoint _ hscan =>
      rw [hscan, codepoint_kind] at h
      simp at h
  | string _ hscan | charlist _ hscan =>
      rw [hscan] at h
      rcases quoted_kind c _ (c :: s) with hkind | hkind
      all_goals
        rw [hkind] at h
        simp at h
  | atom hc hscan => exact Or.inl ⟨hc, hscan s⟩
  | plain _ _ hc hscan => exact Or.inr ⟨hc, hscan s⟩

/-- Only what starts like an atom is one. -/
theorem atom?_of_scan_kind {c : Char} {s : Text} (h : (scan c s).kind = .atom) :
    (isUpper c = true ∨ c = ':') ∧ atom? (c :: s) = some (scan c s) := by
  rcases scan_of_kind (Or.inl h) with ⟨hc, hscan⟩ | ⟨-, hscan⟩
  · refine ⟨hc, ?_⟩
    rw [hscan] at h ⊢
    cases hatom : atom? (c :: s) with
    | none =>
        rw [hatom] at h
        exact absurd h (plain_kind_ne (by decide))
    | some e => rfl
  · rw [hscan] at h
    exact absurd h (plain_kind_ne (by decide))

/-! ## Words -/

/-- A character of words that is no mark and no digit starts a word. -/
theorem plain_of_word {c : Char} (hmark : c ∉ marks) (hdigit : c.isDigit = false)
    (hword : isWordChar c = true) (s : Text) : plain c s = word (c :: s) := by
  simp only [marks, List.mem_append, not_or] at hmark
  have hoperator : ¬ isOperatorChar c = true := by simpa [isOperatorChar] using hmark.2
  rw [plain, if_neg hmark.1.2, if_neg hoperator, if_neg (by simp [hdigit]), if_pos hword]

/-- An upper-case character that starts no alias starts a word. -/
theorem plain_of_isUpper {c : Char} (h : isUpper c = true) (s : Text) :
    plain c s = word (c :: s) :=
  plain_of_word (not_mem_marks_of_isUpper h) (not_isDigit_of_isUpper h) (isWordChar_of_isUpper h) s

/-- A character that words do not hold is no letter, no number and no underscore. -/
theorem not_isAlphanumeric_of_not_isWordChar {d : Char} (h : isWordChar d = false) :
    isAlphanumeric d = false ∧ d ≠ '_' := by
  have hatom : isAtomChar d = false := by
    cases hd : isAtomChar d with
    | false => rfl
    | true => rw [isWordChar_of_isAtomChar hd] at h; cases h
  simp only [isAtomChar, Bool.or_eq_false_iff, decide_eq_false_iff_not, List.mem_cons,
    not_or] at hatom
  exact ⟨hatom.1, hatom.2.1⟩

/-! ## Atoms -/

/-- An atom is quoted, or it starts with a letter, a number or an underscore. -/
theorem atom?_cons_cons (c a : Char) (s : Text) :
    atom? (c :: a :: s) =
      if c = ':' ∧ a ∈ quotes then
        some ⟨(quoted a .atom (a :: s)).kind, (quoted a .atom (a :: s)).length + 1⟩
      else if isAlphanumeric a || a = '_' then
        some ⟨.atom, atomTail (isUpper c) (a :: s) + 1⟩
      else none := rfl

/-- Quotes are no letters, no numbers and no underscores. -/
theorem ne_quote_of_isAlphanumeric {a : Char} (h : (isAlphanumeric a || decide (a = '_')) = true)
    {quote : Char} (hquote : quote ∈ quotes) : a ≠ quote := by
  rintro rfl
  rw [Bool.or_eq_true, decide_eq_true_eq] at h
  refine not_mem_marks_of_isAlphanumeric h ?_
  have hmarks : ∀ q ∈ quotes, q ∈ marks := by decide
  exact hmarks a hquote

/-- An atom whose first character after the colon or the capital is no quote has that character. -/
theorem atomTail_pos {a : Char} (h : (isAlphanumeric a || decide (a = '_')) = true)
    (isAlias : Bool) (s : Text) : 0 < atomTail isAlias (a :: s) := by
  have hatom : isAtomChar a = true := by
    rw [Bool.or_eq_true, decide_eq_true_eq] at h
    rcases h with h | rfl
    · simp [isAtomChar, h]
    · decide
  rw [atomTail, if_pos (by simp [hatom])]
  exact Nat.succ_pos _

/-- An atom has at least two characters. -/
theorem two_le_length_of_atom? {s : Text} {e : Extent} (h : atom? s = some e) : 2 ≤ e.length := by
  match s with
  | [] => cases h
  | [_] => cases h
  | c :: a :: s =>
      rw [atom?_cons_cons] at h
      split_ifs at h with hquoted hword
      · cases h
        have := quoted_pos a .atom (a :: s)
        simp only
        omega
      · cases h
        have := atomTail_pos hword (isUpper c) s
        simp only
        omega

end ElixirTerms.Extent
