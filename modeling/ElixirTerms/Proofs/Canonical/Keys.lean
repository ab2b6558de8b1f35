/-
# Names before a colon

A map key that is an atom is written as its name and a colon.  The name is found again as a key of
its own kind (`key_found`), unless it starts with a digit of ASCII or with a single quote.  No
token that may stand before a colon does (`head_of_isKey`).
-/
import Mathlib.Data.List.TakeWhile
import ElixirTerms.Proofs.Gist
import ElixirTerms.Proofs.Grammar.Basic

namespace ElixirTerms

/-! ## First characters by kind -/

namespace Extent

open Token Unicode

/-- A word starts with a character that is neither a mark nor a digit of ASCII. -/
theorem word_of_scan_kind {c : Char} {s : Text}
    (h : (scan c s).kind = .identifier ∨ (scan c s).kind = .boolean) :
    c ∉ marks ∧ c.isDigit = false ∧ scan c s = word (c :: s) := by
  rcases scan_of_kind (Or.inr h) with ⟨hc, hscan⟩ | ⟨hc, hscan⟩
  · cases hatom : atom? (c :: s) with
    | some e =>
        rw [hscan, hatom] at h
        rcases atom?_kind hatom with hkind | hkind <;> simp [hkind] at h
    | none =>
        rw [hatom] at hscan
        rcases hc with hc | rfl
        · exact ⟨not_mem_marks_of_isUpper hc, not_isDigit_of_isUpper hc,
            hscan.trans (plain_of_isUpper hc s)⟩
        · rw [hscan] at h
          simp [plain, delimiters, isOperatorChar, operatorChars] at h
  · rw [hscan] at h ⊢
    unfold plain at h ⊢
    split_ifs at h ⊢ with hdelimiter hoperator hdigit hword
    · simp at h
    · simp at h
    · simp at h
    · refine ⟨?_, by simpa using hdigit, rfl⟩
      simp only [marks, List.mem_append, not_or]
      exact ⟨⟨hc, hdelimiter⟩, by simpa [isOperatorChar] using hoperator⟩
    · simp [illegal] at h

/-- A string starts with its quote. -/
theorem eq_quote_of_scan_kind {c : Char} {s : Text} (h : (scan c s).kind = .string) : c = '"' := by
  cases start c with
  | string hc => exact hc
  | whitespace _ hscan | comma _ hscan | atSign _ hscan | comment _ hscan | dot _ hscan =>
      rw [hscan] at h
      cases h
  | codepoint _ hscan =>
      rw [hscan, codepoint_kind] at h
      cases h
  | charlist _ hscan =>
      rw [hscan] at h
      rcases quoted_kind c .charlist (c :: s) with hkind | hkind
      all_goals
        rw [hkind] at h
        cases h
  | atom _ hscan =>
      rw [hscan] at h
      have hkind := atom?_getD_kind c s
      rw [h] at hkind
      exact absurd hkind (by decide)
  | plain _ _ _ hscan =>
      rw [hscan] at h
      exact absurd h (plain_kind_ne (by decide))

/-- All characters of a word are such. -/
theorem isWordChar_of_word {c : Char} {s u : Text} {kind : Kind}
    (h : word (c :: (s ++ u)) = ⟨kind, s.length + 1⟩) : ∀ d ∈ c :: s, isWordChar d = true := by
  have hlength : ((c :: s ++ u).takeWhile isWordChar).length = (c :: s).length :=
    congrArg Extent.length h
  exact List.takeWhile_eq_self_iff.1 (takeWhile_of_append hlength).2

/-- A word has no dot at its end. -/
theorem getLast?_ne_dot_of_word {c : Char} {s u : Text} {kind : Kind}
    (h : scan c (s ++ u) = ⟨kind, s.length + 1⟩) (hkind : kind = .identifier ∨ kind = .boolean) :
    (c :: s).getLast? ≠ some '.' := by
  intro hdot
  obtain ⟨-, -, hscan⟩ := word_of_scan_kind (by rw [h]; exact hkind)
  have hall := isWordChar_of_word (hscan.symm.trans h)
  have hno : isWordChar '.' = false := by decide
  rw [hall '.' (List.mem_of_getLast? hdot)] at hno
  cases hno

/-- A text of word characters is a word before another character. -/
theorem word_append {c d : Char} {s : Text} (h : ∀ e ∈ c :: s, isWordChar e = true)
    (hd : isWordChar d = false) (u : Text) :
    word (c :: (s ++ d :: u)) = ⟨wordKind (c :: s), s.length + 1⟩ := by
  have htake : (c :: s ++ d :: u).takeWhile isWordChar = c :: s := by
    rw [takeWhile_append_cons hd, List.takeWhile_eq_self_iff.2 h]
  rw [word, ← List.cons_append, htake]
  rfl

/-- All characters of an unquoted atom are such, but for the dots of an alias. -/
theorem isAtomChar_or_dot_of_atomTail {isAlias : Bool} {s u : Text}
    (h : atomTail isAlias (s ++ u) = s.length) :
    ∀ c ∈ s, isAtomChar c = true ∨ (isAlias = true ∧ c = '.') := by
  induction s with
  | nil => nofun
  | cons c s ih =>
      rw [List.cons_append, atomTail] at h
      split_ifs at h with hc
      rw [List.forall_mem_cons]
      refine ⟨?_, ih (Nat.succ.inj h)⟩
      simp only [Bool.or_eq_true, Bool.and_eq_true, decide_eq_true_eq] at hc
      exact hc.imp_right And.left

/-- All characters of an atom without dots are such. -/
theorem isAtomChar_of_atomTail {s u : Text} (h : atomTail false (s ++ u) = s.length) :
    ∀ c ∈ s, isAtomChar c = true :=
  fun c hc => (isAtomChar_or_dot_of_atomTail h c hc).resolve_right nofun

/-- A text of atom characters goes on to its end before a character over which atoms do not go
on. -/
theorem atomTail_eq_length {s : Text} (h : ∀ c ∈ s, isAtomChar c = true) {d : Char}
    (hd : goesOn .atom d = false) (isAlias : Bool) (u : Text) :
    atomTail isAlias (s ++ d :: u) = s.length := by
  rw [atomTail_append hd]
  induction s with
  | nil => rfl
  | cons c s ih =>
      rw [List.forall_mem_cons] at h
      rw [atomTail, if_pos (by simp [h.1]), ih h.2]
      rfl

/-- How far a quoted literal goes does not depend on what it is called. -/
theorem quoted_length (quote : Char) (kind kind' : Kind) (s : Text) :
    (quoted quote kind s).length = (quoted quote kind' s).length := by
  unfold quoted heredoc
  split_ifs
  · cases tripleClosing? quote 0 (s.drop 3) <;> rfl
  · cases closing? quote (s.drop 1) <;> rfl

/-- Whether a quoted literal is closed does not depend on what it is called. -/
theorem quoted_of_closed {quote : Char} {kind : Kind} {s : Text}
    (h : (quoted quote kind s).kind ≠ .illegal) (kind' : Kind) :
    (quoted quote kind' s).kind = kind' := by
  unfold quoted heredoc at h ⊢
  split_ifs at h ⊢
  · cases hclosing : tripleClosing? quote 0 (s.drop 3) with
    | none => exact absurd (by rw [hclosing]; rfl) h
    | some n => rfl
  · cases hclosing : closing? quote (s.drop 1) with
    | none => exact absurd (by rw [hclosing]; rfl) h
    | some n => rfl

/-- Letters, numbers, underscores, question and exclamation marks follow the colon of an atom, or a
quote does. -/
theorem second_of_atom {c : Char} {s u : Text} (h : scan c (s ++ u) = ⟨.atom, s.length + 1⟩) :
    ∃ a r, s = a :: r ∧
      ((c = ':' ∧ a ∈ quotes ∧ (quoted a .atom (a :: (r ++ u))).length = r.length + 1 ∧
          (quoted a .atom (a :: (r ++ u))).kind = .atom) ∨
        ((isAlphanumeric a || decide (a = '_')) = true ∧
          atomTail (isUpper c) (a :: (r ++ u)) = r.length + 1)) := by
  have hatom := (atom?_of_scan_kind (congrArg Extent.kind h)).2
  rw [h] at hatom
  match s with
  | [] =>
      have := two_le_length_of_atom? hatom
      simp only [List.length_nil] at this
      omega
  | a :: r =>
      rw [List.cons_append, atom?_cons_cons] at hatom
      refine ⟨a, r, rfl, ?_⟩
      split_ifs at hatom with hquoted hword
      · injection hatom with hatom
        injection hatom with hkind hlength
        exact Or.inl ⟨hquoted.1, hquoted.2, Nat.succ.inj hlength, hkind⟩
      · injection hatom with hatom
        injection hatom with hkind hlength
        exact Or.inr ⟨hword, Nat.succ.inj hlength⟩

/-- A token that starts with no mark is a word, or an alias if it starts with an upper-case
character. -/
theorem scan_of_not_mark {c : Char} (hblank : isBlank c = false) (hmark : c ∉ marks) (s : Text) :
    scan c s = if isUpper c then (atom? (c :: s)).getD (plain c s) else plain c s := by
  simp only [marks, List.mem_append, List.mem_cons, List.not_mem_nil, or_false, not_or] at hmark
  obtain ⟨⟨⟨hcomma, hsign, hcomment, hcodepoint, hdot, hstring, hcharlist, hcolon⟩, -⟩, -⟩ := hmark
  rw [scan, if_neg (by simp [hblank]), if_neg hcomma, if_neg hsign, if_neg hcomment,
    if_neg hcodepoint, if_neg hdot, if_neg hstring, if_neg hcharlist]
  simp only [hcolon, decide_false, Bool.or_false]

end Extent

namespace Token

open Extent Unicode Grammar

/-- A name before a colon starts with no digit of ASCII, no single quote and no colon. -/
theorem head_of_isKey {t : Token} (ht : Lexed t) (hkey : IsKey t) :
    ∃ c s, t.lexeme = c :: s ∧ c.isDigit = false ∧ c ≠ '\'' ∧ c ≠ ':' := by
  obtain ⟨c, s, u, hlexeme, hscan⟩ := ht
  have hkind : (scan c (s ++ u)).kind = t.kind := congrArg Extent.kind hscan
  refine ⟨c, s, hlexeme, ?_⟩
  have hmarks : '\'' ∈ marks ∧ ':' ∈ marks := by decide
  rcases hkey with hk | hk | hk | ⟨hk, hcolon⟩
  · obtain ⟨hmark, hdigit, -⟩ := word_of_scan_kind (Or.inl (hkind.trans hk))
    exact ⟨hdigit, fun h => hmark (h ▸ hmarks.1), fun h => hmark (h ▸ hmarks.2)⟩
  · obtain ⟨hmark, hdigit, -⟩ := word_of_scan_kind (Or.inr (hkind.trans hk))
    exact ⟨hdigit, fun h => hmark (h ▸ hmarks.1), fun h => hmark (h ▸ hmarks.2)⟩
  · have hc := eq_quote_of_scan_kind (hkind.trans hk)
    subst hc
    decide
  · have hc := (atom?_of_scan_kind (hkind.trans hk)).1
    have hne : c ≠ ':' := by
      rintro rfl
      exact hcolon (by rw [hlexeme]; rfl)
    have hupper := hc.resolve_right hne
    exact ⟨not_isDigit_of_isUpper hupper,
      fun h => not_mem_marks_of_isUpper hupper (h ▸ hmarks.1), hne⟩

/-- A name has a dot at its end as the name of an atom if it is an alias with a dot at its end. -/
theorem dotted_name_iff {t : Token} (ht : Lexed t) (hkey : IsKey t) :
    Dotted .atom (':' :: t.lexeme) ↔ Dotted t.kind t.lexeme := by
  obtain ⟨c, s, u, hlexeme, hscan⟩ := ht
  have hkind : (scan c (s ++ u)).kind = t.kind := congrArg Extent.kind hscan
  rw [hlexeme]
  rcases hkey with hk | hk | hk | ⟨hk, hcolon⟩
  · have hno := getLast?_ne_dot_of_word hscan (Or.inl hk)
    exact ⟨fun h => absurd h.2.2 hno, fun h => absurd h.2.2 hno⟩
  · have hno := getLast?_ne_dot_of_word hscan (Or.inr hk)
    exact ⟨fun h => absurd h.2.2 hno, fun h => absurd h.2.2 hno⟩
  · have hc := eq_quote_of_scan_kind (hkind.trans hk)
    subst hc
    constructor
    · rintro ⟨-, hunquoted, -⟩
      exact absurd rfl (hunquoted '"' (by decide))
    · rintro ⟨hatom, -⟩
      rw [hk] at hatom
      cases hatom
  · have hne : c ≠ ':' := by
      rintro rfl
      exact hcolon (by rw [hlexeme]; rfl)
    have hupper := (atom?_of_scan_kind (hkind.trans hk)).1.resolve_right hne
    have hmarks : ∀ quote ∈ quotes, quote ∈ marks := by decide
    rw [hk] at hscan ⊢
    obtain ⟨a, r, rfl, ⟨hcolon, -⟩ | ⟨ha, -⟩⟩ := second_of_atom hscan
    · exact absurd hcolon hne
    · -- neither the alias nor its first character is a quote, so only the dot counts
      constructor
      · rintro ⟨-, -, hdot⟩
        refine ⟨rfl, fun quote hquote h => ?_, by simpa using hdot⟩
        exact ne_quote_of_isAlphanumeric ha hquote (by simpa using h)
      · rintro ⟨-, -, hdot⟩
        refine ⟨rfl, fun quote hquote h => ?_, by simpa using hdot⟩
        have hc : c = quote := by simpa using h
        exact not_mem_marks_of_isUpper hupper (hc ▸ hmarks quote hquote)

/-- The name of an atom without quotes is a key before a colon. -/
theorem scan_name {a : Char} {r : Text} (ha : (isAlphanumeric a || decide (a = '_')) = true)
    (hdigit : a.isDigit = false) (hall : ∀ c ∈ a :: r, isAtomChar c = true) :
    ∃ kind, IsKey ⟨kind, a :: r, .nowhere⟩ ∧
      ∀ u, scan a (r ++ ':' :: u) = ⟨kind, r.length + 1⟩ := by
  have hmark := not_mem_marks_of_isAlphanumeric (by simpa using ha)
  have hcolon : a ≠ ':' := by
    rintro rfl
    exact hmark (by decide)
  obtain ⟨hatom, hrest⟩ := List.forall_mem_cons.1 hall
  have hscan := scan_of_not_mark (not_isBlank_of_isAtomChar hatom) hmark
  have hplain (u : Text) : plain a (r ++ ':' :: u) = ⟨wordKind (a :: r), r.length + 1⟩ := by
    rw [plain_of_word hmark hdigit (isWordChar_of_isAtomChar hatom)]
    exact word_append (fun c hc => isWordChar_of_isAtomChar (hall c hc)) (by decide) u
  have hword : IsKey ⟨wordKind (a :: r), a :: r, .nowhere⟩ := by
    unfold IsKey wordKind
    dsimp only
    split_ifs <;> simp
  cases hupper : isUpper a with
  | false => exact ⟨_, hword, fun u => by rw [hscan, hupper, if_neg Bool.false_ne_true, hplain]⟩
  | true =>
      -- an alias if a letter, a number or an underscore comes second
      cases r with
      | nil =>
          refine ⟨_, hword, fun u => ?_⟩
          rw [hscan, if_pos hupper, List.nil_append, atom?_cons_cons, if_neg (fun h => hcolon h.1),
            if_neg (by decide)]
          exact hplain u
      | cons b r =>
          have hsecond (u : Text) : atom? (a :: (b :: r ++ ':' :: u)) =
              if isAlphanumeric b || b = '_' then some ⟨.atom, (b :: r).length + 1⟩ else none := by
            rw [List.cons_append, atom?_cons_cons, if_neg (fun h => hcolon h.1),
              ← List.cons_append, atomTail_eq_length hrest (by decide)]
          by_cases hb : (isAlphanumeric b || decide (b = '_')) = true
          · refine ⟨.atom, Or.inr (Or.inr (Or.inr ⟨rfl, by simpa using hcolon⟩)), fun u => ?_⟩
            rw [hscan, if_pos hupper, hsecond, if_pos hb]
            rfl
          · refine ⟨_, hword, fun u => ?_⟩
            rw [hscan, if_pos hupper, hsecond, if_neg hb]
            exact hplain u

/-- The name of an atom in quotes is found as a literal of its own before a colon: a string in
double quotes, a charlist in single ones. -/
theorem quoted_name_found {quote : Char} {kind : Kind}
    (hquote : (quote = '"' ∧ kind = .string) ∨ (quote = '\'' ∧ kind = .charlist)) {r w : Text}
    (hclosed : (quoted quote .atom (quote :: (r ++ w))).kind = .atom)
    (hlength : (quoted quote .atom (quote :: (r ++ w))).length = r.length + 1) (u : Text) :
    gist (quote :: r ++ ':' :: u) = ⟨kind, quote :: r, .nowhere⟩ :: gist (':' :: u) := by
  have hscan : scan quote (r ++ w) = quoted quote kind (quote :: (r ++ w)) := by
    rcases hquote with ⟨rfl, rfl⟩ | ⟨rfl, rfl⟩ <;> rfl
  have hfound : scan quote (r ++ w) = ⟨kind, r.length + 1⟩ := by
    have hkind := quoted_of_closed (by rw [hclosed]; decide) kind
    have hsame := quoted_length quote kind .atom (quote :: (r ++ w))
    rw [hlength] at hsame
    calc scan quote (r ++ w)
        = ⟨(quoted quote kind (quote :: (r ++ w))).kind,
            (quoted quote kind (quote :: (r ++ w))).length⟩ := hscan
      _ = ⟨kind, r.length + 1⟩ := by rw [hkind, hsame]
  have hlexed : Lexed ⟨kind, quote :: r, .nowhere⟩ := ⟨quote, r, w, rfl, hfound⟩
  have hkind : kind = .string ∨ kind = .charlist := hquote.imp And.right And.right
  refine gist_append hlexed ?_ ?_ ?_ ((stops_cons kind ':' u).2 ?_)
  · rcases hkind with rfl | rfl <;> rfl
  · rcases hkind with rfl | rfl <;> simp [Settled]
  · rcases hkind with rfl | rfl <;> simp [Dotted]
  · rcases hkind with rfl | rfl <;> decide

/-- The name of an atom is found again as a key before a colon, unless it starts with a single quote
or a digit of ASCII. -/
theorem key_found {t : Token} (ht : Lexed t) (hkind : t.kind = .atom) {name : Text}
    (hlexeme : t.lexeme = ':' :: name) (hquote : name.head? ≠ some '\'')
    (hdigit : name.head?.any Char.isDigit = false) :
    ∃ key, IsKey key ∧ key.lexeme = name ∧ key.position = .nowhere ∧
      ∀ u, gist (name ++ ':' :: u) = key :: gist (':' :: u) := by
  obtain ⟨c, s, w, hspelled, hscan⟩ := ht
  rw [hspelled] at hlexeme
  obtain ⟨rfl, rfl⟩ := List.cons.inj hlexeme
  rw [hkind] at hscan
  obtain ⟨a, r, rfl, ⟨-, ha, hlength, hclosed⟩ | ⟨ha, htail⟩⟩ := second_of_atom hscan
  · -- a quoted name is a string of its own
    have hstring : a = '"' := by
      simp only [quotes, List.mem_cons, List.not_mem_nil, or_false] at ha
      exact ha.resolve_right fun h => hquote (by rw [h]; rfl)
    subst hstring
    exact ⟨⟨.string, '"' :: r, .nowhere⟩, Or.inr (Or.inr (Or.inl rfl)), rfl, rfl,
      quoted_name_found (.inl ⟨rfl, rfl⟩) hclosed hlength⟩
  · -- an atom with a colon is no alias, so its name holds no dot
    have hdigit' : a.isDigit = false := by simpa using hdigit
    have hupper : isUpper ':' = false := by decide
    rw [hupper] at htail
    have hall : ∀ d ∈ a :: r, isAtomChar d = true :=
      isAtomChar_of_atomTail (show atomTail false (a :: r ++ w) = (a :: r).length from htail)
    obtain ⟨kind, hkey, hname⟩ := scan_name ha hdigit' hall
    have hblank := not_isBlank_of_isAtomChar (hall a List.mem_cons_self)
    have hhash : a ≠ '#' := by
      rintro rfl
      exact absurd ha (by decide)
    exact ⟨⟨kind, a :: r, .nowhere⟩, hkey, rfl, rfl,
      fun u => gist_of_scan (hname u) hblank hhash⟩

end Token

end ElixirTerms
