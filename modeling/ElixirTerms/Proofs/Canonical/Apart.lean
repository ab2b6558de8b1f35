/-
# Names that come apart

Three kinds of names are not found again where canonical source writes them.  An alias with a dot at
its end loses the dot, a name in single quotes is a charlist, and a name that starts with a digit of
ASCII starts with a number.  In each case something is left that may not stand where it stands
(`Placed`), so what is written is no program.
-/
import Mathlib.Data.List.Basic
import ElixirTerms.Proofs.Canonical.Placed
import ElixirTerms.Proofs.Canonical.Tokens

namespace ElixirTerms

namespace Extent

open Token Unicode

/-! ## Extents -/

/-- An alias stops before a dot that was its last character, if no upper-case character follows. -/
theorem atomTail_before_dot {isAlias : Bool} {s w u : Text}
    (h : atomTail isAlias (s ++ '.' :: w) = s.length + 1) (hu : u.head?.any isUpper = false) :
    atomTail isAlias (s ++ '.' :: u) = s.length := by
  induction s with
  | nil =>
      have hdot : isAtomChar '.' = false := by decide
      rw [List.nil_append, atomTail, hdot, hu]
      simp
  | cons c s ih =>
      rw [List.cons_append, atomTail] at h
      split_ifs at h with hc
      -- what a character of the alias looks at comes before the dot, or is the dot
      have hahead : (s ++ '.' :: u).head? = (s ++ '.' :: w).head? := by
        cases s <;> rfl
      rw [List.cons_append, atomTail, hahead, if_pos hc, ih (Nat.succ.inj h)]
      rfl

/-- An upper-case character is neither a colon nor the sign of a comment. -/
theorem ne_of_isUpper {c : Char} (h : isUpper c = true) : c ≠ ':' ∧ c ≠ '#' := by
  have hmark := not_mem_marks_of_isUpper h
  constructor
  · rintro rfl
    exact hmark (by decide)
  · rintro rfl
    exact hmark (by decide)

/-- An upper-case character with a letter, a number or an underscore behind it starts an alias. -/
theorem atom?_alias {c a : Char} (hc : isUpper c = true)
    (ha : (isAlphanumeric a || decide (a = '_')) = true) (s : Text) :
    atom? (c :: a :: s) = some ⟨.atom, atomTail true (a :: s) + 1⟩ := by
  rw [atom?_cons_cons, if_neg (fun h => (ne_of_isUpper hc).1 h.1), if_pos ha, hc]

/-- An upper-case character with any other character behind it starts none. -/
theorem atom?_of_not_alias {c a : Char} (hc : isUpper c = true)
    (ha : ¬ (isAlphanumeric a || decide (a = '_')) = true) (s : Text) :
    atom? (c :: a :: s) = none := by
  rw [atom?_cons_cons, if_neg (fun h => (ne_of_isUpper hc).1 h.1), if_neg ha]

/-- Letters, numbers and underscores are characters of atoms. -/
theorem isAtomChar_of_isAlphanumeric {c : Char} (h : isAlphanumeric c = true ∨ c = '_') :
    isAtomChar c = true := by
  rcases h with h | rfl
  · simp [isAtomChar, h]
  · decide

/-- The kinds of tokens that start with a letter, a number or an underscore. -/
def wordKinds : List Kind := [.number, .atom, .identifier, .boolean]

/-- What starts with a letter, a number or an underscore, and is no alias, is of one of these kinds,
and a number if it starts with a digit of ASCII. -/
theorem plain_kind_of_isAlphanumeric {c : Char} (hc : isAlphanumeric c = true ∨ c = '_')
    (s : Text) :
    (plain c s).kind ∈ wordKinds ∧ (c.isDigit = true → (plain c s).kind = .number) := by
  have hmark := not_mem_marks_of_isAlphanumeric hc
  cases hdigit : c.isDigit with
  | false =>
      have hword : isWordChar c = true := isWordChar_of_isAtomChar (isAtomChar_of_isAlphanumeric hc)
      rw [plain_of_word hmark hdigit hword, word, wordKind]
      dsimp only
      split <;> simp [wordKinds]
  | true =>
      simp only [marks, List.mem_append, not_or] at hmark
      have hoperator : ¬ isOperatorChar c = true := by simpa [isOperatorChar] using hmark.2
      rw [plain, if_neg hmark.1.2, if_neg hoperator, if_pos hdigit]
      simp [wordKinds]

/-- A token that starts with a letter, a number or an underscore is of one of these kinds, and a
number if it starts with a digit of ASCII. -/
theorem scan_kind_of_isAlphanumeric {c : Char} (hc : isAlphanumeric c = true ∨ c = '_')
    (s : Text) :
    (scan c s).kind ∈ wordKinds ∧ (c.isDigit = true → (scan c s).kind = .number) := by
  have hplain := plain_kind_of_isAlphanumeric hc s
  have hblank := not_isBlank_of_isAtomChar (isAtomChar_of_isAlphanumeric hc)
  rw [scan_of_not_mark hblank (not_mem_marks_of_isAlphanumeric hc)]
  cases hupper : isUpper c with
  | false => exact hplain
  | true =>
      -- no digit is upper case
      refine ⟨?_, fun hdigit => ?_⟩
      · cases s with
        | nil => exact hplain.1
        | cons a s =>
            by_cases ha : (isAlphanumeric a || decide (a = '_')) = true
            · rw [if_pos rfl, atom?_alias hupper ha]
              simp [wordKinds]
            · rw [if_pos rfl, atom?_of_not_alias hupper ha]
              exact hplain.1
      · rw [not_isDigit_of_isUpper hupper] at hdigit
        cases hdigit

end Extent

namespace Token

open Extent Unicode Grammar

/-! ## Aliases -/

/-- How an alias with a dot at its end is spelled: what comes before the dot is an alias, which went
on over the dot. -/
theorem spelling_of_dotted {t : Token} (ht : Lexed t) (hdotted : Dotted t.kind t.lexeme) :
    ∃ c a r w, t.lexeme = c :: a :: (r ++ ['.']) ∧ isUpper c = true ∧
      (isAlphanumeric a || decide (a = '_')) = true ∧
      atomTail true (a :: r ++ '.' :: w) = (a :: r).length + 1 := by
  obtain ⟨c, s, w, hlexeme, hscan⟩ := ht
  obtain ⟨hkind, hunquoted, hlast⟩ := hdotted
  rw [hkind] at hscan
  rw [hlexeme] at hunquoted hlast
  obtain ⟨a, r, rfl, ⟨-, ha, -⟩ | ⟨ha, htail⟩⟩ := second_of_atom hscan
  · exact absurd rfl (hunquoted a ha)
  rcases List.eq_nil_or_concat r with rfl | ⟨r, d, rfl⟩
  · have hdot : a = '.' := by simpa using hlast
    subst hdot
    exact absurd ha (by decide)
  · rw [List.concat_eq_append] at hlast htail hlexeme
    rw [← List.cons_append, ← List.cons_append, List.getLast?_concat] at hlast
    cases hlast
    have htail' : atomTail (isUpper c) (a :: r ++ '.' :: w) = (a :: r).length + 1 := by
      simpa using htail
    cases hupper : isUpper c with
    | true => exact ⟨c, a, r, w, hlexeme, hupper, ha, by rwa [hupper] at htail'⟩
    | false =>
        -- only an alias goes on over a dot
        rw [hupper] at htail
        have hall := isAtomChar_of_atomTail
          (show atomTail false (a :: (r ++ ['.']) ++ w) = (a :: (r ++ ['.'])).length from htail)
        exact absurd (hall '.' (by simp)) (by decide)

/-- An alias with a dot at its end comes apart where atoms and dots stop. -/
theorem gist_dotted {t : Token} (ht : Lexed t) (hdotted : Dotted t.kind t.lexeme) {u : Text}
    (hatom : Stops .atom u) (hdot : Stops .dot u) :
    ∃ s, gist (t.lexeme ++ u) = ⟨.atom, s, .nowhere⟩ :: ⟨.dot, ['.'], .nowhere⟩ :: gist u := by
  obtain ⟨c, a, r, w, hlexeme, hupper, ha, htail⟩ := spelling_of_dotted ht hdotted
  have hnext : u.head?.any isUpper = false := by
    cases u with
    | nil => rfl
    | cons d u =>
        rw [stops_cons] at hatom
        simp only [goesOn, Bool.or_eq_false_iff] at hatom
        exact hatom.1.2
  have hblank := not_isBlank_of_isUpper hupper
  have halias : scan c (a :: r ++ '.' :: u) = ⟨.atom, (a :: r).length + 1⟩ := by
    rw [scan_of_not_mark hblank (not_mem_marks_of_isUpper hupper), if_pos hupper,
      List.cons_append, atom?_alias hupper ha, ← List.cons_append, atomTail_before_dot htail hnext]
    rfl
  have hscan : scan '.' ([] ++ u) = ⟨.dot, 1⟩ := scan_append (c := '.') (s := []) hdot
  have hrest : gist ('.' :: u) = ⟨.dot, ['.'], .nowhere⟩ :: gist u :=
    gist_of_scan hscan (by decide) (by decide)
  refine ⟨c :: a :: r, ?_⟩
  rw [hlexeme, ← hrest, ← gist_of_scan halias hblank (ne_of_isUpper hupper).2]
  simp

/-- An alias with a dot at its end does not stand in a program where atoms and dots stop. -/
theorem not_placed_of_dotted {t : Token} (ht : Lexed t) (hdotted : Dotted t.kind t.lexeme)
    {u : Text} (hatom : Stops .atom u) (hdot : Stops .dot u) (pre : List Token) :
    ¬ Placed (pre ++ gist (t.lexeme ++ u)) := by
  intro hplaced
  obtain ⟨s, hgist⟩ := gist_dotted ht hdotted hatom hdot
  obtain ⟨name, hlast, hname⟩ := (hplaced (pre ++ [⟨.atom, s, .nowhere⟩]) ⟨.dot, ['.'], .nowhere⟩
    (gist u) (by rw [hgist]; simp)).dot rfl
  rw [List.getLast?_concat] at hlast
  cases hlast
  cases hname

/-! ## Names before a colon -/

/-- A colon does not stand right behind a charlist in a program. -/
theorem not_placed_of_charlist (pre : List Token) (name : Text) (ts : List Token) :
    ¬ Placed (pre ++ ⟨.charlist, name, .nowhere⟩ :: ⟨.operator, [':'], .nowhere⟩ :: ts) := by
  intro hplaced
  obtain ⟨others, separator, key, hsplit, -, hkey⟩ :=
    (hplaced (pre ++ [⟨.charlist, name, .nowhere⟩]) ⟨.operator, [':'], .nowhere⟩ ts
      (by simp)).colon rfl (by decide)
  rw [List.append_cons others separator [key]] at hsplit
  cases (List.append_inj' hsplit rfl).2
  rcases hkey with h | h | h | ⟨h, -⟩ <;> cases h

/-- A codepoint literal without an escape takes a run. -/
theorem scan_codepoint {s : Text} (h : s.head? ≠ some '\\') :
    scan '?' s = ⟨.char, run isCodepointChar s + 1⟩ := by
  show codepoint ('?' :: s) = _
  unfold codepoint
  split
  · rename_i heq
    cases heq
    exact absurd rfl h
  · rfl

/-- A token that starts before a colon with a character of atoms, other than an exclamation mark, is
found as if nothing came after the atom, and separates nothing. -/
theorem scan_before_colon {c : Char} {s : Text} (hc : isAtomChar c = true) (hbang : c ≠ '!')
    (hs : ∀ d ∈ s, isAtomChar d = true) (u : Text) :
    scan c (s ++ ':' :: u) = scan c s ∧ ¬ Separates (first .nowhere c s) := by
  have hcases : (isAlphanumeric c = true ∨ c = '_') ∨ c = '?' := by
    simp only [isAtomChar, Bool.or_eq_true, decide_eq_true_eq, List.mem_cons, List.not_mem_nil,
      or_false] at hc
    tauto
  rcases hcases with hword | rfl
  · have hkind := (scan_kind_of_isAlphanumeric hword s).1
    have hstops : ∀ kind ∈ wordKinds, goesOn kind ':' = false := by decide
    have hno : ∀ kind ∈ wordKinds, kind ≠ .comma ∧ kind ≠ .delimiter := by decide
    refine ⟨scan_append ((stops_cons _ _ _).2 (hstops _ hkind)), ?_⟩
    exact not_or.2 (hno _ hkind)
  · have hhead : s.head? ≠ some '\\' := by
      intro h
      exact absurd (hs _ (List.mem_of_mem_head? h)) (by decide)
    have hhead' : (s ++ ':' :: u).head? ≠ some '\\' := by
      cases s with
      | nil => simp
      | cons d s => exact hhead
    have hscan := scan_codepoint hhead
    refine ⟨?_, ?_⟩
    · rw [hscan, scan_codepoint hhead', run_append (by decide)]
    · simp [Separates, first, hscan]

/-- A token at the head of a text that is found as if nothing came after it stands before the gist
of what is left of the text. -/
theorem gist_cons_append {c : Char} {s u : Text} (h : scan c (s ++ u) = scan c s)
    (hblank : isBlank c = false) (hhash : c ≠ '#') :
    gist (c :: (s ++ u)) = first .nowhere c s :: gist (afterFirst c s ++ u) := by
  obtain ⟨hfirst, hafter⟩ := first_append h .nowhere
  rw [gist_cons, if_pos ((isSignificant_first _ _ _).2 ⟨hblank, hhash⟩), hfirst, hafter]

/-- A character of atoms starts a significant token. -/
theorem start_of_isAtomChar {c : Char} (h : isAtomChar c = true) : isBlank c = false ∧ c ≠ '#' := by
  refine ⟨not_isBlank_of_isAtomChar h, ?_⟩
  rintro rfl
  exact absurd h (by decide)

/-- Before a colon that comes after characters of atoms an operator is found, and nothing that
separates the tokens up to it from each other. -/
theorem gist_before_colon {s : Text} (hall : ∀ c ∈ s, isAtomChar c = true) (u : Text) :
    ∃ ts operator rest, gist (s ++ ':' :: ' ' :: u) = ts ++ operator :: rest ∧
      operator.kind = .operator ∧ operator.lexeme ≠ ['=', '>'] ∧ ∀ t ∈ ts, ¬ Separates t := by
  match s with
  | [] => exact ⟨[], ⟨.operator, [':'], .nowhere⟩, gist u, gist_colon u, rfl, by decide, nofun⟩
  | c :: s =>
      obtain ⟨hc, hs⟩ := List.forall_mem_cons.1 hall
      obtain ⟨hblank, hhash⟩ := start_of_isAtomChar hc
      by_cases hbang : c = '!'
      · -- an exclamation mark starts an operator, which may or may not hold the colon
        subst hbang
        have hgist := gist_cons '!' (s ++ ':' :: ' ' :: u)
        rw [if_pos ((isSignificant_first _ _ _).2 ⟨hblank, hhash⟩)] at hgist
        refine ⟨[], first .nowhere '!' (s ++ ':' :: ' ' :: u), _, hgist, rfl, ?_, nofun⟩
        intro harrow
        have hhead := head?_first .nowhere '!' (s ++ ':' :: ' ' :: u)
        rw [harrow] at hhead
        cases hhead
      · obtain ⟨hscan, hseparates⟩ := scan_before_colon hc hbang hs (' ' :: u)
        have hshorter := length_afterFirst_lt c s
        have hrest : ∀ d ∈ afterFirst c s, isAtomChar d = true :=
          fun d hd => hall d (List.mem_of_mem_drop hd)
        obtain ⟨ts, operator, rest, hgist, hkind, harrow, hts⟩ := gist_before_colon hrest u
        refine ⟨first .nowhere c s :: ts, operator, rest, ?_, hkind, harrow,
          List.forall_mem_cons.2 ⟨hseparates, hts⟩⟩
        rw [List.cons_append, gist_cons_append hscan hblank hhash, hgist, List.cons_append]
termination_by s.length
decreasing_by exact hshorter

/-- Of the last two members of a list that ends in a part which is not empty, the first is in that
part, or the part is the second alone. -/
theorem last_two_of_append_eq {α : Type} {pre others ts : List α} {x separator key : α}
    (h : pre ++ x :: ts = others ++ [separator, key]) :
    (ts = [] ∧ key = x) ∨ separator ∈ x :: ts := by
  rcases List.eq_nil_or_concat ts with rfl | ⟨us, t, rfl⟩
  · rw [List.append_cons others separator [key]] at h
    cases (List.append_inj' h rfl).2
    exact Or.inl ⟨rfl, rfl⟩
  · right
    rw [List.append_cons others separator [key], List.concat_eq_append, ← List.cons_append,
      ← List.append_assoc] at h
    have hlast := congrArg List.getLast? (List.append_inj' h rfl).1
    rw [List.getLast?_append_of_ne_nil _ (List.cons_ne_nil x us), List.getLast?_concat] at hlast
    rw [List.concat_eq_append, ← List.cons_append]
    exact List.mem_append_left _ (List.mem_of_getLast? hlast)

/-- A name that starts with a digit of ASCII does not stand before a colon in a program. -/
theorem not_placed_of_digit {c : Char} {s : Text} (hdigit : c.isDigit = true)
    (hall : ∀ d ∈ c :: s, isAtomChar d = true) (u : Text) (pre : List Token) :
    ¬ Placed (pre ++ gist (c :: s ++ ':' :: ' ' :: u)) := by
  intro hplaced
  obtain ⟨hc, hs⟩ := List.forall_mem_cons.1 hall
  obtain ⟨hblank, hhash⟩ := start_of_isAtomChar hc
  have hbang : c ≠ '!' := by
    rintro rfl
    cases hdigit
  have hletter : c.isAlphanum = true := by rw [Char.isAlphanum, hdigit, Bool.or_true]
  have hnumber : (first .nowhere c s).kind = .number :=
    (scan_kind_of_isAlphanumeric (.inl (isAlphanumeric_of_isAlphanum hletter)) s).2 hdigit
  obtain ⟨hscan, hseparates⟩ := scan_before_colon hc hbang hs (' ' :: u)
  obtain ⟨ts, operator, rest, hgist, hkind, harrow, hts⟩ :=
    gist_before_colon (s := afterFirst c s) (fun d hd => hall d (List.mem_of_mem_drop hd)) u
  obtain ⟨others, separator, key, hsplit, hseparator, hkey⟩ :=
    (hplaced (pre ++ first .nowhere c s :: ts) operator rest (by
      rw [List.cons_append, gist_cons_append hscan hblank hhash, hgist]
      simp)).colon hkind harrow
  -- the number is the name before the operator, or what stands before the name separates nothing
  rcases last_two_of_append_eq hsplit with ⟨-, rfl⟩ | hmem
  · rcases hkey with h | h | h | ⟨h, -⟩ <;> rw [hnumber] at h <;> cases h
  · rcases List.mem_cons.1 hmem with rfl | hmem
    · exact hseparates hseparator
    · exact hts separator hmem hseparator

/-- The name of an atom that is written before a colon in a program starts with no single quote and
with no digit of ASCII. -/
theorem name_of_placed {t : Token} (ht : Lexed t) (hkind : t.kind = .atom) {name : Text}
    (hlexeme : t.lexeme = ':' :: name) {u : Text} {pre : List Token}
    (hplaced : Placed (pre ++ gist (name ++ ':' :: ' ' :: u))) :
    name.head? ≠ some '\'' ∧ name.head?.any Char.isDigit = false := by
  obtain ⟨c, s, w, hspelled, hscan⟩ := ht
  rw [hspelled] at hlexeme
  obtain ⟨rfl, rfl⟩ := List.cons.inj hlexeme
  rw [hkind] at hscan
  obtain ⟨a, r, rfl, ⟨-, ha, hlength, hclosed⟩ | ⟨ha, htail⟩⟩ := second_of_atom hscan
  · -- a quoted name is a literal of its own, and a charlist is no key
    have hdouble : a = '"' := by
      simp only [quotes, List.mem_cons, List.not_mem_nil, or_false] at ha
      refine ha.resolve_right ?_
      rintro rfl
      rw [quoted_name_found (.inr ⟨rfl, rfl⟩) hclosed hlength, gist_colon] at hplaced
      exact not_placed_of_charlist _ _ _ hplaced
    subst hdouble
    exact ⟨by simp, rfl⟩
  · -- an atom with a colon is no alias, so its name holds no dot
    have hupper : isUpper ':' = false := by decide
    rw [hupper] at htail
    have hall : ∀ d ∈ a :: r, isAtomChar d = true :=
      isAtomChar_of_atomTail (show atomTail false (a :: r ++ w) = (a :: r).length from htail)
    refine ⟨?_, ?_⟩
    · intro hquote
      cases hquote
      exact absurd ha (by decide)
    · rw [Bool.eq_false_iff]
      intro hdigit
      exact not_placed_of_digit hdigit hall u pre hplaced

end Token

end ElixirTerms
