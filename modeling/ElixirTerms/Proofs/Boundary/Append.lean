/-
# Where a token stops

A token stops where its text ends, or before a character over which its kind does not go on.  Text
that is appended there leaves the token as it is (`scan_append`).
-/
import ElixirTerms.Proofs.Boundary.Quotes

namespace ElixirTerms.Extent

open Token Unicode

/-! ## Stops -/

/-- Whether a token of a kind could go on over a character, or look at it.  Codepoint literals and
what is illegal may go on over everything. -/
def goesOn : Kind → Char → Bool
  | .whitespace, d => isBlank d
  | .comment, d => isCommentChar d
  | .dot, d => d = '.'
  | .string, d | .charlist, d => d ∈ quotes
  | .atom, d => isAtomChar d || isUpper d || d ∈ '.' :: quotes
  | .operator, d => isOperatorChar d || isAlphanumeric d || d ∈ '_' :: quotes
  | .number, d => isNumberChar d
  | .identifier, d | .boolean, d => isWordChar d
  | .comma, _ | .atSign, _ | .delimiter, _ => false
  | .char, _ | .illegal, _ | .eof, _ => true

/-- A token of a kind does not go on over a text. -/
def Stops (kind : Kind) (u : Text) : Prop := ∀ d ∈ u.head?, goesOn kind d = false

/-- A token stops before a text by the first character. -/
theorem stops_cons (kind : Kind) (d : Char) (u : Text) :
    Stops kind (d :: u) ↔ goesOn kind d = false := by
  simp [Stops]

/-- Words go on over the characters of words. -/
theorem goesOn_word (s : Text) (d : Char) : goesOn (word s).kind d = isWordChar d := by
  unfold word wordKind
  dsimp only
  split <;> rfl

/-! ## Parts of tokens -/

/-- A run is not changed by what follows a text, if that starts with no character of the class. -/
theorem takeWhile_append_cons {p : Char → Bool} {d : Char} (h : p d = false) (s u : Text) :
    (s ++ d :: u).takeWhile p = s.takeWhile p := by
  induction s with
  | nil => rw [List.nil_append, List.takeWhile_cons, h, List.takeWhile_nil]; rfl
  | cons c s ih => rw [List.cons_append, List.takeWhile_cons, List.takeWhile_cons, ih]

theorem run_append {p : Char → Bool} {d : Char} (h : p d = false) (s u : Text) :
    run p (s ++ d :: u) = run p s := by
  rw [run, takeWhile_append_cons h, run]

/-- A literal that is closed stays closed before a character over which its kind does not go on. -/
theorem quoted_append_of_stops {quote : Char} {kind : Kind} {s : Text} {d : Char}
    (hquote : quote ∈ quotes) (hkind : kind = .string ∨ kind = .charlist ∨ kind = .atom)
    (h : goesOn (quoted quote kind (quote :: s)).kind d = false) (u : Text) :
    quoted quote kind (quote :: (s ++ d :: u)) = quoted quote kind (quote :: s) := by
  have hclosed : (quoted quote kind (quote :: s)).kind ≠ .illegal := by
    intro hillegal
    rw [hillegal] at h
    cases h
  rw [(quoted_kind quote kind (quote :: s)).resolve_right hclosed] at h
  refine quoted_append hclosed ?_ u
  rintro - rfl
  rcases hkind with rfl | rfl | rfl <;> simp [goesOn, hquote] at h

/-- An atom is not changed by what follows a text, if that starts with no character over which
atoms go on. -/
theorem atomTail_append {d : Char} (h : goesOn .atom d = false) (isAlias : Bool) (s u : Text) :
    atomTail isAlias (s ++ d :: u) = atomTail isAlias s := by
  simp only [goesOn, Bool.or_eq_false_iff, decide_eq_false_iff_not, List.mem_cons, not_or] at h
  induction s with
  | nil => simp [atomTail, h]
  | cons c s ih =>
      -- a dot of an alias looks one character ahead, and `d` is not upper case
      have hahead : (s ++ d :: u).head?.any isUpper = s.head?.any isUpper := by
        cases s <;> simp [h]
      rw [List.cons_append, atomTail, hahead, ih, atomTail]

/-- A token that starts like no atom is not changed by what follows its text, if its kind does not
go on over that. -/
theorem plain_append {c d : Char} {s : Text} (h : goesOn (plain c s).kind d = false) (u : Text) :
    plain c (s ++ d :: u) = plain c s := by
  unfold plain at h ⊢
  split_ifs at h ⊢ with hdelimiter hoperator hdigit hword
  · rfl
  · simp only [goesOn, Bool.or_eq_false_iff] at h
    rw [← List.cons_append, run_append h.1.1]
  · have hd : isNumberChar d = false := h
    rw [← List.cons_append, run_append hd]
  · have hd : isWordChar d = false := by
      unfold word wordKind at h
      dsimp only at h
      split at h <;> exact h
    rw [word, ← List.cons_append, takeWhile_append_cons hd, word]
  · cases h

/-- An atom stays what it is before a character over which its kind does not go on. -/
theorem atom?_append {c a d : Char} {s : Text} {e : Extent} (he : atom? (c :: a :: s) = some e)
    (h : goesOn e.kind d = false) (u : Text) :
    atom? (c :: a :: (s ++ d :: u)) = some e := by
  rw [atom?_cons_cons] at he ⊢
  split_ifs at he ⊢ with hquoted hword
  · cases he
    rw [quoted_append_of_stops hquoted.2 (by simp) h]
  · cases he
    rw [← List.cons_append, atomTail_append h]

/-- What starts no atom starts none before a character over which its kind does not go on. -/
theorem atom?_append_none {c d : Char} {s : Text} (hc : isUpper c = true ∨ c = ':')
    (hnone : atom? (c :: s) = none) (h : goesOn (plain c s).kind d = false) (u : Text) :
    atom? (c :: (s ++ d :: u)) = none := by
  match s with
  | a :: s =>
      rw [atom?_cons_cons] at hnone
      rw [List.cons_append, atom?_cons_cons]
      split_ifs at hnone ⊢
      rfl
  | [] =>
      -- here the appended text has the second character, which could have made an atom
      have hd : isAlphanumeric d = false ∧ d ≠ '_' ∧ (c = ':' → d ∉ quotes) := by
        rcases hc with hc | rfl
        · rw [plain_of_isUpper hc, goesOn_word] at h
          obtain ⟨halphanumeric, hunderscore⟩ := not_isAlphanumeric_of_not_isWordChar h
          refine ⟨halphanumeric, hunderscore, ?_⟩
          rintro rfl
          exact absurd hc (by decide)
        · have hkind : (plain ':' []).kind = .operator := rfl
          rw [hkind] at h
          simp only [goesOn, Bool.or_eq_false_iff, decide_eq_false_iff_not, List.mem_cons,
            not_or] at h
          exact ⟨h.1.2, h.2.1, fun _ => by simpa [quotes] using h.2.2⟩
      rw [List.nil_append, atom?_cons_cons, if_neg (fun h => hd.2.2 h.1 h.2),
        if_neg (by simp [hd.1, hd.2.1])]

/-! ## Tokens -/

/-- Text that is appended where a token ends leaves the token as it is. -/
theorem scan_append {c : Char} {s u : Text} (h : Stops (scan c s).kind u) :
    scan c (s ++ u) = scan c s := by
  cases u with
  | nil => rw [List.append_nil]
  | cons d u =>
      rw [stops_cons] at h
      cases start c with
      | whitespace _ hscan =>
          rw [hscan] at h ⊢
          have hd : isBlank d = false := h
          rw [hscan, ← List.cons_append, run_append hd]
      | comma _ hscan => rw [hscan, hscan]
      | atSign _ hscan => rw [hscan, hscan]
      | comment _ hscan =>
          rw [hscan] at h ⊢
          have hd : isCommentChar d = false := h
          rw [hscan, Extent.comment, ← List.cons_append, run_append hd, Extent.comment]
      | codepoint _ hscan =>
          -- a codepoint literal stops before nothing
          rw [hscan, codepoint_kind] at h
          cases h
      | dot _ hscan =>
          rw [hscan] at h ⊢
          have hd : (fun x => decide (x = '.')) d = false := h
          rw [hscan, ← List.cons_append, run_append hd]
      | string hc hscan =>
          rw [hscan] at h ⊢
          rw [hscan, quoted_append_of_stops (by simp [hc, quotes]) (by simp) h]
      | charlist hc hscan =>
          rw [hscan] at h ⊢
          rw [hscan, quoted_append_of_stops (by simp [hc, quotes]) (by simp) h]
      | atom hc hscan =>
          rw [hscan] at h ⊢
          rw [hscan]
          cases hatom : atom? (c :: s) with
          | none =>
              rw [hatom] at h
              rw [atom?_append_none hc hatom h, Option.getD_none, plain_append h, Option.getD_none]
          | some e =>
              rw [hatom] at h
              cases s with
              | nil => cases hatom
              | cons a s =>
                  rw [List.cons_append, atom?_append hatom h]
                  rfl
      | plain _ _ _ hscan =>
          rw [hscan] at h ⊢
          rw [hscan, plain_append h]

end ElixirTerms.Extent
