/-
# Cutting a token out of its text

A token that is cut out of its text is found again (`scan_of_append`).  The one exception is an
alias with a dot at its end, which is there only for the upper-case character after it
(`not_dotted_of_stops`).
-/
import ElixirTerms.Proofs.Boundary.Append

namespace ElixirTerms.Extent

open Token Unicode

/-! ## Parts of tokens -/

/-- A run that takes a text takes it also where nothing follows. -/
theorem takeWhile_of_append {p : Char → Bool} {s u : Text}
    (h : ((s ++ u).takeWhile p).length = s.length) :
    (s ++ u).takeWhile p = s ∧ s.takeWhile p = s := by
  induction s with
  | nil => exact ⟨List.length_eq_zero_iff.1 h, rfl⟩
  | cons c s ih =>
      rw [List.cons_append, List.takeWhile_cons] at h ⊢
      rw [List.takeWhile_cons]
      cases hc : p c with
      | false =>
          rw [hc] at h
          cases h
      | true =>
          rw [hc] at h
          obtain ⟨hlong, hshort⟩ := ih (Nat.succ.inj h)
          simp only [hlong, hshort, if_true, and_self]

theorem run_of_append {p : Char → Bool} {s u : Text} (h : run p (s ++ u) = s.length) :
    run p s = run p (s ++ u) := by
  obtain ⟨hlong, hshort⟩ := takeWhile_of_append h
  rw [run, run, hlong, hshort]

/-- An alias with a dot at its end goes on only before an upper-case character. -/
theorem atomTail_of_append {isAlias : Bool} {s u : Text}
    (h : atomTail isAlias (s ++ u) = s.length) (hdot : s.getLast? ≠ some '.') :
    atomTail isAlias s = s.length := by
  induction s with
  | nil => rfl
  | cons c s ih =>
      rw [List.cons_append, atomTail] at h
      rw [atomTail]
      split_ifs at h with hc
      have htail : atomTail isAlias (s ++ u) = s.length := Nat.succ.inj h
      -- only the last character of the text could have looked beyond its end
      cases s with
      | nil =>
          have hne : c ≠ '.' := by simpa using hdot
          have hatom : isAtomChar c = true := by simpa [hne] using hc
          rw [if_pos (by simp [hatom])]
          rfl
      | cons a s =>
          have hc' : (isAtomChar c || isAlias && decide (c = '.') &&
              (a :: s).head?.any isUpper) = true := hc
          rw [if_pos hc', ih htail (by simpa using hdot)]
          rfl

/-- An unquoted atom with a dot at its end. -/
def Dotted (kind : Kind) (lexeme : Text) : Prop :=
  kind = .atom ∧ (∀ quote ∈ quotes, lexeme[1]? ≠ some quote) ∧ lexeme.getLast? = some '.'

instance (kind : Kind) (lexeme : Text) : Decidable (Dotted kind lexeme) :=
  inferInstanceAs (Decidable (_ ∧ _ ∧ _))

/-- An atom is one also where nothing follows it, unless it is an alias with a dot at its end. -/
theorem atom?_of_append {c : Char} {s u : Text} {e : Extent} (h : atom? (c :: s ++ u) = some e)
    (hclosed : e.kind ≠ .illegal) (hlength : e.length = s.length + 1)
    (hdotted : ¬ Dotted e.kind (c :: s)) : atom? (c :: s) = some e := by
  match s with
  | [] =>
      have := two_le_length_of_atom? h
      rw [List.length_nil] at hlength
      omega
  | a :: s =>
      rw [List.cons_append, List.cons_append, atom?_cons_cons] at h
      rw [atom?_cons_cons]
      split_ifs at h ⊢ with hquoted hword
      · cases h
        have hquoted := quoted_of_append hclosed (Nat.succ.inj hlength)
        rw [hquoted, List.cons_append]
      · cases h
        have htail : atomTail (isUpper c) (a :: s ++ u) = (a :: s).length := Nat.succ.inj hlength
        -- its second character is no quote, so a dot at its end would make it a dotted one
        have hdot : (a :: s).getLast? ≠ some '.' := by
          intro hdot
          refine hdotted ⟨rfl, ?_, by simpa using hdot⟩
          intro quote hquote hsecond
          exact ne_quote_of_isAlphanumeric hword hquote (by simpa using hsecond)
        rw [atomTail_of_append htail hdot, ← List.cons_append, htail]

/-- What starts no atom starts none where nothing follows it. -/
theorem atom?_of_append_none {c : Char} {s u : Text} (h : atom? (c :: s ++ u) = none) :
    atom? (c :: s) = none := by
  match s with
  | [] => rfl
  | a :: s =>
      rw [List.cons_append, List.cons_append, atom?_cons_cons] at h
      rw [atom?_cons_cons]
      split_ifs at h ⊢
      rfl

/-- A token that is no atom is one also where nothing follows it. -/
theorem plain_of_append {c : Char} {s u : Text} (hclosed : (plain c (s ++ u)).kind ≠ .illegal)
    (h : (plain c (s ++ u)).length = s.length + 1) : plain c s = plain c (s ++ u) := by
  unfold plain at hclosed h ⊢
  split_ifs at hclosed h ⊢
  · rfl
  · rw [← List.cons_append, run_of_append h]
  · rw [← List.cons_append, run_of_append h]
  · have hlength : ((c :: s ++ u).takeWhile isWordChar).length = (c :: s).length := h
    obtain ⟨hlong, hshort⟩ := takeWhile_of_append hlength
    rw [word, word, ← List.cons_append, hlong, hshort]
  · exact absurd rfl hclosed

/-! ## Tokens -/

/-- A kind whose tokens are closed, so that they do not change with what follows them. -/
def Settled (kind : Kind) : Prop := kind ≠ .char ∧ kind ≠ .illegal

/-- A settled token that is cut out of its text is found again, unless it is an alias with a dot at
its end. -/
theorem scan_of_append {c : Char} {s u : Text} (h : (scan c (s ++ u)).length = s.length + 1)
    (hsettled : Settled (scan c (s ++ u)).kind)
    (hdotted : ¬ Dotted (scan c (s ++ u)).kind (c :: s)) : scan c s = scan c (s ++ u) := by
  obtain ⟨hchar, hclosed⟩ := hsettled
  cases start c with
  | whitespace _ hscan | dot _ hscan =>
      rw [hscan] at h
      rw [hscan, hscan, ← List.cons_append, run_of_append h]
  | comma _ hscan | atSign _ hscan => rw [hscan, hscan]
  | comment _ hscan =>
      rw [hscan] at h
      have hlength : run isCommentChar (c :: s ++ u) = (c :: s).length := h
      rw [hscan, hscan, Extent.comment, Extent.comment, ← List.cons_append,
        run_of_append hlength]
  | codepoint _ hscan =>
      rw [hscan, codepoint_kind] at hchar
      exact absurd rfl hchar
  | string _ hscan | charlist _ hscan =>
      rw [hscan] at h hclosed
      rw [hscan, hscan, quoted_of_append hclosed h, List.cons_append]
  | atom _ hscan =>
      rw [hscan] at h hclosed hdotted
      rw [hscan, hscan]
      cases hatom : atom? (c :: s ++ u) with
      | none =>
          rw [List.cons_append] at hatom
          rw [hatom] at h hclosed
          rw [hatom, atom?_of_append_none hatom, Option.getD_none, Option.getD_none,
            plain_of_append hclosed h]
      | some e =>
          rw [List.cons_append] at hatom
          rw [hatom] at h hclosed hdotted
          rw [hatom, atom?_of_append hatom hclosed h hdotted]
          rfl
  | plain _ _ _ hscan =>
      rw [hscan] at h hclosed
      rw [hscan, hscan, plain_of_append hclosed h]

/-! ## Aliases with a dot at their end -/

/-- A dot at the end of an alias stands before an upper-case character. -/
theorem isUpper_of_atomTail {isAlias : Bool} {s u : Text}
    (h : atomTail isAlias (s ++ u) = s.length) (hdot : s.getLast? = some '.') :
    u.head?.any isUpper = true := by
  induction s with
  | nil => cases hdot
  | cons c s ih =>
      rw [List.cons_append, atomTail] at h
      split_ifs at h with hc
      cases s with
      | nil =>
          have hc' : c = '.' := by simpa using hdot
          subst hc'
          have hmark : isAtomChar '.' = false := by decide
          rw [hmark, Bool.false_or, Bool.and_eq_true] at hc
          exact hc.2
      | cons a s => exact ih (Nat.succ.inj h) (by simpa using hdot)

/-- An alias with a dot at its end does not stop before a character over which atoms do not go
on. -/
theorem not_dotted_of_stops {c : Char} {s u : Text}
    (h : (scan c (s ++ u)).length = s.length + 1) (hstops : Stops .atom u) :
    ¬ Dotted (scan c (s ++ u)).kind (c :: s) := by
  -- the dot would be there for an upper-case character, before which atoms do not stop
  rintro ⟨hkind, hunquoted, hdot⟩
  have hatom := (atom?_of_scan_kind hkind).2
  match s with
  | [] =>
      have hc : c = '.' := by simpa using hdot
      subst hc
      cases hkind
  | a :: s =>
      rw [List.cons_append] at h
      rw [List.cons_append, atom?_cons_cons] at hatom
      split_ifs at hatom with hquoted
      · exact hunquoted a hquoted.2 rfl
      · have hlength := congrArg Extent.length (Option.some.inj hatom)
        rw [h] at hlength
        have hupper := isUpper_of_atomTail (Nat.succ.inj hlength) (by simpa using hdot)
        cases u with
        | nil => cases hupper
        | cons d u =>
            rw [stops_cons] at hstops
            have hno : isUpper d = true := hupper
            simp [goesOn, hno] at hstops

end ElixirTerms.Extent
