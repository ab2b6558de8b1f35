/-
# What a token sees of the text after it

A token that is followed by something is decided by its own characters and by no more than two
characters after it.  So the text after a token may be exchanged for one that looks the same there,
or for one that starts with a blank or is empty (`scan_exchange`).
-/
import ElixirTerms.Proofs.Boundary.Cut

namespace ElixirTerms.Extent

open Token Unicode

/-! ## Exchanges -/

/-- Two texts that a token before them cannot tell apart.  A token looks at the first character after
it, an alias before a dot also whether the next is upper case, and a question mark before a
backslash also whether there is a next one. -/
structure Alike (u w : Text) : Prop where
  head : w.head? = u.head?
  upper : w[1]?.any isUpper = true → u[1]?.any isUpper = true
  lone : u.length = 1 → w.length = 1

/-- Texts stay alike after further characters. -/
theorem Alike.append {u w : Text} (h : Alike u w) (s : Text) : Alike (s ++ u) (s ++ w) := by
  match s with
  | [] => exact h
  | [c] =>
      refine ⟨rfl, ?_, ?_⟩
      · simp only [List.singleton_append, List.getElem?_cons_succ, ← List.head?_eq_getElem?, h.head]
        exact id
      · intro hlone
        have hu : u = [] := by simpa using hlone
        have hhead := h.head
        rw [hu, List.head?_nil, List.head?_eq_none_iff] at hhead
        rw [hhead]
        rfl
  | c :: d :: s => exact ⟨rfl, id, fun hlone => by simp at hlone⟩

/-- A text that starts with no character but a blank. -/
def Blanked (w : Text) : Prop := ∀ d ∈ w.head?, isBlank d = true

/-- What comes after a token may be exchanged for what looks the same, or, if the token is no trivia
and no alias with a dot at its end, for what is empty or starts with a blank. -/
inductive Exchange (kind : Kind) (lexeme u w : Text) : Prop where
  | alike : Alike u w → Exchange kind lexeme u w
  | blanked : Blanked w → kind.isTrivia = false → ¬ Dotted kind lexeme →
      Exchange kind lexeme u w

variable {kind : Kind} {lexeme s u w : Text}

/-- A class stops before a text that does not start with one of its characters. -/
def Ends (p : Char → Bool) (u : Text) : Prop := ∀ d ∈ u.head?, p d = false

/-- A class of characters without blanks. -/
def Unspaced (p : Char → Bool) : Prop := ∀ b, isBlank b = true → p b = false

/-- A class stops after the exchange where it stopped before, unless it is the class of some trivia
that holds blanks. -/
theorem Exchange.ends {p : Char → Bool} (h : Exchange kind lexeme u w)
    (hp : kind.isTrivia = false → Unspaced p) (hu : Ends p u) : Ends p w := by
  intro d hd
  cases h with
  | alike h => exact hu d (h.head ▸ hd)
  | blanked hw hkind _ => exact hp hkind d (hw d hd)

/-! ## Classes without blanks -/

/-- A class is without blanks if none of its characters is one. -/
theorem unspaced_of_forall {p : Char → Bool} (h : ∀ c, p c = true → isBlank c = false) :
    Unspaced p := by
  intro b hb
  cases hp : p b with
  | false => rfl
  | true =>
      rw [h b hp] at hb
      cases hb

/-- Each mark is in no class with a blank. -/
theorem not_isBlank_of_mem_marks {c : Char} (h : c ∈ marks) : isBlank c = false :=
  (marks_excluded c h).1

/-- Quotes are marks. -/
theorem mem_marks_of_mem_quotes {quote : Char} (h : quote ∈ quotes) : quote ∈ marks := by
  have hmarks : ∀ q ∈ quotes, q ∈ marks := by decide
  exact hmarks quote h

theorem unspaced_operator : Unspaced isOperatorChar := by
  refine unspaced_of_forall fun c hc => not_isBlank_of_mem_marks ?_
  exact List.mem_append_right _ (by simpa [isOperatorChar] using hc)

theorem unspaced_atom : Unspaced isAtomChar :=
  unspaced_of_forall fun _ => not_isBlank_of_isAtomChar

theorem unspaced_word : Unspaced isWordChar := by
  intro b hb
  simp [isWordChar, hb]

theorem unspaced_number : Unspaced isNumberChar := by
  refine unspaced_of_forall fun c hc => ?_
  rw [isNumberChar, Bool.or_eq_true, decide_eq_true_eq] at hc
  rcases hc with hc | hc
  · exact not_isBlank_of_isAlphanumeric (isAlphanumeric_of_isAlphanum hc)
  · have hmarks : ∀ d ∈ ['.', '_'], isBlank d = false := by decide
    exact hmarks c hc

theorem unspaced_codepoint : Unspaced isCodepointChar := by
  refine unspaced_of_forall fun c hc => ?_
  rw [isCodepointChar, Bool.or_eq_true, decide_eq_true_eq] at hc
  rcases hc with hc | rfl
  · exact not_isBlank_of_isAlphanumeric hc
  · decide

theorem unspaced_illegal : Unspaced (!isBlank ·) := by
  intro b hb
  simp [hb]

theorem unspaced_mark (mark : Char) (h : mark ∈ marks) : Unspaced (fun c => decide (c = mark)) :=
  unspaced_of_forall fun c hc => by rw [of_decide_eq_true hc, not_isBlank_of_mem_marks h]

/-! ## Runs -/

/-- A run that takes a text ends where it does. -/
theorem ends_of_run {p : Char → Bool} (h : run p (s ++ u) = s.length) : Ends p u := by
  induction s with
  | nil =>
      intro d hd
      obtain ⟨u, rfl⟩ := List.head?_eq_some_iff.1 hd
      cases hp : p d with
      | false => rfl
      | true => simp [run, hp] at h
  | cons c s ih =>
      rw [run, List.cons_append, List.takeWhile_cons] at h
      split_ifs at h
      exact ih (Nat.succ.inj h)

/-- A run is not changed by a text before which its class stops. -/
theorem takeWhile_append_of_ends {p : Char → Bool} (h : Ends p w) (s : Text) :
    (s ++ w).takeWhile p = s.takeWhile p := by
  cases w with
  | nil => rw [List.append_nil]
  | cons d w => exact takeWhile_append_cons (h d rfl) s w

/-- What comes after a run is not changed by a text before which its class stops. -/
theorem dropWhile_append_of_ends {p : Char → Bool} (h : Ends p w) (s : Text) :
    (s ++ w).dropWhile p = s.dropWhile p ++ w := by
  induction s with
  | nil =>
      cases w with
      | nil => rfl
      | cons d w => exact List.dropWhile_cons_of_neg (by simp [h d rfl])
  | cons c s ih =>
      rw [List.cons_append, List.dropWhile_cons, List.dropWhile_cons, ih]
      split_ifs <;> rfl

/-- A run that takes a text takes it also before another text before which its class stops. -/
theorem takeWhile_exchange {p : Char → Bool} (h : run p (s ++ u) = s.length)
    (hends : Ends p u → Ends p w) : (s ++ w).takeWhile p = (s ++ u).takeWhile p := by
  obtain ⟨hlong, hshort⟩ := takeWhile_of_append h
  rw [takeWhile_append_of_ends (hends (ends_of_run h)), hlong, hshort]

theorem run_exchange {p : Char → Bool} (h : run p (s ++ u) = s.length)
    (hends : Ends p u → Ends p w) : run p (s ++ w) = run p (s ++ u) := by
  rw [run, run, takeWhile_exchange h hends]

/-! ## Quoted literals -/

/-- A literal between tripled quotes holds the three that open it. -/
theorem three_le_length_heredoc (quote : Char) (kind : Kind) (s : Text) :
    3 ≤ (heredoc quote kind s).length := by
  unfold heredoc
  split <;> simp only [unclosed] <;> omega

/-- A literal that is illegal takes all. -/
theorem length_le_of_quoted_illegal {quote : Char} {s : Text} (hkind : kind ≠ .illegal)
    (h : (quoted quote kind s).kind = .illegal) : s.length ≤ (quoted quote kind s).length := by
  unfold quoted heredoc at h ⊢
  split_ifs at h ⊢
  · cases hclosing : tripleClosing? quote 0 (s.drop 3) with
    | none => exact Nat.le_max_right _ _
    | some n =>
        rw [hclosing] at h
        exact absurd h hkind
  · cases hclosing : closing? quote (s.drop 1) with
    | none => exact Nat.le_max_right _ _
    | some n =>
        rw [hclosing] at h
        exact absurd h hkind

/-- Two quotes alone are a literal only before what is no quote. -/
theorem ends_quote_of_quoted {quote : Char}
    (h : (quoted quote kind (quote :: quote :: u)).length = 2) :
    Ends (fun d => decide (d = quote)) u := by
  intro d hd
  obtain ⟨u, rfl⟩ := List.head?_eq_some_iff.1 hd
  rw [decide_eq_false_iff_not]
  rintro rfl
  have := three_le_length_heredoc d kind (d :: d :: d :: u)
  rw [quoted, if_pos ⟨rfl, rfl⟩] at h
  omega

/-- A literal that does not take all is the same before another text, if that does not triple two
quotes alone. -/
theorem quoted_exchange {quote : Char} (hkind : kind ≠ .illegal)
    (h : (quoted quote kind (quote :: (s ++ u))).length = s.length + 1) (hu : u ≠ [])
    (hends : Ends (fun d => decide (d = quote)) u → Ends (fun d => decide (d = quote)) w) :
    quoted quote kind (quote :: (s ++ w)) = quoted quote kind (quote :: (s ++ u)) := by
  have hclosed : (quoted quote kind (quote :: (s ++ u))).kind ≠ .illegal := by
    intro hillegal
    have hle := length_le_of_quoted_illegal hkind hillegal
    have hpos := List.length_pos_iff.2 hu
    rw [h, List.length_cons, List.length_append] at hle
    omega
  -- the literal is cut out of the first text and put before the second
  have halone := quoted_of_append hclosed h
  rw [List.cons_append] at halone
  cases w with
  | nil => rw [List.append_nil, halone]
  | cons d w =>
      rw [quoted_append (halone ▸ hclosed) ?_ w, halone]
      rintro rfl
      exact of_decide_eq_false (hends (ends_quote_of_quoted h) d rfl)

/-! ## Atoms -/

/-- An atom goes on over nothing of the text at whose head it ends. -/
theorem atomTail_of_ends {isAlias : Bool} (h : atomTail isAlias (s ++ u) = s.length) :
    atomTail isAlias u = 0 := by
  induction s with
  | nil => exact h
  | cons c s ih =>
      rw [List.cons_append, atomTail] at h
      split_ifs at h
      exact ih (Nat.succ.inj h)

/-- An atom that goes on over a text goes on over it also before another text at whose head it ends,
if no dot at its end is there for an upper-case character that is missing. -/
theorem atomTail_exchange {isAlias : Bool} (h : atomTail isAlias (s ++ u) = s.length)
    (hw : atomTail isAlias w = 0)
    (hdot : s.getLast? = some '.' → w.head?.any isUpper = u.head?.any isUpper) :
    atomTail isAlias (s ++ w) = atomTail isAlias (s ++ u) := by
  rw [h]
  induction s with
  | nil => exact hw
  | cons c s ih =>
      rw [List.cons_append, atomTail] at h ⊢
      split_ifs at h with hc
      -- only the last character looks beyond the text
      have hahead : (c = '.' → (s ++ w).head?.any isUpper = (s ++ u).head?.any isUpper) := by
        rintro rfl
        cases s with
        | nil => exact hdot rfl
        | cons a s => rfl
      have hc' : (isAtomChar c || isAlias && decide (c = '.') && (s ++ w).head?.any isUpper) =
          true := by
        by_cases hdot : c = '.'
        · rw [hahead hdot, hc]
        · simpa [hdot] using hc
      rw [if_pos hc', ih (Nat.succ.inj h)]
      · rfl
      · intro hlast
        refine hdot ?_
        rw [List.getLast?_cons, hlast]
        rfl

/-- Atoms go on over nothing after the exchange, if they did not before. -/
theorem Exchange.atomTail_eq_zero {isAlias : Bool} (hex : Exchange kind lexeme u w)
    (hu : atomTail isAlias u = 0) : atomTail isAlias w = 0 := by
  cases w with
  | nil => rfl
  | cons d w =>
      have hno : ¬ (isAtomChar d || isAlias && decide (d = '.') && w.head?.any isUpper) = true := by
        cases hex with
        | alike halike =>
            obtain ⟨u, rfl⟩ := List.head?_eq_some_iff.1 halike.head.symm
            have hupper := halike.upper
            simp only [List.getElem?_cons_succ, ← List.head?_eq_getElem?] at hupper
            rw [atomTail] at hu
            split_ifs at hu with hd
            simp only [Bool.or_eq_true, Bool.and_eq_true, not_or, not_and] at hd ⊢
            exact ⟨hd.1, fun h hw => hd.2 h (hupper hw)⟩
        | blanked hw _ _ =>
            have hblank : isBlank d = true := hw d rfl
            have hatom : isAtomChar d = false := unspaced_atom d hblank
            have hdot : d ≠ '.' := by
              rintro rfl
              exact absurd hblank (by decide)
            simp [hatom, hdot]
      rw [atomTail, if_neg hno]

/-- An atom that does not take all is the same after an exchange. -/
theorem atom?_exchange {c : Char} {e : Extent} (h : atom? (c :: (s ++ u)) = some e)
    (hlength : e.length = s.length + 1) (hu : u ≠ []) (hex : Exchange e.kind (c :: s) u w) :
    atom? (c :: (s ++ w)) = some e := by
  match s with
  | [] =>
      have := two_le_length_of_atom? h
      rw [List.length_nil] at hlength
      omega
  | a :: s =>
      rw [List.cons_append, atom?_cons_cons] at h ⊢
      split_ifs at h ⊢ with hquoted hword
      · cases h
        have hends := hex.ends fun _ => unspaced_mark _ (mem_marks_of_mem_quotes hquoted.2)
        rw [quoted_exchange (by decide) (Nat.succ.inj hlength) hu hends]
      · cases h
        have htail : atomTail (isUpper c) (a :: s ++ u) = (a :: s).length := Nat.succ.inj hlength
        have hdot : (a :: s).getLast? = some '.' →
            w.head?.any isUpper = u.head?.any isUpper := by
          intro hdot
          cases hex with
          | alike halike => rw [halike.head]
          | blanked _ _ hdotted =>
              refine absurd ⟨rfl, ?_, by simpa using hdot⟩ hdotted
              intro quote hquote hsecond
              exact ne_quote_of_isAlphanumeric hword hquote (by simpa using hsecond)
        have hends := hex.atomTail_eq_zero (atomTail_of_ends htail)
        rw [← List.cons_append, atomTail_exchange htail hends hdot]
        rfl

/-- What starts no atom starts none after an exchange. -/
theorem atom?_exchange_none {c : Char} (h : atom? (c :: (s ++ u)) = none) (hu : u ≠ [])
    (hex : Exchange kind lexeme u w) : atom? (c :: (s ++ w)) = none := by
  match s, w with
  | a :: s, w =>
      rw [List.cons_append, atom?_cons_cons] at h ⊢
      split_ifs at h ⊢
      rfl
  | [], [] => rfl
  | [], d :: w =>
      cases hex with
      | alike halike =>
          obtain ⟨u, rfl⟩ := List.head?_eq_some_iff.1 halike.head.symm
          rw [List.nil_append, atom?_cons_cons] at h ⊢
          split_ifs at h ⊢
          rfl
      | blanked hw _ _ =>
          have hblank : isBlank d = true := hw d rfl
          have hquote : d ∉ quotes := by
            intro hquote
            rw [not_isBlank_of_mem_marks (mem_marks_of_mem_quotes hquote)] at hblank
            cases hblank
          have hunderscore : d ≠ '_' := by
            rintro rfl
            exact absurd hblank (by decide)
          rw [List.nil_append, atom?_cons_cons, if_neg (fun h => hquote h.2),
            if_neg (by simp [not_isAlphanumeric_of_isBlank hblank, hunderscore])]

/-! ## The other tokens -/

/-- A codepoint literal with an escape goes on after it. -/
theorem codepoint_escape (c d : Char) (s : Text) :
    codepoint (c :: '\\' :: d :: s) = ⟨.char, run isCodepointChar s + 3⟩ := rfl

/-- A codepoint literal without an escape goes on at once. -/
theorem codepoint_plain (c : Char) (h : ∀ d t, s ≠ '\\' :: d :: t) :
    codepoint (c :: s) = ⟨.char, run isCodepointChar s + 1⟩ := by
  unfold codepoint
  split
  · rename_i heq
    exact absurd (List.cons.inj heq).2 (h _ _)
  · rfl

/-- A codepoint literal that does not take all is the same after an exchange. -/
theorem codepoint_exchange {c : Char} (h : (codepoint (c :: (s ++ u))).length = s.length + 1)
    (hu : u ≠ []) (hex : Exchange .char lexeme u w) :
    codepoint (c :: (s ++ w)) = codepoint (c :: (s ++ u)) := by
  have hrun {s : Text} (h : run isCodepointChar (s ++ u) = s.length) :
      run isCodepointChar (s ++ w) = run isCodepointChar (s ++ u) :=
    run_exchange h (hex.ends fun _ => unspaced_codepoint)
  match s with
  | [] =>
      have hplain : ∀ d t, u ≠ '\\' :: d :: t := by
        rintro d t rfl
        rw [List.nil_append, codepoint_escape] at h
        simp at h
      have hplain' : ∀ d t, w ≠ '\\' :: d :: t := by
        rintro d t rfl
        cases hex with
        | alike halike =>
            -- a backslash that stood alone still does
            obtain ⟨u, rfl⟩ := List.head?_eq_some_iff.1 halike.head.symm
            cases u with
            | nil => exact absurd (halike.lone rfl) (by simp)
            | cons e u => exact hplain e u rfl
        | blanked hw _ _ => exact absurd (hw '\\' rfl) (by decide)
      rw [List.nil_append, codepoint_plain c hplain] at h
      have hsame : run isCodepointChar w = run isCodepointChar u := @hrun [] (Nat.succ.inj h)
      rw [List.nil_append, List.nil_append, codepoint_plain c hplain, codepoint_plain c hplain',
        hsame]
  | a :: s =>
      by_cases hbackslash : a = '\\'
      · subst hbackslash
        cases s with
        | nil =>
            -- the text after it has the character that is escaped
            obtain ⟨d, u, rfl⟩ := List.exists_cons_of_ne_nil hu
            rw [List.singleton_append, codepoint_escape] at h
            simp at h
        | cons d s =>
            rw [List.cons_append, List.cons_append, codepoint_escape] at h
            have hlength : run isCodepointChar (s ++ u) = s.length := by
              simp only [List.length_cons] at h
              omega
            simp only [List.cons_append, codepoint_escape, hrun hlength]
      · have hplain : ∀ v d t, a :: s ++ v ≠ '\\' :: d :: t :=
          fun v d t heq => hbackslash (List.cons.inj heq).1
        rw [codepoint_plain c (hplain u)] at h
        rw [codepoint_plain c (hplain w), codepoint_plain c (hplain u), hrun (Nat.succ.inj h)]

/-- A token that starts like no atom is the same after an exchange. -/
theorem plain_exchange {c : Char} (h : (plain c (s ++ u)).length = s.length + 1)
    (hex : Exchange (plain c (s ++ u)).kind lexeme u w) :
    plain c (s ++ w) = plain c (s ++ u) := by
  unfold plain at h hex ⊢
  split_ifs at h hex ⊢
  · rfl
  · rw [← List.cons_append, run_exchange h (hex.ends fun _ => unspaced_operator), List.cons_append]
  · rw [← List.cons_append, run_exchange h (hex.ends fun _ => unspaced_number), List.cons_append]
  · have hlength : run isWordChar (c :: s ++ u) = (c :: s).length := h
    rw [word, word, ← List.cons_append,
      takeWhile_exchange hlength (hex.ends fun _ => unspaced_word), List.cons_append]
  · have hlength : run (!isBlank ·) (c :: s ++ u) = (c :: s).length := h
    rw [illegal, illegal, ← List.cons_append,
      run_exchange hlength (hex.ends fun _ => unspaced_illegal), List.cons_append]

/-! ## Tokens -/

/-- **Bounded lookahead.**  A token that is followed by something is the same after an exchange of
what follows. -/
theorem scan_exchange {c : Char} (h : (scan c (s ++ u)).length = s.length + 1) (hu : u ≠ [])
    (hex : Exchange (scan c (s ++ u)).kind (c :: s) u w) : scan c (s ++ w) = scan c (s ++ u) := by
  cases start c with
  | whitespace _ hscan =>
      rw [hscan] at h hex
      rw [hscan, hscan, ← List.cons_append, run_exchange h (hex.ends fun htrivia => by cases htrivia), List.cons_append]
  | comma _ hscan | atSign _ hscan => rw [hscan, hscan]
  | comment _ hscan =>
      rw [hscan] at h hex
      have hlength : run isCommentChar (c :: s ++ u) = (c :: s).length := h
      rw [hscan, hscan, comment, comment, ← List.cons_append,
        run_exchange hlength (hex.ends fun htrivia => by cases htrivia), List.cons_append]
  | codepoint _ hscan =>
      rw [hscan] at h
      rw [hscan, codepoint_kind] at hex
      rw [hscan, hscan, codepoint_exchange h hu hex]
  | dot _ hscan =>
      rw [hscan] at h hex
      have hends := hex.ends fun _ => unspaced_mark '.' (by decide)
      rw [hscan, hscan, ← List.cons_append, run_exchange h hends, List.cons_append]
  | string hc hscan | charlist hc hscan =>
      rw [hscan] at h hex
      have hends := hex.ends fun _ => unspaced_mark c (by rw [hc]; decide)
      rw [hscan, hscan, quoted_exchange (by decide) h hu hends]
  | atom _ hscan =>
      rw [hscan] at h hex
      rw [hscan, hscan]
      cases hatom : atom? (c :: (s ++ u)) with
      | none =>
          rw [hatom] at h hex
          rw [atom?_exchange_none hatom hu hex, Option.getD_none, Option.getD_none,
            plain_exchange h hex]
      | some e =>
          rw [hatom] at h hex
          rw [atom?_exchange hatom h hu hex]
          rfl
  | plain _ _ _ hscan =>
      rw [hscan] at h hex
      rw [hscan, hscan, plain_exchange h hex]

end ElixirTerms.Extent
