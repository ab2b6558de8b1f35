/-
# Runs are maximal

Most tokens are runs: behind how they start they hold the characters of one class, and they end only
where the text does or before a character that is not in the class (`Heads.ends`).  Such a character
cannot start a token of the same kind, so the kinds of tokens that may stand next to each other are
limited (`maximal_of_split`).
-/
import ElixirTerms.Proofs.Lookahead

namespace ElixirTerms

namespace Extent

open Token Unicode

/-! ## Where runs end -/

/-- The class of characters over which tokens of a kind run, if they are runs. -/
def runClass? : Kind → Option (Char → Bool)
  | .whitespace => some isBlank
  | .comment => some isCommentChar
  | .dot => some (· = '.')
  | .char => some isCodepointChar
  | .operator => some isOperatorChar
  | .number => some isNumberChar
  | .identifier | .boolean => some isWordChar
  | .illegal => some (!isBlank ·)
  | .comma | .atSign | .delimiter | .string | .charlist | .atom | .eof => none

variable {c : Char} {s u : Text} {kind : Kind} {p : Char → Bool}

/-- Words run over the characters of words, booleans as well as identifiers. -/
theorem runClass?_word (s : Text) : runClass? (word s).kind = some isWordChar := by
  unfold word wordKind
  dsimp only
  split <;> rfl

/-- Every class stops before nothing. -/
theorem ends_nil (p : Char → Bool) : Ends p [] := by
  intro d hd
  cases hd

/-- A quoted literal that is illegal is followed by nothing, and no other is a run. -/
theorem ends_of_quoted {quote : Char} (hkind : runClass? kind = none)
    (h : (quoted quote kind (s ++ u)).length = s.length)
    (hp : runClass? (quoted quote kind (s ++ u)).kind = some p) : Ends p u := by
  rcases quoted_kind quote kind (s ++ u) with hclosed | hillegal
  · rw [hclosed, hkind] at hp
    cases hp
  · have hne : kind ≠ .illegal := by
      rintro rfl
      cases hkind
    have hall := length_le_of_quoted_illegal hne hillegal
    rw [h, List.length_append] at hall
    have hu : u = [] := List.length_eq_zero_iff.1 (by omega)
    rw [hu]
    exact ends_nil p

/-- A codepoint literal ends before no character over which it runs. -/
theorem ends_of_codepoint (h : (codepoint (c :: (s ++ u))).length = s.length + 1) :
    Ends isCodepointChar u := by
  by_cases hescape : ∃ d t, s ++ u = '\\' :: d :: t
  · obtain ⟨d, t, hsplit⟩ := hescape
    rw [hsplit, codepoint_escape] at h
    match s with
    | [] => simp at h
    | [a] => simp at h
    | a :: b :: s =>
        obtain ⟨-, ht⟩ := List.cons.inj hsplit
        obtain ⟨-, rfl⟩ := List.cons.inj ht
        have hlength : run isCodepointChar (s ++ u) + 3 = s.length + 2 + 1 := h
        apply ends_of_run (s := s)
        omega
  · have hplain : ∀ d t, s ++ u ≠ '\\' :: d :: t := fun d t hsplit => hescape ⟨d, t, hsplit⟩
    rw [codepoint_plain c hplain] at h
    exact ends_of_run (Nat.succ.inj h)

/-- A token that starts like no atom ends before no character over which it runs. -/
theorem ends_of_plain (h : (plain c (s ++ u)).length = s.length + 1)
    (hp : runClass? (plain c (s ++ u)).kind = some p) : Ends p u := by
  unfold plain at h hp
  split_ifs at h hp
  · cases hp
  · cases hp
    exact ends_of_run (s := c :: s) h
  · cases hp
    exact ends_of_run (s := c :: s) h
  · rw [runClass?_word] at hp
    cases hp
    exact ends_of_run (s := c :: s) h
  · cases hp
    exact ends_of_run (s := c :: s) h

/-- An atom is no run; an illegal one is followed by nothing. -/
theorem ends_of_atom? {e : Extent} (hatom : atom? (c :: (s ++ u)) = some e)
    (h : e.length = s.length + 1) (hp : runClass? e.kind = some p) : Ends p u := by
  match s with
  | [] =>
      have := two_le_length_of_atom? hatom
      rw [List.length_nil] at h
      omega
  | a :: s =>
      rw [List.cons_append, atom?_cons_cons] at hatom
      split_ifs at hatom
      · cases hatom
        exact ends_of_quoted (s := a :: s) rfl (Nat.succ.inj h) hp
      · cases hatom
        cases hp

/-- **Runs are maximal.**  A token ends before no character over which it runs. -/
theorem ends_of_scan (h : (scan c (s ++ u)).length = s.length + 1)
    (hp : runClass? (scan c (s ++ u)).kind = some p) : Ends p u := by
  cases start c with
  | whitespace _ hscan | comment _ hscan | dot _ hscan =>
      rw [hscan] at h hp
      cases hp
      exact ends_of_run (s := c :: s) h
  | comma _ hscan | atSign _ hscan =>
      rw [hscan] at hp
      cases hp
  | codepoint _ hscan =>
      rw [hscan] at h
      rw [hscan, codepoint_kind] at hp
      cases hp
      exact ends_of_codepoint h
  | string _ hscan | charlist _ hscan =>
      rw [hscan] at h hp
      exact ends_of_quoted (s := c :: s) rfl h hp
  | atom _ hscan =>
      rw [hscan] at h hp
      cases hatom : atom? (c :: (s ++ u)) with
      | none =>
          rw [hatom] at h hp
          exact ends_of_plain h hp
      | some e =>
          rw [hatom] at h hp
          exact ends_of_atom? hatom h hp
  | plain _ _ _ hscan =>
      rw [hscan] at h hp
      exact ends_of_plain h hp

/-! ## Where tokens start -/

/-- The characters with which tokens of a kind start. -/
def mayStart : Kind → Char → Bool
  | .whitespace, c => isBlank c
  | .comment, c => c = '#'
  | .dot, c => c = '.'
  | .char, c => c = '?'
  | .operator, c => isOperatorChar c
  | .number, c => c.isDigit
  | .identifier, c | .boolean, c => isWordChar c
  | .comma, _ | .atSign, _ | .delimiter, _ | .string, _ | .charlist, _ | .atom, _ | .illegal, _
  | .eof, _ => true

/-- A token that starts like no atom starts with a character with which its kind may start. -/
theorem mayStart_plain (c : Char) (s : Text) : mayStart (plain c s).kind c = true := by
  unfold plain
  split_ifs with hdelimiter hoperator hdigit hword
  · rfl
  · exact hoperator
  · exact hdigit
  · unfold word wordKind
    dsimp only
    split <;> exact hword
  · rfl

/-- A token starts with a character with which its kind may start. -/
theorem mayStart_scan (c : Char) (s : Text) : mayStart (scan c s).kind c = true := by
  cases start c with
  | whitespace hblank hscan =>
      rw [hscan]
      exact hblank
  | comma hc hscan | atSign hc hscan | comment hc hscan | dot hc hscan =>
      rw [hscan, hc]
      rfl
  | codepoint hc hscan =>
      rw [hscan, codepoint_kind, hc]
      rfl
  | string _ hscan | charlist _ hscan =>
      rw [hscan]
      rcases quoted_kind c _ (c :: s) with hkind | hkind
      all_goals
        rw [hkind]
        rfl
  | atom _ hscan =>
      rw [hscan]
      cases hatom : atom? (c :: s) with
      | none => exact mayStart_plain c s
      | some e =>
          rcases atom?_kind hatom with hkind | hkind
          all_goals
            rw [Option.getD_some, hkind]
            rfl
  | plain _ _ _ hscan =>
      rw [hscan]
      exact mayStart_plain c s

/-- The kind of the first token of a text. -/
def headKind : Text → Kind
  | [] => .eof
  | c :: s => (scan c s).kind

/-- A text before which a class stops has no first token that may start only with characters of this
class. -/
theorem headKind_ne_of_ends (hends : Ends p u) (heof : kind ≠ .eof)
    (hstart : ∀ d, mayStart kind d = true → p d = true) : headKind u ≠ kind := by
  cases u with
  | nil => exact heof.symm
  | cons d u =>
      rintro rfl
      have hin := hstart d (mayStart_scan d u)
      rw [hends d rfl] at hin
      cases hin

/-- A text before which a class stops that holds all but blanks starts with white space, or it is
empty. -/
theorem headKind_of_ends (hends : Ends p u) (hp : ∀ d, p d = false → isBlank d = true) :
    headKind u = .whitespace ∨ headKind u = .eof := by
  cases u with
  | nil => exact Or.inr rfl
  | cons d u =>
      left
      show (scan d u).kind = .whitespace
      rw [scan, if_pos (hp d (hends d rfl))]

/-! ## Neighbours -/

/-- The kinds whose tokens are runs of a class with which they start. -/
def runKinds : List Kind := [.whitespace, .operator, .dot, .number, .char]

/-- The kinds of words. -/
def nameKinds : List Kind := [.identifier, .boolean]

/-- Tokens of these kinds start with a character over which they run. -/
theorem exists_runClass? (h : kind ∈ runKinds) :
    ∃ p, runClass? kind = some p ∧ ∀ d, mayStart kind d = true → p d = true := by
  simp only [runKinds, List.mem_cons, List.not_mem_nil, or_false] at h
  rcases h with rfl | rfl | rfl | rfl | rfl
  · exact ⟨_, rfl, fun _ => id⟩
  · exact ⟨_, rfl, fun _ => id⟩
  · exact ⟨_, rfl, fun _ => id⟩
  · refine ⟨_, rfl, fun d hd => ?_⟩
    have hdigit : d.isDigit = true := hd
    simp [isNumberChar, Char.isAlphanum, hdigit]
  · refine ⟨_, rfl, fun d hd => ?_⟩
    have hmark : d = '?' := of_decide_eq_true hd
    subst hmark
    decide

/-- Words, numbers and codepoint literals start with characters of words. -/
theorem isWordChar_of_mayStart (h : kind ∈ nameKinds ++ [.number, .char]) (d : Char)
    (hd : mayStart kind d = true) : isWordChar d = true := by
  simp only [nameKinds, List.cons_append, List.nil_append, List.mem_cons, List.not_mem_nil,
    or_false] at h
  rcases h with rfl | rfl | rfl | rfl
  · exact hd
  · exact hd
  · have hdigit : d.isDigit = true := hd
    have halphanumeric : isAlphanumeric d = true :=
      isAlphanumeric_of_isAlphanum (by simp [Char.isAlphanum, hdigit])
    exact isWordChar_of_isAtomChar (by simp [isAtomChar, halphanumeric])
  · have hmark : d = '?' := of_decide_eq_true hd
    subst hmark
    decide

end Extent

namespace Token

open Extent Unicode

variable {t : Token} {before later : List Token} {u text : Text} {p : Char → Bool}

/-- A token ends before no character over which it runs. -/
theorem Heads.ends (h : Heads t u) (hp : runClass? t.kind = some p) : Ends p u := by
  obtain ⟨c, s, -, hscan⟩ := h
  apply ends_of_scan
  · rw [hscan]
  · rw [hscan]
    exact hp

/-- A run is not followed by a token of the same kind. -/
theorem Heads.headKind_ne (h : Heads t u) (hkind : t.kind ∈ runKinds) : headKind u ≠ t.kind := by
  obtain ⟨p, hp, hstart⟩ := exists_runClass? hkind
  apply headKind_ne_of_ends (h.ends hp)
  · intro heof
    rw [heof] at hkind
    exact absurd hkind (by decide)
  · exact hstart

/-- A word is not followed by a word, a number or a codepoint literal. -/
theorem Heads.headKind_not_mem (h : Heads t u) (hkind : t.kind ∈ nameKinds) :
    headKind u ∉ nameKinds ++ [.number, .char] := by
  have hp : runClass? t.kind = some isWordChar := by
    have hwords : ∀ k ∈ nameKinds, runClass? k = some isWordChar := by
      simp [nameKinds, runClass?]
    exact hwords t.kind hkind
  intro hmem
  refine headKind_ne_of_ends (h.ends hp) ?_ (isWordChar_of_mayStart hmem) rfl
  intro heof
  rw [heof] at hmem
  exact absurd hmem (by decide)

/-- A comment, and what is illegal, is followed by white space or by nothing. -/
theorem Heads.headKind_eq (h : Heads t u) (hkind : t.kind = .comment ∨ t.kind = .illegal) :
    headKind u = .whitespace ∨ headKind u = .eof := by
  rcases hkind with hkind | hkind
  · have hends : Ends isCommentChar u := h.ends (by rw [hkind]; rfl)
    exact headKind_of_ends hends fun _ => isBlank_of_not_isCommentChar
  · have hends : Ends (!isBlank ·) u := h.ends (by rw [hkind]; rfl)
    apply headKind_of_ends hends
    intro d hd
    simpa using hd

/-- The first token of a stream has the kind that the text calls for. -/
theorem exists_lexFrom (q : Position) (s : Text) :
    ∃ t us, lexFrom q s = t :: us ∧ t.kind = headKind s := by
  cases s with
  | nil => exact ⟨_, _, lexFrom_nil q, rfl⟩
  | cons c s => exact ⟨_, _, lexFrom_cons q c s, rfl⟩

/-- **Runs are maximal.**  No character right behind a token of a text is one over which the token
runs.  So no run, and no word, is directly followed by another of its kind, and no word by a number
or a codepoint literal either; and every comment, and everything illegal, is directly followed by
white space or by the end of the input. -/
theorem maximal_of_split (h : lex text = before ++ t :: later) :
    (∀ p ∈ runClass? t.kind, ∀ d ∈ (later.flatMap lexeme).head?, p d = false) ∧
    (∀ next ∈ later.head?,
      (t.kind ∈ [.whitespace, .operator, .dot, .number, .char] → next.kind ≠ t.kind) ∧
      (t.kind ∈ [.identifier, .boolean] →
        next.kind ∉ [.identifier, .boolean, .number, .char])) ∧
    (t.kind = .comment ∨ t.kind = .illegal →
      ∃ next ∈ later.head?, next.kind = .whitespace ∨ next.kind = .eof) := by
  obtain ⟨s, -, -, hs⟩ := lexFrom_split h (List.cons_ne_nil t later)
  by_cases hlater : later = []
  · -- only the end of the input is followed by nothing
    have heof : t.kind = .eof := by
      by_contra hne
      exact (rest_ne_nil_iff hs.symm).2 hne hlater
    subst hlater
    rw [heof]
    refine ⟨nofun, nofun, ?_⟩
    rintro (hkind | hkind) <;> cases hkind
  · obtain ⟨u, -, hheads, -, hu⟩ := heads_of_lexFrom hs.symm hlater
    obtain ⟨next, us, hnext, hkind⟩ := exists_lexFrom (Position.after _ t.lexeme) u
    rw [hnext] at hu
    subst hu
    have hrest : (next :: us).flatMap lexeme = u := by
      rw [← hnext, lexemes_lexFrom]
    refine ⟨?_, ?_, ?_⟩
    · rw [hrest]
      exact fun p hp => hheads.ends hp
    · intro first hfirst
      cases hfirst
      rw [hkind]
      exact ⟨hheads.headKind_ne, hheads.headKind_not_mem⟩
    · intro hends
      exact ⟨next, rfl, hkind ▸ hheads.headKind_eq hends⟩

/-- A circled capital starts no alias before a question mark, so it starts a word, which holds the
mark and the digit behind it; and what is illegal takes the quote and ends with the text. -/
theorem maximal_of_split_circled :
    ∃ word other last, lex "Ⓐ?1;x'" = [] ++ word :: other :: last ∧
      word.kind ∈ [.identifier, .boolean] ∧
      other.kind ∉ [.identifier, .boolean, .number, .char] ∧
      lex "Ⓐ?1;x'" = [word] ++ other :: last ∧ other.kind = .illegal ∧
      ∃ next ∈ last.head?, next.kind = .whitespace ∨ next.kind = .eof := by
  have hword : lex "Ⓐ?1;x'" = [] ++ ⟨.identifier, "Ⓐ?1", ⟨1, 1⟩⟩ ::
      ⟨.illegal, ";x'", ⟨1, 4⟩⟩ :: [⟨.eof, [], ⟨1, 7⟩⟩] := by decide +kernel
  have hother : lex "Ⓐ?1;x'" = [⟨.identifier, "Ⓐ?1", ⟨1, 1⟩⟩] ++
      ⟨.illegal, ";x'", ⟨1, 4⟩⟩ :: [⟨.eof, [], ⟨1, 7⟩⟩] := hword
  refine ⟨_, _, _, hword, by decide, ?_, hother, rfl, ?_⟩
  · exact ((maximal_of_split hword).2.1 _ rfl).2 (by decide)
  · exact (maximal_of_split hother).2.2 (Or.inr rfl)

end Token

end ElixirTerms
