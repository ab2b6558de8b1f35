/-
# The gist of a text

The gist of a text is what the grammar sees of it: the significant tokens, taken from their places.
Texts with the same gist are the same program (`parse_gist`).  The gist is found token by token from
the left, and a token that may stand at the head of a text is found wherever it stops
(`gist_append`).
-/
import ElixirTerms.Proofs.Boundary.Cut
import ElixirTerms.Proofs.Lossless
import ElixirTerms.Proofs.Unplaced

namespace ElixirTerms

namespace Token

open Extent Unicode

/-! ## First tokens -/

/-- Tokens are significant by their kinds. -/
theorem isSignificant_iff (t : Token) :
    t.isSignificant = true ↔ t.kind ∉ [Kind.whitespace, Kind.comment, Kind.eof] := by
  unfold isSignificant
  cases t.kind <;> simp [Kind.isTrivia]

/-- No character but a blank and the hash starts a token without significance. -/
theorem scan_kind_of_not_blank {c : Char} (hblank : isBlank c = false) (hhash : c ≠ '#')
    (s : Text) : (scan c s).kind ∉ [Kind.whitespace, Kind.comment, Kind.eof] := by
  have hatoms : ∀ kind ∈ Kind.atom :: plainKinds,
      kind ∉ [Kind.whitespace, Kind.comment, Kind.eof] := by decide
  cases start c with
  | whitespace h =>
      rw [h] at hblank
      cases hblank
  | comment h => exact absurd h hhash
  | comma _ hscan | atSign _ hscan | dot _ hscan =>
      rw [hscan]
      simp
  | codepoint _ hscan =>
      rw [hscan, codepoint_kind]
      decide
  | string _ hscan | charlist _ hscan =>
      rw [hscan]
      rcases quoted_kind c _ (c :: s) with hkind | hkind <;> rw [hkind] <;> decide
  | atom _ hscan =>
      rw [hscan]
      exact hatoms _ (atom?_getD_kind c s)
  | plain _ _ _ hscan =>
      rw [hscan]
      exact hatoms _ (List.mem_cons_of_mem _ (plain_kind c s))

/-- The first token of a text is significant, unless the text starts with a blank or a comment. -/
theorem isSignificant_first (p : Position) (c : Char) (s : Text) :
    (first p c s).isSignificant = true ↔ isBlank c = false ∧ c ≠ '#' := by
  rw [isSignificant_iff, first]
  constructor
  · intro h
    constructor
    · cases hblank : isBlank c with
      | false => rfl
      | true =>
          have hkind : (scan c s).kind = .whitespace := by rw [scan, if_pos hblank]
          exact absurd (by simp [hkind]) h
    · rintro rfl
      have hkind : (scan '#' s).kind = .comment := rfl
      exact absurd (by simp [hkind]) h
  · rintro ⟨hblank, hhash⟩
    exact scan_kind_of_not_blank hblank hhash s

/-- A token that a text may start with. -/
def Lexed (t : Token) : Prop :=
  ∃ c s u, t.lexeme = c :: s ∧ scan c (s ++ u) = ⟨t.kind, s.length + 1⟩

/-- The first token of a text is one that a text may start with. -/
theorem lexed_first (p : Position) (c : Char) (s : Text) : Lexed (first p c s) := by
  obtain ⟨d, s', hlexeme, hscan⟩ := heads_first p c s
  exact ⟨d, s', afterFirst c s, hlexeme, hscan⟩

/-- The first token of a text starts with its first character. -/
theorem head?_first (p : Position) (c : Char) (s : Text) :
    (first p c s).lexeme.head? = some c := by
  have hpos := scan_pos c s
  rw [first, List.head?_take, if_neg (by omega), List.head?_cons]

/-- What follows a text that leaves its first token as it is comes after the rest of the text. -/
theorem first_append {c : Char} {s u : Text} (h : scan c (s ++ u) = scan c s) (p : Position) :
    first p c (s ++ u) = first p c s ∧ afterFirst c (s ++ u) = afterFirst c s ++ u := by
  have hle := scan_le c s
  rw [first, first, afterFirst, afterFirst, h, ← List.cons_append,
    List.take_append_of_le_length hle, List.drop_append_of_le_length hle]
  exact ⟨rfl, rfl⟩

/-! ## Significant tokens -/

/-- The significant tokens of a text whose first character stands at a position. -/
def significantFrom (p : Position) (s : Text) : List Token := Program.significant (lexFrom p s)

/-- Nothing has no significant tokens. -/
theorem significantFrom_nil (p : Position) : significantFrom p [] = [] := by
  rw [significantFrom, lexFrom_nil]
  rfl

/-- The significant tokens of a text start with its first token, if that is one of them. -/
theorem significantFrom_cons (p : Position) (c : Char) (s : Text) :
    significantFrom p (c :: s) =
      if (first p c s).isSignificant then
        first p c s :: significantFrom (p.after (first p c s).lexeme) (afterFirst c s)
      else significantFrom (p.after (first p c s).lexeme) (afterFirst c s) := by
  rw [significantFrom, lexFrom_cons, Program.significant, List.filter_cons]
  rfl

/-- The significant tokens of a text come after its first blanks. -/
theorem significantFrom_blanks (p : Position) (s : Text) :
    significantFrom p s =
      significantFrom (p.after (s.takeWhile isBlank)) (s.dropWhile isBlank) := by
  cases s with
  | nil => rfl
  | cons c s =>
      cases hc : isBlank c with
      | false =>
          rw [List.takeWhile_cons_of_neg (by simp [hc]), List.dropWhile_cons_of_neg (by simp [hc])]
          rfl
      | true =>
          -- one token of white space takes all the blanks
          have hscan : scan c (s.takeWhile isBlank ++ s.dropWhile isBlank) =
              ⟨.whitespace, (s.takeWhile isBlank).length + 1⟩ := by
            rw [List.takeWhile_append_dropWhile, scan, if_pos hc, run,
              List.takeWhile_cons_of_pos hc, List.length_cons]
          have hnot : ¬ (first p c s).isSignificant = true := by
            rw [isSignificant_first, hc]
            simp
          obtain ⟨hfirst, hafter⟩ := first_of_scan hscan p
          rw [List.takeWhile_append_dropWhile] at hfirst hafter
          rw [significantFrom_cons, if_neg hnot, hfirst, hafter, List.takeWhile_cons_of_pos hc,
            List.dropWhile_cons_of_pos hc]

/-- The significant tokens of a text come after a blank at its head. -/
theorem significantFrom_of_blank {c : Char} (h : isBlank c = true) (p : Position) (s : Text) :
    significantFrom p (c :: s) = significantFrom (p.next c) s := by
  rw [significantFrom_blanks, significantFrom_blanks (p.next c), List.takeWhile_cons_of_pos h,
    List.dropWhile_cons_of_pos h]
  rfl

/-! ## Gists -/

/-- What the grammar sees of a text: its significant tokens, taken from their places. -/
def gist (s : Text) : List Token := (significantFrom .start s).map unplaced

/-- The gist is the same wherever a text starts. -/
theorem significantFrom_unplaced (p : Position) (s : Text) :
    (significantFrom p s).map unplaced = gist s := by
  rw [gist, significantFrom, significantFrom, ← Program.significant_unplaced,
    ← Program.significant_unplaced, lexFrom_unplaced p .start]

/-- Nothing has no gist. -/
theorem gist_nil : gist [] = [] := by
  rw [gist, significantFrom_nil]
  rfl

/-- The gist of a text starts with its first token, if that is significant. -/
theorem gist_cons (c : Char) (s : Text) :
    gist (c :: s) =
      if (first .nowhere c s).isSignificant then first .nowhere c s :: gist (afterFirst c s)
      else gist (afterFirst c s) := by
  rw [← significantFrom_unplaced .nowhere (c :: s), significantFrom_cons]
  split_ifs
  · exact congrArg _ (significantFrom_unplaced _ _)
  · exact significantFrom_unplaced _ _

/-- What the extent at the head of a text says of the gist. -/
theorem gist_of_scan {c : Char} {s u : Text} {kind : Kind}
    (h : scan c (s ++ u) = ⟨kind, s.length + 1⟩) (hblank : isBlank c = false) (hhash : c ≠ '#') :
    gist (c :: (s ++ u)) = ⟨kind, c :: s, .nowhere⟩ :: gist u := by
  obtain ⟨hfirst, hafter⟩ := first_of_scan h .nowhere
  rw [gist_cons, if_pos ((isSignificant_first _ _ _).2 ⟨hblank, hhash⟩), hfirst, hafter]

/-- A blank at the head of a text does not change its gist. -/
theorem gist_of_blank {c : Char} (h : isBlank c = true) (s : Text) : gist (c :: s) = gist s := by
  rw [gist, significantFrom_of_blank h, significantFrom_unplaced]

/-- A gist holds only significant tokens that a text may start with. -/
theorem lexed_of_mem_gist {s : Text} {t : Token} (h : t ∈ gist s) :
    Lexed t ∧ t.isSignificant = true := by
  -- the gist has no position, but the induction over tokens needs one
  have hall (p : Position) : ∀ t ∈ gist s, Lexed t ∧ t.isSignificant = true := by
    clear h
    induction p, s using first_induction with
    | nil => simp [gist_nil]
    | cons p c s ih =>
        intro t ht
        rw [gist_cons] at ht
        split_ifs at ht with hsignificant
        · rcases List.mem_cons.1 ht with rfl | ht
          · exact ⟨lexed_first .nowhere c s, hsignificant⟩
          · exact ih t ht
        · exact ih t ht
  exact hall .start t h

/-- A gist is all significant. -/
theorem significant_gist (s : Text) : Program.significant (gist s) = gist s :=
  List.filter_eq_self.2 fun _ h => (lexed_of_mem_gist h).2

/-- A text parses to the same program as its gist. -/
theorem parse_gist (s : Text) :
    Program.parse (gist s) = unplacedBy (List.map Node.unplaced) (Program.parseText s) := by
  rw [Program.parseText, ← Program.parse_unplaced]
  simp only [Program.parse, Program.significant_unplaced, significant_gist]
  rfl

/-! ## Tokens that are found again -/

/-- A significant token starts with no blank and no comment. -/
theorem not_isBlank_of_isSignificant {t : Token} (hsignificant : t.isSignificant = true) {c : Char}
    {s u : Text} (h : scan c (s ++ u) = ⟨t.kind, s.length + 1⟩) : isBlank c = false ∧ c ≠ '#' := by
  have hfirst := (first_of_scan h t.position).1
  rw [← isSignificant_first t.position c (s ++ u), hfirst]
  exact hsignificant

/-- A token at the head of a text is found where it stops, unless it is an alias with a dot at its
end. -/
theorem gist_append {t : Token} (ht : Lexed t) (hsignificant : t.isSignificant = true)
    (hsettled : Settled t.kind) (hdotted : ¬ Dotted t.kind t.lexeme) {u : Text}
    (hstops : Stops t.kind u) : gist (t.lexeme ++ u) = t.unplaced :: gist u := by
  -- the token is cut out of the text it came from, and then put before the new one
  obtain ⟨c, s, w, hlexeme, hscan⟩ := ht
  have halone : scan c s = ⟨t.kind, s.length + 1⟩ := by
    rw [← hscan]
    rw [hlexeme] at hdotted
    exact scan_of_append (by rw [hscan]) (by rwa [hscan]) (by rwa [hscan])
  have hthere : scan c (s ++ u) = ⟨t.kind, s.length + 1⟩ := by
    rw [← halone]
    exact scan_append (by rwa [halone])
  obtain ⟨hblank, hhash⟩ := not_isBlank_of_isSignificant hsignificant hscan
  rw [hlexeme, List.cons_append, gist_of_scan hthere hblank hhash, unplaced, hlexeme]

/-- A token that is found where atoms stop is no alias with a dot at its end. -/
theorem not_dotted_of_gist {t : Token} (ht : Lexed t) (hsignificant : t.isSignificant = true)
    {u : Text} (hstops : Stops .atom u) {ts : List Token}
    (h : gist (t.lexeme ++ u) = t.unplaced :: ts) : ¬ Dotted t.kind t.lexeme := by
  obtain ⟨c, s, w, hlexeme, hscan⟩ := ht
  have hstart := not_isBlank_of_isSignificant hsignificant hscan
  rw [hlexeme, List.cons_append, gist_cons,
    if_pos ((isSignificant_first .nowhere c (s ++ u)).2 hstart)] at h
  have hfirst : first .nowhere c (s ++ u) = t.unplaced := (List.cons.inj h).1
  have hkind : (scan c (s ++ u)).kind = t.kind := congrArg Token.kind hfirst
  have hlength : (scan c (s ++ u)).length = s.length + 1 := by
    have hspelled := congrArg (fun t => t.lexeme.length) hfirst
    have hle := scan_le c (s ++ u)
    simp only [first, unplaced, hlexeme, List.length_take, List.length_cons] at hspelled hle
    omega
  rw [← hkind, hlexeme]
  exact not_dotted_of_stops hlength hstops

end Token

end ElixirTerms
