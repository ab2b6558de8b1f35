/-
# No character is lost

The token stream of a text spells the text: the lexemes join to it, the stream ends with the only
token for the end of the input, and every other token holds at least one character.  A scanner that
is drained from the start of a text hands out this very stream and comes to rest at its end.
-/
import ElixirTerms.Proofs.Start
import ElixirTerms.Scanner.Basic
import ElixirTerms.Token.Lex

namespace ElixirTerms

/-! ## The stream of a text -/

namespace Token

/-- The first token of a text that starts with `c`, at a position. -/
def first (p : Position) (c : Char) (s : Text) : Token :=
  ⟨(Extent.scan c s).kind, (c :: s).take (Extent.scan c s).length, p⟩

/-- What follows the first token of a text that starts with `c`. -/
def afterFirst (c : Char) (s : Text) : Text := (c :: s).drop (Extent.scan c s).length

/-- The first token and what follows it are the text. -/
theorem first_append_afterFirst (p : Position) (c : Char) (s : Text) :
    (first p c s).lexeme ++ afterFirst c s = c :: s :=
  List.take_append_drop _ _

/-- The first token of a text holds at least one character. -/
theorem first_ne_nil (p : Position) (c : Char) (s : Text) : (first p c s).lexeme ≠ [] := by
  have := Extent.scan_pos c s
  simp only [first, ne_eq, List.take_eq_nil_iff, reduceCtorEq, or_false]
  omega

/-- What follows the first token of a text is shorter than the text. -/
theorem length_afterFirst_lt (c : Char) (s : Text) :
    (afterFirst c s).length < (c :: s).length := by
  have := Extent.scan_pos c s
  rw [afterFirst, List.length_drop, List.length_cons]
  omega

/-- What the extent at the head of a text says of the first token and of what follows. -/
theorem first_of_scan {c : Char} {s u : Text} {kind : Kind}
    (h : Extent.scan c (s ++ u) = ⟨kind, s.length + 1⟩) (p : Position) :
    first p c (s ++ u) = ⟨kind, c :: s, p⟩ ∧ afterFirst c (s ++ u) = u := by
  rw [first, afterFirst, h]
  simp

/-- The token is the first one of its lexeme with a text after it. -/
def Heads (t : Token) (u : Text) : Prop :=
  ∃ c s, t.lexeme = c :: s ∧ Extent.scan c (s ++ u) = ⟨t.kind, s.length + 1⟩

/-- The first token of a text stands before what follows it. -/
theorem heads_first (p : Position) (c : Char) (s : Text) :
    Heads (first p c s) (afterFirst c s) := by
  have hpos := Extent.scan_pos c s
  have hle := Extent.scan_le c s
  obtain ⟨n, hn⟩ : ∃ n, (Extent.scan c s).length = n + 1 :=
    ⟨(Extent.scan c s).length - 1, by omega⟩
  simp only [List.length_cons] at hle
  refine ⟨c, s.take n, ?_, ?_⟩
  · rw [first, hn, List.take_succ_cons]
  · rw [afterFirst, hn, List.drop_succ_cons, List.take_append_drop, List.length_take,
      Nat.min_eq_left (by omega), ← hn]
    rfl

/-- At the end of a text stands the token for the end of the input. -/
theorem lexFrom_nil (p : Position) : lexFrom p [] = [⟨.eof, [], p⟩] := by
  rw [lexFrom]

/-- The stream of a text is its first token and the stream of what follows it. -/
theorem lexFrom_cons (p : Position) (c : Char) (s : Text) :
    lexFrom p (c :: s) =
      first p c s :: lexFrom (p.after (first p c s).lexeme) (afterFirst c s) := by
  rw [lexFrom]
  rfl

/-- A stream goes on behind a token that stands before the rest of its text. -/
theorem Heads.lexFrom_eq {t : Token} {u : Text} (h : Heads t u) (p : Position) :
    lexFrom p (t.lexeme ++ u) = ⟨t.kind, t.lexeme, p⟩ :: lexFrom (p.after t.lexeme) u := by
  obtain ⟨c, s, hlexeme, hscan⟩ := h
  obtain ⟨hfirst, hafter⟩ := first_of_scan hscan p
  rw [hlexeme, List.cons_append, lexFrom_cons, hfirst, hafter]

/-- What holds at the end of every text, and passes from what follows the first token of a text to
the text, holds of all texts. -/
theorem first_induction {motive : Position → Text → Prop} (nil : ∀ p, motive p [])
    (cons : ∀ p c s, motive (p.after (first p c s).lexeme) (afterFirst c s) → motive p (c :: s))
    (p : Position) (s : Text) : motive p s :=
  match s with
  | [] => nil p
  | c :: s => cons p c s (first_induction nil cons _ _)
termination_by s.length
decreasing_by exact length_afterFirst_lt c s

/-- From wherever a text starts, its stream is the same up to the places of the tokens. -/
theorem lexFrom_unplaced (p q : Position) (s : Text) :
    (lexFrom p s).map unplaced = (lexFrom q s).map unplaced := by
  -- both positions move with each token, so the induction is for all of the second ones
  induction p, s using first_induction generalizing q with
  | nil p => rw [lexFrom_nil, lexFrom_nil, List.map_cons, List.map_cons, unplaced, unplaced]
  | cons p c s ih =>
      have hfirst : (first p c s).unplaced = (first q c s).unplaced := rfl
      rw [lexFrom_cons, lexFrom_cons, List.map_cons, List.map_cons, hfirst,
        ih (q.after (first q c s).lexeme)]

/-- The lexemes of a stream join to the text. -/
theorem lexemes_lexFrom (p : Position) (s : Text) :
    (lexFrom p s).flatMap Token.lexeme = s := by
  induction p, s using first_induction with
  | nil p => simp [lexFrom_nil]
  | cons p c s ih => rw [lexFrom_cons, List.flatMap_cons, ih, first_append_afterFirst]

/-- A stream ends with the only token for the end of the input, which stands after the text; all
other tokens hold characters. -/
theorem lexFrom_ends (p : Position) (s : Text) :
    ∃ ts, lexFrom p s = ts ++ [⟨.eof, [], p.after s⟩] ∧
      ∀ t ∈ ts, t.kind ≠ .eof ∧ t.lexeme ≠ [] := by
  induction p, s using first_induction with
  | nil p => exact ⟨[], by simp [lexFrom_nil], by simp⟩
  | cons p c s ih =>
      obtain ⟨ts, hts, hall⟩ := ih
      refine ⟨first p c s :: ts, ?_, ?_⟩
      · rw [lexFrom_cons, hts, ← Position.after_append, first_append_afterFirst]
        rfl
      · intro t ht
        rcases List.mem_cons.1 ht with rfl | ht
        · exact ⟨Extent.scan_kind_ne_eof c s, first_ne_nil p c s⟩
        · exact hall t ht

/-- A stream holds at most one token for each character and the end of the input. -/
theorem length_lexFrom_le (p : Position) (s : Text) : (lexFrom p s).length ≤ s.length + 1 := by
  induction p, s using first_induction with
  | nil p => simp [lexFrom_nil]
  | cons p c s ih =>
      have := length_afterFirst_lt c s
      rw [lexFrom_cons, List.length_cons]
      omega

end Token

/-! ## Draining a scanner -/

namespace Scanner

/-- The scanner stands where it says: after `pos` characters of its text comes the unread rest. -/
def Consistent (sc : Scanner) : Prop := sc.text.drop sc.pos = sc.rest

/-- A scanner at the start of a text stands where it says. -/
theorem consistent_ofText (text : Text) : (ofText text).Consistent := rfl

@[simp] theorem advance_text (sc : Scanner) : sc.advance.text = sc.text := by
  unfold advance
  split <;> rfl

@[simp] theorem advance_pos (sc : Scanner) : sc.advance.pos = sc.pos + 1 := by
  unfold advance
  split <;> rfl

@[simp] theorem advance_start (sc : Scanner) : sc.advance.start = sc.start := by
  unfold advance
  split <;> rfl

@[simp] theorem advance_startPosition (sc : Scanner) :
    sc.advance.startPosition = sc.startPosition := by
  unfold advance
  split <;> rfl

@[simp] theorem advanceBy_text (n : Nat) (sc : Scanner) : (advanceBy n sc).text = sc.text := by
  induction n generalizing sc with
  | zero => rfl
  | succ n ih => rw [advanceBy, ih, advance_text]

@[simp] theorem advanceBy_pos (n : Nat) (sc : Scanner) : (advanceBy n sc).pos = sc.pos + n := by
  induction n generalizing sc with
  | zero => rfl
  | succ n ih =>
      rw [advanceBy, ih, advance_pos]
      omega

@[simp] theorem advanceBy_start (n : Nat) (sc : Scanner) : (advanceBy n sc).start = sc.start := by
  induction n generalizing sc with
  | zero => rfl
  | succ n ih => rw [advanceBy, ih, advance_start]

@[simp] theorem advanceBy_startPosition (n : Nat) (sc : Scanner) :
    (advanceBy n sc).startPosition = sc.startPosition := by
  induction n generalizing sc with
  | zero => rfl
  | succ n ih => rw [advanceBy, ih, advance_startPosition]

/-- Passing characters that are there moves the position over them. -/
theorem advanceBy_position (n : Nat) (sc : Scanner) (h : n ≤ sc.rest.length) :
    (advanceBy n sc).position = sc.position.after (sc.rest.take n) := by
  induction n generalizing sc with
  | zero => rfl
  | succ n ih =>
      -- a scanner at the end of its text stays where it is, so the bound is needed
      match hrest : sc.rest with
      | [] => simp [hrest] at h
      | c :: s =>
          have hadvance : sc.advance.rest = s ∧ sc.advance.position = sc.position.next c := by
            simp [advance, hrest]
          rw [advanceBy, ih _ (by simp_all), hadvance.1, hadvance.2]
          rfl

/-- Passing characters keeps a scanner where it says. -/
theorem consistent_advanceBy {sc : Scanner} (h : sc.Consistent) (n : Nat) :
    (advanceBy n sc).Consistent := by
  rw [Consistent, advanceBy_text, advanceBy_pos, advanceBy_rest, ← List.drop_drop, h]

/-- What a scanner hands out while characters are left: the token at the head of the rest. -/
theorem next?_of_rest {sc : Scanner} (h : sc.Consistent) (hopen : sc.finished = false) {c : Char}
    {s : Text} (hrest : sc.rest = c :: s) :
    sc.next? =
      (some (Token.first sc.position c s), advanceBy (Extent.scan c s).length sc.mark) := by
  -- the scanner cuts its token out of the whole text, the stream takes it off the rest
  have hslice : sc.text.slice sc.pos (sc.pos + (Extent.scan c s).length)
      = (Token.first sc.position c s).lexeme := by
    rw [Text.slice, h, hrest, Nat.add_sub_cancel_left]
    rfl
  unfold next?
  rw [if_neg (by simp [hopen])]
  simp only [mark, hrest, read, Scanner.token, advanceBy_text, advanceBy_pos, advanceBy_start,
    advanceBy_startPosition, hslice]
  rfl

/-- What a scanner hands out when no characters are left: the end of the input, once. -/
theorem next?_of_rest_nil {sc : Scanner} (hopen : sc.finished = false) (hrest : sc.rest = []) :
    sc.next? = (some ⟨.eof, [], sc.position⟩, { sc.mark with finished := true }) := by
  unfold next?
  rw [if_neg (by simp [hopen])]
  simp [mark, hrest, Scanner.token, Text.slice]

/-- A scanner that has handed out the end of the input hands out nothing. -/
theorem drain_of_finished {sc : Scanner} (h : sc.finished = true) : sc.drain = ([], sc) := by
  have hnext : sc.next? = (none, sc) := by simp [next?, h]
  rw [drain]
  split <;> simp_all

/-- Draining goes on after a token that was handed out. -/
theorem drain_of_next? {sc after : Scanner} {t : Token} (h : sc.next? = (some t, after)) :
    sc.drain = (t :: after.drain.1, after.drain.2) := by
  rw [drain]
  split <;> simp_all

/-- Draining an open scanner hands out the stream of the rest, and leaves the scanner finished. -/
theorem drain_eq_lexFrom (sc : Scanner) (h : sc.Consistent) (hopen : sc.finished = false) :
    sc.drain.1 = Token.lexFrom sc.position sc.rest ∧ sc.drain.2.finished = true := by
  match hrest : sc.rest with
  | [] =>
      have hnext := next?_of_rest_nil hopen hrest
      rw [drain_of_next? hnext, drain_of_finished rfl, Token.lexFrom_nil]
      exact ⟨rfl, rfl⟩
  | c :: s =>
      -- marking where a token starts leaves the rest and the position alone
      have hnext := next?_of_rest h hopen hrest
      have hmark : sc.mark.rest = c :: s := hrest
      have hle : (Extent.scan c s).length ≤ sc.mark.rest.length := hmark ▸ Extent.scan_le c s
      have hmarked : sc.mark.Consistent := h
      have hshorter := fuel_next?_lt hnext
      have ih := drain_eq_lexFrom (advanceBy (Extent.scan c s).length sc.mark)
        (consistent_advanceBy hmarked _) (by rw [advanceBy_finished]; exact hopen)
      rw [advanceBy_rest, advanceBy_position _ _ hle, hmark] at ih
      rw [drain_of_next? hnext, Token.lexFrom_cons]
      exact ⟨congrArg _ ih.1, ih.2⟩
termination_by sc.fuel

end Scanner

/-! ## The stream of a text spells the text -/

namespace Token

/-- Draining a scanner over any text ends, after at most one token a character and one for the end
of the input, and gives the stream of the text: its lexemes join to the text, its last token is the
end of the input and is empty, and no other token is either. -/
theorem lex_lossless (text : Text) :
    (Scanner.ofText text).drain.1 = lex text ∧
    (Scanner.ofText text).drain.2.finished = true ∧
    (lex text).length ≤ text.length + 1 ∧
    (lex text).flatMap Token.lexeme = text ∧
    ∃ ts last, lex text = ts ++ [last] ∧ last.kind = .eof ∧ last.lexeme = [] ∧
      ∀ t ∈ ts, t.kind ≠ .eof ∧ t.lexeme ≠ [] := by
  have hdrain := Scanner.drain_eq_lexFrom (Scanner.ofText text)
    (Scanner.consistent_ofText text) rfl
  obtain ⟨ts, hts, hall⟩ := lexFrom_ends .start text
  exact ⟨hdrain.1, hdrain.2, length_lexFrom_le .start text, lexemes_lexFrom .start text, ts, _, hts,
    rfl, rfl, hall⟩

end Token

end ElixirTerms
