/-
# Scanners

A scanner walks over a text and hands out its tokens one at a time.  It keeps the unread text, the
place it has reached, and the place where the token being read was marked to start.  Every step is
available on its own and may be taken at any place, also beyond the end of the text, where the
place goes on counting and nothing is left to read.
-/
import ElixirTerms.SignedIndex
import ElixirTerms.Token.Extent.Bounds

namespace ElixirTerms

/-- A place in a text from which tokens are read. -/
structure Scanner where
  text : Text
  /-- The text that has not been read. -/
  rest : Text
  /-- The number of characters passed. -/
  pos : Nat
  position : Position
  /-- The place where the token being read starts. -/
  start : Nat
  startPosition : Position
  /-- The end of the input has been handed out. -/
  finished : Bool

namespace Scanner

/-- The scanner at the start of a text. -/
def ofText (text : Text) : Scanner := ⟨text, text, 0, .start, 0, .start, false⟩

/-- The next unread character. -/
def current? (sc : Scanner) : Option Char := sc.rest.head?

/-- All of the text has been passed. -/
def isDone (sc : Scanner) : Bool := sc.text.length ≤ sc.pos

/-! ## Moving -/

/-- Pass one character; beyond the end of the text, one column. -/
def advance (sc : Scanner) : Scanner :=
  match sc.rest with
  | c :: s => { sc with rest := s, pos := sc.pos + 1, position := sc.position.next c }
  | [] =>
    { sc with
      pos := sc.pos + 1
      position := ⟨sc.position.line, sc.position.column + 1⟩ }

/-- Pass a number of characters. -/
def advanceBy : Nat → Scanner → Scanner
  | 0, sc => sc
  | n + 1, sc => advanceBy n sc.advance

/-- Pass the run of characters of a class. -/
def consumeWhile (p : Char → Bool) (sc : Scanner) : Scanner := advanceBy (Extent.run p sc.rest) sc

/-- Let the token being read start here. -/
def mark (sc : Scanner) : Scanner := { sc with start := sc.pos, startPosition := sc.position }

/-- The character a number of places ahead of this one, or behind it. -/
def peek (offset : Int) (sc : Scanner) : Cell Char := Cell.ofIndex sc.text (sc.pos + offset)

/-! ## Reading tokens -/

/-- The text from the mark up to here, as a token. -/
def token (kind : Token.Kind) (sc : Scanner) : Token :=
  ⟨kind, sc.text.slice sc.start sc.pos, sc.startPosition⟩

/-- Pass an extent and make a token that ends there. -/
def read (e : Extent) (sc : Scanner) : Token × Scanner :=
  let passed := advanceBy e.length sc
  (passed.token e.kind, passed)

/-- Read a comment. -/
def comment (sc : Scanner) : Token × Scanner := sc.read (Extent.comment sc.rest)

/-- Read a codepoint literal. -/
def codepoint (sc : Scanner) : Token × Scanner := sc.read (Extent.codepoint sc.rest)

/-- Read a quoted literal. -/
def quoted (quote : Char) (kind : Token.Kind) (sc : Scanner) : Token × Scanner :=
  sc.read (Extent.quoted quote kind sc.rest)

/-- Read a literal between tripled quotes. -/
def heredoc (quote : Char) (kind : Token.Kind) (sc : Scanner) : Token × Scanner :=
  sc.read (Extent.heredoc quote kind sc.rest)

/-- Read an atom, or stay if none starts here. -/
def atom? (sc : Scanner) : Option Token × Scanner :=
  match Extent.atom? sc.rest with
  | some e =>
    let (t, passed) := sc.read e
    (some t, passed)
  | none => (none, sc)

/-- Read a word; it is a boolean if the text from the mark on is one. -/
def word (sc : Scanner) : Token × Scanner :=
  let passed := sc.consumeWhile Token.isWordChar
  (passed.token (Token.wordKind (passed.token .identifier).lexeme), passed)

/-- The next token: after the last one of the text the end of the input, and then nothing. -/
def next? (sc : Scanner) : Option Token × Scanner :=
  if sc.finished then (none, sc)
  else
    let marked := sc.mark
    match marked.rest with
    | [] =>
      let ended := { marked with finished := true }
      (some (ended.token .eof), ended)
    | c :: s =>
      let (t, passed) := marked.read (Extent.scan c s)
      (some t, passed)

/-! ## Draining -/

/-- How many more tokens there can be. -/
def fuel (sc : Scanner) : Nat := if sc.finished then 0 else sc.rest.length + 1

@[simp] theorem advance_finished (sc : Scanner) : sc.advance.finished = sc.finished := by
  unfold advance; split <;> rfl

theorem advance_rest (sc : Scanner) : sc.advance.rest = sc.rest.drop 1 := by
  unfold advance; split <;> simp [*]

@[simp] theorem advanceBy_finished (n : Nat) (sc : Scanner) :
    (advanceBy n sc).finished = sc.finished := by
  induction n generalizing sc with
  | zero => rfl
  | succ n ih => rw [advanceBy, ih, advance_finished]

theorem advanceBy_rest (n : Nat) (sc : Scanner) : (advanceBy n sc).rest = sc.rest.drop n := by
  induction n generalizing sc with
  | zero => rfl
  | succ n ih => rw [advanceBy, ih, advance_rest, List.drop_drop, Nat.add_comm]

/-- Handing out a token leaves fewer to hand out. -/
theorem fuel_next?_lt {sc after : Scanner} {t : Token} (h : sc.next? = (some t, after)) :
    after.fuel < sc.fuel := by
  unfold next? at h
  split at h
  · cases h
  · rename_i hopen
    simp only at h
    split at h
    · cases h
      simp [fuel, hopen]
    · rename_i c s hrest
      cases h
      have := Extent.scan_pos c s
      have hrest' : sc.rest = c :: s := hrest
      simp only [read, fuel, advanceBy_finished, advanceBy_rest, mark, hrest', hopen,
        List.length_drop, List.length_cons, if_false, Bool.false_eq_true]
      omega

/-- All the tokens that are left. -/
def drain (sc : Scanner) : List Token × Scanner :=
  match _h : sc.next? with
  | (none, after) => ([], after)
  | (some t, after) =>
    let (ts, last) := after.drain
    (t :: ts, last)
termination_by sc.fuel
decreasing_by exact fuel_next?_lt ‹_›

end Scanner

end ElixirTerms
