/-
# Cursors

A cursor stands between two tokens of a list.  Any reader can be run from where it stands, and the
cursor moves to the tokens that the reader leaves.
-/
import ElixirTerms.Program
import ElixirTerms.SignedIndex

namespace ElixirTerms

/-- A list of tokens and the number of them that have been consumed. -/
structure Cursor where
  tokens : List Token
  pos : Nat

namespace Cursor

/-- The cursor before the first significant token. -/
def ofTokens (ts : List Token) : Cursor := ⟨Program.significant ts, 0⟩

/-- All tokens have been consumed. -/
def isDone (cursor : Cursor) : Bool := cursor.tokens.length ≤ cursor.pos

/-- The last token of the list. -/
def last? (cursor : Cursor) : Option Token := cursor.tokens.getLast?

/-- The tokens that have not been consumed. -/
def rest (cursor : Cursor) : List Token := cursor.tokens.drop cursor.pos

/-- The cursor before the tokens that are left. -/
def moveTo (cursor : Cursor) (rest : List Token) : Cursor :=
  { cursor with pos := cursor.tokens.length - rest.length }

/-- Run a reader from here. -/
def run {α : Type} (cursor : Cursor) (read : Reader α) : Except ParseError α × Cursor :=
  let reading := read cursor.last? cursor.rest
  (reading.outcome, cursor.moveTo reading.rest)

/-- The token a number of places ahead, or behind; there has to be one. -/
def peek (cursor : Cursor) (offset : Int) : Except ParseError Token :=
  match Cell.ofIndex cursor.tokens (cursor.pos + offset) with
  | .item t => .ok t
  | .beyond => .error (.unexpectedEnd .next cursor.last?)
  | .outOfRange => .error .outOfRange

/-- The token a number of places ahead, or behind, if the list is long enough. -/
def peek? (cursor : Cursor) (offset : Int) : Except ParseError (Option Token) :=
  match Cell.ofIndex cursor.tokens (cursor.pos + offset) with
  | .item t => .ok (some t)
  | .beyond => .ok none
  | .outOfRange => .error .outOfRange

/-- The next expression, if any token is left. -/
def next? (cursor : Cursor) : Except ParseError (Option Node) × Cursor :=
  if cursor.isDone then (.ok none, cursor)
  else (cursor.run Expression.top).map (·.map some) id

/-- The expressions and the errors that are left. -/
def results (cursor : Cursor) : List (Except ParseError Node) × Cursor :=
  (Program.results cursor.last? cursor.rest, cursor.moveTo [])

end Cursor

end ElixirTerms
