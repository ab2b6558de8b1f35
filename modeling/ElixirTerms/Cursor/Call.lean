/-
# Calls of a cursor

Everything that can be asked of a cursor as a value, with what it answers, so that any sequence of
requests can be made from any place.
-/
import ElixirTerms.Cursor.Basic

namespace ElixirTerms.Cursor

/-- A request to a cursor. -/
inductive Call where
  /-- The next expression, if any token is left. -/
  | next
  /-- All expressions that are left. -/
  | expressions
  /-- All expressions and errors that are left. -/
  | results
  | expression
  | moduleAttribute
  | identified
  | call
  | delimited
  | hashMap
  | peek (offset : Int)
  | peekOptional (offset : Int)
  | advance
  | isDone
  | last
  | delimiter (lexeme : Text)
  | takeWhile (p : Token → Bool)
  | segment
  | row (closer : Text)
  /-- The expression that a run of tokens is, without regard to the cursor. -/
  | element (run : List Token)
  /-- The entry of a map that a run of tokens is, without regard to the cursor. -/
  | mapEntry (run : List Token)
  | tokens

/-- What a request is answered with. -/
inductive Answer where
  | nothing
  | flag (b : Bool)
  | token (t : Token)
  | tokens (ts : List Token)
  | segments (segments : List (List Token))
  | node (n : Node)
  | nodes (ns : List Node)
  | entry (key value : Node)
  | results (rs : List (Except ParseError Node))

namespace Answer

/-- The answer to a question for a token that may not be there. -/
def ofToken? : Option Token → Answer
  | some t => .token t
  | none => .nothing

/-- The answer to a question for an expression that may not be there. -/
def ofNode? : Option Node → Answer
  | some n => .node n
  | none => .nothing

end Answer

/-- Read a run of tokens as one expression; trivia among them mean nothing. -/
def element (run : List Token) : Except ParseError Node :=
  Expression.topElement (Program.significant run)

/-- Make a request. -/
def perform (cursor : Cursor) : Call → Except ParseError Answer × Cursor
  | .next => cursor.next?.map (·.map .ofNode?) id
  | .expressions => (cursor.run Program.expressions).map (·.map .nodes) id
  | .results => cursor.results.map (fun rs => .ok (.results rs)) id
  | .expression => (cursor.run Expression.top).map (·.map .node) id
  | .moduleAttribute =>
    (cursor.run (Expression.moduleAttribute Expression.topValue)).map (·.map .node) id
  | .identified => (cursor.run (Expression.identified Expression.topElement)).map (·.map .node) id
  | .call => (cursor.run (Expression.call Expression.topElement)).map (·.map .node) id
  | .delimited => (cursor.run (Expression.delimited Expression.topElement)).map (·.map .node) id
  | .hashMap => (cursor.run (Expression.hashMap Expression.topElement)).map (·.map .node) id
  | .peek offset => ((cursor.peek offset).map .token, cursor)
  | .peekOptional offset => ((cursor.peek? offset).map .ofToken?, cursor)
  | .advance => (cursor.run Reader.next).map (·.map .token) id
  | .isDone => (.ok (.flag cursor.isDone), cursor)
  | .last => (.ok (.ofToken? cursor.last?), cursor)
  | .delimiter lexeme => (cursor.run (Reader.delimiter lexeme)).map (·.map .token) id
  | .takeWhile p => (cursor.run (Reader.takeWhile p)).map (·.map .tokens) id
  | .segment => (cursor.run Segment.segment).map (·.map .tokens) id
  | .row closer => (cursor.run (Segment.row closer)).map (·.map .segments) id
  | .element run => ((element run).map .node, cursor)
  | .mapEntry run =>
    ((Expression.mapEntry element run).map fun (key, value) => .entry key value, cursor)
  | .tokens => (.ok (.tokens cursor.tokens), cursor)

/-- Make requests in order: each request's answer with the cursor after it. -/
def runCalls (cursor : Cursor) : List Call → List (Except ParseError Answer × Cursor)
  | [] => []
  | request :: requests =>
    let step := cursor.perform request
    step :: step.2.runCalls requests

end ElixirTerms.Cursor
