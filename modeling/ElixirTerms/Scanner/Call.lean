/-
# Calls of a scanner

Every step of a scanner as a value, with what it answers, so that any sequence of steps can be
run from any place.
-/
import ElixirTerms.Scanner.Basic

namespace ElixirTerms.Scanner

/-- A step that a scanner can be asked to take. -/
inductive Call where
  /-- The next token; there has to be one. -/
  | next
  /-- The next token, if there is one. -/
  | poll
  | drain
  | advance
  | isDone
  | mark
  | peek (offset : Int)
  | token (kind : Token.Kind)
  | consumeWhile (p : Char → Bool)
  | comment
  | codepoint
  /-- A quoted literal; a quote of any other length than one closes nothing. -/
  | quoted (quote : Text) (kind : Token.Kind)
  /-- A literal between tripled quotes, of which the same holds. -/
  | heredoc (quote : Text) (kind : Token.Kind)
  | atom
  | word

/-- What a step answers. -/
inductive Answer where
  | nothing
  | flag (b : Bool)
  | char (c : Char)
  | token (t : Token)
  | tokens (ts : List Token)
  /-- A token was asked for after the last one. -/
  | exhausted
  /-- A character was asked for that lies before the start of the text. -/
  | outOfRange

namespace Answer

/-- The answer to a question for a token that may not be there. -/
def ofToken? : Option Token → Answer
  | some t => .token t
  | none => .nothing

/-- The answer to a look at a place in the text. -/
def ofCell : Cell Char → Answer
  | .item c => .char c
  | .beyond => .nothing
  | .outOfRange => .outOfRange

/-- The tokens that an answer holds. -/
def toTokens : Answer → List Token
  | .token t => [t]
  | .tokens ts => ts
  | _ => []

end Answer

/-- Take one step. -/
def perform (sc : Scanner) : Call → Answer × Scanner
  | .next =>
    match sc.next? with
    | (some t, after) => (.token t, after)
    | (none, after) => (.exhausted, after)
  | .poll => sc.next?.map Answer.ofToken? id
  | .drain => sc.drain.map .tokens id
  | .advance => (.nothing, sc.advance)
  | .isDone => (.flag sc.isDone, sc)
  | .mark => (.nothing, sc.mark)
  | .peek offset => (.ofCell (sc.peek offset), sc)
  | .token kind => (.token (sc.token kind), sc)
  | .consumeWhile p => (.nothing, sc.consumeWhile p)
  | .comment => sc.comment.map .token id
  | .codepoint => sc.codepoint.map .token id
  | .quoted [quote] kind => (sc.quoted quote kind).map .token id
  | .quoted _ _ => (sc.read (Extent.unclosed 1 sc.rest)).map .token id
  | .heredoc [quote] kind => (sc.heredoc quote kind).map .token id
  | .heredoc _ _ => (sc.read (Extent.unclosed 3 sc.rest)).map .token id
  | .atom => sc.atom?.map Answer.ofToken? id
  | .word => sc.word.map .token id

/-- Take steps in order: each step's answer with the scanner after it. -/
def run (sc : Scanner) : List Call → List (Answer × Scanner)
  | [] => []
  | call :: calls =>
    let step := sc.perform call
    step :: step.2.run calls

end ElixirTerms.Scanner
