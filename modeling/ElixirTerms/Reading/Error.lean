/-
# Why tokens cannot be read

The causes for which a list of tokens is no program, each with the token it is about, and their
wording.
-/
import ElixirTerms.Token.Basic

namespace ElixirTerms

namespace ParseError

/-- Which token was missing at the end of the input. -/
inductive Missing where
  /-- The token to be looked at. -/
  | next
  /-- The token to be consumed. -/
  | current
  deriving DecidableEq

/-- What should have stood in the place of a token. -/
inductive Expected where
  | expression
  | attributeName
  | delimiter (lexeme : Text)
  | separator (closer : Text)
  | mapEntry
  | endOfExpression
  deriving DecidableEq

end ParseError

/-- Why a list of tokens cannot be read. -/
inductive ParseError where
  /-- The tokens ran out; the last one of them, if there was any. -/
  | unexpectedEnd (missing : ParseError.Missing) (last : Option Token)
  /-- A token that cannot stand where it stands. -/
  | unrecognized (expected : ParseError.Expected) (token : Token)
  /-- Nothing where an element should be, before the token given. -/
  | emptyScan (token : Option Token)
  /-- Brackets, calls and attributes are nested beyond the limit. -/
  | nestingTooDeep
  /-- A token was asked for before the start of the list, or in an empty run. -/
  | outOfRange
  deriving DecidableEq

namespace ParseError

/-- The token that an error is about. -/
def token? : ParseError → Option Token
  | unexpectedEnd _ last => last
  | unrecognized _ t => some t
  | emptyScan t => t
  | nestingTooDeep | outOfRange => none

/-- What was wanted when the tokens ran out. -/
def Missing.message : Missing → Text
  | next => "cannot read next token"
  | current => "cannot read current token"

/-- What the place of a token called for. -/
def Expected.message : Expected → Text
  | expression => "cannot parse expression"
  | attributeName => "expected attribute name"
  | delimiter lexeme => "expected '" ++ lexeme ++ "'"
  | separator closer => "expected ',' or '" ++ closer ++ "'"
  | mapEntry => "expected 'key: value' or 'key => value'"
  | endOfExpression => "unexpected token after expression"

/-- How a message names the token that it is about. -/
def got (t : Token) : Text :=
  " (got " ++ t.kind.name ++ " " ++ t.lexeme.quoted ++ " at " ++ t.position.describe ++ ")"

/-- How a message names the token that the input ends with. -/
def endsAfter (t : Token) : Text :=
  ": input ends after " ++ t.lexeme.quoted ++ " at " ++ t.position.describe

/-- The wording of an error. -/
def message : ParseError → Text
  | unexpectedEnd missing last => missing.message ++ (last.map endsAfter).getD []
  | unrecognized expected t => expected.message ++ got t
  | emptyScan t => "failed to parse multiple tokens" ++ (t.map got).getD []
  | nestingTooDeep => "expression nested too deeply"
  | outOfRange => "list index out of range"

end ParseError

end ElixirTerms
