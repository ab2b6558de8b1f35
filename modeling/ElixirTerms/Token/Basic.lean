/-
# Tokens

A token is a stretch of source text with its kind and the position of its first character.
Lexemes are never changed, so the lexemes of a full token stream join to the text.
-/
import ElixirTerms.Position
import ElixirTerms.Text.Quoted

namespace ElixirTerms

namespace Token

/-- The kinds of tokens. -/
inductive Kind where
  | atSign
  | comma
  | dot
  | delimiter
  | operator
  | atom
  | boolean
  | char
  | number
  | string
  | charlist
  | identifier
  | comment
  | whitespace
  | illegal
  | eof
  deriving DecidableEq

namespace Kind

/-- All kinds. -/
def all : List Kind :=
  [.atSign, .comma, .dot, .delimiter, .operator, .atom, .boolean, .char, .number, .string,
   .charlist, .identifier, .comment, .whitespace, .illegal, .eof]

/-- The name of a kind in listings and messages. -/
def name : Kind → Text
  | atSign => "AT"
  | comma => "COMMA"
  | dot => "DOT"
  | delimiter => "DELIMITER"
  | operator => "OPERATOR"
  | atom => "ATOM"
  | boolean => "BOOLEAN"
  | char => "CHAR"
  | number => "NUMBER"
  | string => "STRING"
  | charlist => "CHARLIST"
  | identifier => "IDENTIFIER"
  | comment => "COMMENT"
  | whitespace => "WHITESPACE"
  | illegal => "ILLEGAL"
  | eof => "EOF"

/-- White space and comments mean nothing to the grammar. -/
def isTrivia (k : Kind) : Bool := k = whitespace ∨ k = comment

end Kind

end Token

/-- A piece of source text. -/
structure Token where
  kind : Token.Kind
  lexeme : Text := []
  position : Position := .nowhere
  deriving DecidableEq

namespace Token

/-- The token without its position, which is what equality of programs looks at. -/
def unplaced (t : Token) : Token := { t with position := .nowhere }

/-- Two tokens of the same kind and lexeme, wherever they stand. -/
def same (t u : Token) : Bool := t.kind = u.kind ∧ t.lexeme = u.lexeme

theorem same_iff {t u : Token} : t.same u = true ↔ t.unplaced = u.unplaced := by
  cases t; cases u; simp [same, unplaced]

/-- A bracket or another delimiter with this lexeme. -/
def isDelimiter (t : Token) (lexeme : Text) : Bool := t.kind = .delimiter ∧ t.lexeme = lexeme

/-- An operator with this lexeme. -/
def isOperator (t : Token) (lexeme : Text) : Bool := t.kind = .operator ∧ t.lexeme = lexeme

/-- A token that the grammar sees: neither trivia nor the end of the input. -/
def isSignificant (t : Token) : Bool := !t.kind.isTrivia && t.kind ≠ .eof

/-- A token that names a map key before a colon: an alias, an identifier, a boolean or a string,
but no atom that has its own colon. -/
def isKeywordKey (t : Token) : Bool :=
  match t.kind with
  | .atom => t.lexeme.head? ≠ some ':'
  | .identifier | .boolean | .string => true
  | _ => false

/-- The token by its kind and its quoted lexeme. -/
def describe (t : Token) : Text :=
  "Token(" ++ t.kind.name ++ ", " ++ t.lexeme.quoted ++ ")"

end Token

end ElixirTerms
