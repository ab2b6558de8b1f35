/-
# Tokens as JSON
-/
import ElixirTerms.Json.Basic
import ElixirTerms.Token.Basic

namespace ElixirTerms.Token

/-- A token as an object of its kind, lexeme, line and column. -/
def toJson (t : Token) : Json :=
  .record [("kind", .string t.kind.name), ("lexeme", .string t.lexeme),
    ("line", .int t.position.line), ("column", .int t.position.column)]

end ElixirTerms.Token
