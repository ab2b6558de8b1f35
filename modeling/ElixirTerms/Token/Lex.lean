/-
# The token stream of a text

`lex` cuts a text into tokens, white space and comments included, and ends with one token for the
end of the input.  Whatever no rule covers becomes an illegal token, so every text has a stream.
-/
import ElixirTerms.Token.Extent.Bounds

namespace ElixirTerms.Token

/-- The tokens of a text whose first character stands at a position. -/
def lexFrom (p : Position) : Text → List Token
  | [] => [⟨.eof, [], p⟩]
  | c :: s =>
    let extent := Extent.scan c s
    let lexeme := (c :: s).take extent.length
    ⟨extent.kind, lexeme, p⟩ :: lexFrom (p.after lexeme) ((c :: s).drop extent.length)
termination_by s => s.length
decreasing_by
  have := Extent.scan_pos c s
  simp only [List.length_drop, List.length_cons]
  omega

/-- The tokens of a text. -/
def lex (text : Text) : List Token := lexFrom .start text

end ElixirTerms.Token
