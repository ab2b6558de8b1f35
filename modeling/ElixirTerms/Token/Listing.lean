/-
# Listings of tokens

A listing counts the tokens and shows one a line, up to a limit.
-/
import ElixirTerms.SignedIndex
import ElixirTerms.Token.Basic

namespace ElixirTerms.Token

/-- A token in a listing, under its index. -/
def listingLine (t : Token) (index : Nat) : Text :=
  "  " ++ (Text.ofNat index).leftpad 3 ' ' ++ ": " ++ t.kind.name.rightpad 10 ' ' ++ " " ++
    t.lexeme.quoted ++ " @" ++ Text.ofInt t.position.line ++ ":" ++ Text.ofInt t.position.column

/-- The listing of the tokens before a limit, which may count from the end, or of all. -/
def listing (ts : List Token) (limit : Option Int) : Text :=
  let shown := (limit.map (takeSigned ts)).getD ts
  let hidden := ts.length - shown.length
  Text.joinLines (("Tokens (" ++ Text.ofNat ts.length ++ "):") ::
    shown.zipIdx.map (fun (t, i) => t.listingLine i) ++
    if hidden = 0 then [] else ["  ... and " ++ Text.ofNat hidden ++ " more"])

end ElixirTerms.Token
