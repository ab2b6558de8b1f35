/-
# The alphabet of tokens

The classes of characters that decide where a token starts and how far it runs.
-/
import ElixirTerms.Unicode.Alphanumeric
import ElixirTerms.Unicode.Blank
import ElixirTerms.Unicode.Upper
import ElixirTerms.Token.Basic

namespace ElixirTerms.Token

open Unicode (isAlphanumeric isBlank inRanges)

/-- The punctuation characters of ASCII. -/
def isPunctuation (c : Char) : Bool :=
  inRanges c.toNat [(0x21, 0x2F), (0x3A, 0x40), (0x5B, 0x60), (0x7B, 0x7E)]

/-- The characters that make up operators. -/
def operatorChars : List Char :=
  ['!', '$', '&', '*', '+', '-', '/', ':', '<', '=', '>', '\\', '^', '|', '~']

/-- A character of an operator. -/
def isOperatorChar (c : Char) : Bool := c ∈ operatorChars

/-- A character that an unquoted atom may hold after its first. -/
def isAtomChar (c : Char) : Bool := isAlphanumeric c || c ∈ ['_', '?', '!']

/-- A character that a codepoint literal runs over after its escape. -/
def isCodepointChar (c : Char) : Bool := isAlphanumeric c || c = '?'

/-- A character that a number runs over: the digits and letters of ASCII, the dot and the
underscore. -/
def isNumberChar (c : Char) : Bool := c.isAlphanum || c ∈ ['.', '_']

/-- A character that a word runs over: everything but blanks and ASCII punctuation, and of that
punctuation only what an atom may hold as well. -/
def isWordChar (c : Char) : Bool := !isBlank c && (isAtomChar c || !isPunctuation c)

/-- A character that a comment runs over: all but the boundaries of its line. -/
def isCommentChar (c : Char) : Bool := c ∉ ['\n', '\r', '\t']

/-- The brackets, and the percent sign before the brace of a map. -/
def delimiters : List Char := ['(', ')', '[', ']', '\x7b', '\x7d', '%']

/-- The quotes of strings, charlists and quoted atoms. -/
def quotes : List Char := ['"', '\'']

/-- The words that are booleans. -/
def booleans : List Text := ["true", "false", "nil"]

/-- The kind of a word: a boolean or an identifier. -/
def wordKind (lexeme : Text) : Kind := if booleans.contains lexeme then .boolean else .identifier

end ElixirTerms.Token
