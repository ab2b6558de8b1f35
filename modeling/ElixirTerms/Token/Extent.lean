/-
# The extent of a token

How a token starting at the head of the remaining text is classified, and how many characters it
takes.  An extent depends on the remaining text alone.  `scan` chooses among the extents by the
first character.
-/
import ElixirTerms.Token.Alphabet

namespace ElixirTerms

/-- The kind of a token and its number of characters. -/
structure Extent where
  kind : Token.Kind
  length : Nat
  deriving DecidableEq

namespace Extent

open Token Unicode

/-- The number of characters of a class at the head of a text. -/
def run (p : Char → Bool) (s : Text) : Nat := (s.takeWhile p).length

/-! ## Quoted literals -/

/-- The number of characters up to and including the first quote that no backslash escapes. -/
def closing? (quote : Char) : Text → Option Nat
  | [] => none
  | '\\' :: [] => none
  | '\\' :: _ :: s => (closing? quote s).map (· + 2)
  | c :: s => if c = quote then some 1 else (closing? quote s).map (· + 1)

/-- The number of characters up to and including the third of three quotes in a row that no
backslash escapes, after `seen` of them have been met. -/
def tripleClosing? (quote : Char) : Nat → Text → Option Nat
  | _, [] => none
  | _, '\\' :: [] => none
  | _, '\\' :: _ :: s => (tripleClosing? quote 0 s).map (· + 2)
  | seen, c :: s =>
    if c = quote then
      if seen = 2 then some 1 else (tripleClosing? quote (seen + 1) s).map (· + 1)
    else (tripleClosing? quote 0 s).map (· + 1)

/-- A literal that no quote closes is illegal and takes all; `opening` quotes it has in any case. -/
def unclosed (opening : Nat) (s : Text) : Extent := ⟨.illegal, max opening s.length⟩

/-- A literal between tripled quotes; without the closing ones it is illegal and takes all. -/
def heredoc (quote : Char) (kind : Kind) (s : Text) : Extent :=
  match tripleClosing? quote 0 (s.drop 3) with
  | some n => ⟨kind, n + 3⟩
  | none => unclosed 3 s

/-- A quoted literal, single or tripled by how many quotes open it; without a closing quote it is
illegal and takes all. -/
def quoted (quote : Char) (kind : Kind) (s : Text) : Extent :=
  if s[1]? = some quote ∧ s[2]? = some quote then heredoc quote kind s
  else
    match closing? quote (s.drop 1) with
    | some n => ⟨kind, n + 1⟩
    | none => unclosed 1 s

/-! ## Atoms -/

/-- The number of characters by which an atom goes on.  An alias goes on over a dot that an
upper-case character follows. -/
def atomTail (isAlias : Bool) : Text → Nat
  | [] => 0
  | c :: s =>
    if isAtomChar c || (isAlias && c = '.' && s.head?.any isUpper) then atomTail isAlias s + 1
    else 0

/-- The extent of an atom or an alias, if the second character allows one. -/
def atom? : Text → Option Extent
  | c :: ahead :: s =>
    if c = ':' ∧ ahead ∈ quotes then
      let literal := quoted ahead .atom (ahead :: s)
      some ⟨literal.kind, literal.length + 1⟩
    else if isAlphanumeric ahead || ahead = '_' then
      some ⟨.atom, atomTail (isUpper c) (ahead :: s) + 1⟩
    else none
  | _ => none

/-! ## The other tokens -/

/-- A comment takes the rest of its line. -/
def comment (s : Text) : Extent := ⟨.comment, run isCommentChar s⟩

/-- A codepoint literal takes the question mark, an escape if a whole one follows, and a run. -/
def codepoint : Text → Extent
  | _ :: '\\' :: _ :: s => ⟨.char, run isCodepointChar s + 3⟩
  | s => ⟨.char, run isCodepointChar (s.drop 1) + 1⟩

/-- A word is a boolean or an identifier. -/
def word (s : Text) : Extent :=
  let lexeme := s.takeWhile isWordChar
  ⟨wordKind lexeme, lexeme.length⟩

/-- What is no token runs up to the next blank. -/
def illegal (s : Text) : Extent := ⟨.illegal, run (!isBlank ·) s⟩

/-- The extent of a token that starts with `c` and is no atom. -/
def plain (c : Char) (s : Text) : Extent :=
  if c ∈ delimiters then ⟨.delimiter, 1⟩
  else if isOperatorChar c then ⟨.operator, run isOperatorChar (c :: s)⟩
  else if c.isDigit then ⟨.number, run isNumberChar (c :: s)⟩
  else if isWordChar c then word (c :: s)
  else illegal (c :: s)

/-- The extent of the token that starts with `c` and has `s` after it. -/
def scan (c : Char) (s : Text) : Extent :=
  if isBlank c then ⟨.whitespace, run isBlank (c :: s)⟩
  else if c = ',' then ⟨.comma, 1⟩
  else if c = '@' then ⟨.atSign, 1⟩
  else if c = '#' then comment (c :: s)
  else if c = '?' then codepoint (c :: s)
  else if c = '.' then ⟨.dot, run (· = '.') (c :: s)⟩
  else if c = '"' then quoted '"' .string (c :: s)
  else if c = '\'' then quoted '\'' .charlist (c :: s)
  else if isUpper c || c = ':' then (atom? (c :: s)).getD (plain c s)
  else plain c s

end Extent

end ElixirTerms
