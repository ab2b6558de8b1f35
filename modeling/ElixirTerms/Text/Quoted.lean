/-
# Quoted text

Messages and listings show a text between quotes.  The apostrophe is the quote, unless the text
holds an apostrophe and no double quote.  The quote in use, the backslash and every character that
is not printable are written as escapes, so a quoted text is one line and can be read back.
-/
import ElixirTerms.Text.Basic
import ElixirTerms.Unicode.Printable

namespace ElixirTerms.Text

/-- The quote that stands around a text. -/
def quoteFor (s : Text) : Char :=
  if '\'' ∈ s ∧ '"' ∉ s then '"' else '\''

/-- The escape of a character by its code point, in the shortest of the three widths. -/
def escapeCode (n : Nat) : Text :=
  if n < 0x100 then '\\' :: 'x' :: hex 2 n
  else if n < 0x10000 then '\\' :: 'u' :: hex 4 n
  else '\\' :: 'U' :: hex 8 n

/-- A character as it stands between quotes. -/
def escapeChar (quote c : Char) : Text :=
  if c = quote ∨ c = '\\' then ['\\', c]
  else if c = '\n' then ['\\', 'n']
  else if c = '\r' then ['\\', 'r']
  else if c = '\t' then ['\\', 't']
  else if Unicode.isPrintable c then [c]
  else escapeCode c.toNat

/-- A text between quotes. -/
def quoted (s : Text) : Text :=
  quoteFor s :: s.flatMap (escapeChar (quoteFor s)) ++ [quoteFor s]

end ElixirTerms.Text
