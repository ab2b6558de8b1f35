/-
# JSON text

A JSON value is written over several lines, two spaces deeper inside each array and object, in
ASCII alone: a character outside it is written as its UTF-16 units.
-/
import ElixirTerms.Json.Basic

namespace ElixirTerms.Json

/-- The escape of one UTF-16 unit. -/
def unitEscape (unit : Nat) : Text := '\\' :: 'u' :: Text.hex 4 unit

/-- The escape of a code point: of its one unit, or of its two surrogates. -/
def codeEscape (n : Nat) : Text :=
  if n < 0x10000 then unitEscape n
  else
    unitEscape (0xD800 + (n - 0x10000) / 0x400) ++ unitEscape (0xDC00 + (n - 0x10000) % 0x400)

/-- A character as it stands in a JSON string. -/
def encodeChar (c : Char) : Text :=
  if c = '"' ∨ c = '\\' then ['\\', c]
  else if c = '\n' then ['\\', 'n']
  else if c = '\r' then ['\\', 'r']
  else if c = '\t' then ['\\', 't']
  else if c = '\x08' then ['\\', 'b']
  else if c = '\x0c' then ['\\', 'f']
  else if ' ' ≤ c ∧ c ≤ '~' then [c]
  else codeEscape c.toNat

/-- A JSON string. -/
def encodeString (s : Text) : Text := '"' :: s.flatMap encodeChar ++ ['"']

/-- A line break and the indentation after it. -/
def lineBreak (indent : Nat) : Text := '\n' :: List.replicate indent ' '

/-- Items between brackets, each on a line of its own; nothing stands between empty brackets. -/
def encodeBlock (opening closing : Char) (indent : Nat) (items : List Text) : Text :=
  if items = [] then [opening, closing]
  else
    opening :: lineBreak (indent + 2) ++
      List.intercalate (',' :: lineBreak (indent + 2)) items ++ lineBreak indent ++ [closing]

/-- A JSON value as text, where its first line begins after an indentation. -/
def encodeAt (indent : Nat) : Json → Text
  | null => "null"
  | int i => Text.ofInt i
  | string s => encodeString s
  | array items => encodeBlock '[' ']' indent (items.map fun item => item.encodeAt (indent + 2))
  | object fields =>
    encodeBlock '\x7b' '\x7d' indent (fields.attach.map fun ⟨(name, value), _⟩ =>
      encodeString name ++ ": " ++ value.encodeAt (indent + 2))
termination_by j => j
decreasing_by
  · decreasing_tactic
  · have := List.sizeOf_lt_of_mem ‹(name, value) ∈ fields›
    simp only [Prod.mk.sizeOf_spec, object.sizeOf_spec] at *
    omega

/-- A JSON value as text. -/
def encode (j : Json) : Text := j.encodeAt 0

end ElixirTerms.Json
