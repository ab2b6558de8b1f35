/-
# Positions in a text

A position is a line and a column, both counted from one.  A newline ends its line; every other
character takes one column.
-/
import ElixirTerms.Text.Basic

namespace ElixirTerms

/-- A line and a column. -/
structure Position where
  line : Int
  column : Int
  deriving DecidableEq

namespace Position

/-- The position of the first character of a text. -/
def start : Position := ⟨1, 1⟩

/-- The position of tokens that stand in no text. -/
def nowhere : Position := ⟨0, 0⟩

/-- The position after one character. -/
def next (p : Position) (c : Char) : Position :=
  if c = '\n' then ⟨p.line + 1, 1⟩ else ⟨p.line, p.column + 1⟩

/-- The position after a stretch of text. -/
def after (p : Position) (s : Text) : Position := s.foldl next p

/-- The position in words, as messages give it. -/
def describe (p : Position) : Text :=
  "line " ++ Text.ofInt p.line ++ ", column " ++ Text.ofInt p.column

@[simp] theorem after_nil (p : Position) : p.after [] = p := rfl

@[simp] theorem after_cons (p : Position) (c : Char) (s : Text) :
    p.after (c :: s) = (p.next c).after s := rfl

/-- Stretches of text may be passed one after the other. -/
theorem after_append (p : Position) (s t : Text) : p.after (s ++ t) = (p.after s).after t := by
  simp [after, List.foldl_append]

end Position

end ElixirTerms
