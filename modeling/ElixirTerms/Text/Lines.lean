/-
# Lines

A line may end with a newline, a carriage return, or both in that order.
-/
import ElixirTerms.Text.Basic

namespace ElixirTerms.Text

/-- A text with every line end written as a newline. -/
def unifyNewlines : Text → Text
  | [] => []
  | '\r' :: '\n' :: s => '\n' :: unifyNewlines s
  | '\r' :: s => '\n' :: unifyNewlines s
  | c :: s => c :: unifyNewlines s

/-- The lines of a text, without their newlines; nothing after the last newline is no line. -/
def splitLines : Text → List Text
  | [] => []
  | c :: s =>
    if c = '\n' then [] :: splitLines s
    else
      match splitLines s with
      | [] => [[c]]
      | line :: later => (c :: line) :: later

end ElixirTerms.Text
