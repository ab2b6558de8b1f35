/-
# Paths

A path is a text of names with slashes between them.
-/
import ElixirTerms.Text.Basic

namespace ElixirTerms.Command.Path

/-- The texts between the slashes of a path. -/
def parts (path : Text) : List Text :=
  path.foldr (fun c found =>
    if c = '/' then [] :: found
    else
      match found with
      | [] => [[c]]
      | part :: later => (c :: part) :: later) [[]]

/-- The names that a path consists of. -/
def names (path : Text) : List Text := (parts path).filter (· ≠ [])

/-- A path without the slashes at its end, unless it has nothing else. -/
def stripSlashes (path : Text) : Text :=
  if path.all (· = '/') then path else (path.reverse.dropWhile (· = '/')).reverse

/-- The path of the folder around, and the last name. -/
def splitLast (path : Text) : Text × Text :=
  let last := (path.reverse.takeWhile (· ≠ '/')).reverse
  (stripSlashes (path.take (path.length - last.length)), last)

/-! ## Lengths -/

/-- The number of bytes of a text. -/
def byteLength (s : Text) : Nat := (String.ofList s).utf8ByteSize

/-- The longest name that a file may have, in bytes. -/
def maxNameLength : Nat := 255

/-- The longest path that can be followed, in bytes. -/
def maxLength : Nat := 4095

end ElixirTerms.Command.Path
