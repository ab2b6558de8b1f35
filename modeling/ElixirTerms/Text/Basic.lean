/-
# Text

Source text, lexemes and everything that is printed are lists of characters, so a length is a
number of code points and a position in a text is an index of its list.
-/

namespace ElixirTerms

/-- A text is the list of its characters. -/
abbrev Text := List Char

/-- A string literal may stand wherever a text is expected. -/
instance : Coe String Text := ⟨String.toList⟩

namespace Text

/-- The decimal digits of a natural number. -/
def ofNat (n : Nat) : Text := Nat.toDigits 10 n

/-- Different numbers have different digits. -/
theorem ofNat_injective : Function.Injective ofNat := by
  intro m n h
  have hnumbers := congrArg (Nat.ofDigitChars 10 · 0) h
  simpa only [ofNat, Nat.ofDigitChars_ten_toDigits] using hnumbers

/-- The decimal digits of an integer, after a minus sign if it is negative. -/
def ofInt : Int → Text
  | .ofNat n => ofNat n
  | .negSucc n => '-' :: ofNat (n + 1)

/-- The digits of `n` in base sixteen, in lower case, filled up with zeros to a width. -/
def hex (width n : Nat) : Text := (Nat.toDigits 16 n).leftpad width '0'

/-- The parts in order, with `, ` between neighbours. -/
def commaSeparated (parts : List Text) : Text := List.intercalate ", ".toList parts

/-- The lines in order, with a newline between neighbours. -/
def joinLines (parts : List Text) : Text := List.intercalate ['\n'] parts

/-- The characters from index `first` up to index `last`, as far as the text has them. -/
def slice (text : Text) (first last : Nat) : Text := (text.drop first).take (last - first)

end Text

end ElixirTerms
