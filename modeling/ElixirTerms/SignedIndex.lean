/-
# Signed indices

An index into a list that may be negative: `-1` names the last item, `-2` the one before it.  An
index at or beyond the length names no item, and one below minus the length is out of range.
-/

namespace ElixirTerms

/-- What a signed index of a list names. -/
inductive Cell (α : Type) where
  /-- The item that stands there. -/
  | item (a : α)
  /-- Nothing: the index lies at or beyond the end. -/
  | beyond
  /-- Nothing: the index lies before the start. -/
  | outOfRange

namespace Cell

variable {α : Type}

/-- The cell of a list at a signed index. -/
def ofIndex (xs : List α) (i : Int) : Cell α :=
  if i < -(xs.length : Int) then .outOfRange
  else
    match xs[(if i < 0 then i + xs.length else i).toNat]? with
    | some a => .item a
    | none => .beyond

/-- An index from zero up names an item exactly as list look-up does. -/
theorem ofIndex_natCast (xs : List α) (n : Nat) :
    Cell.ofIndex xs n = match xs[n]? with | some a => .item a | none => .beyond := by
  have : ¬ ((n : Int) < -(xs.length : Int)) := by omega
  have h' : ¬ ((n : Int) < 0) := by omega
  simp [Cell.ofIndex, this, h']

end Cell

/-- The items before a signed index: a negative index counts from the end. -/
def takeSigned {α : Type} (xs : List α) (i : Int) : List α :=
  xs.take (if i < 0 then i + xs.length else i).toNat

end ElixirTerms
