/-
# Nesting

How much room an expression needs: one for itself, one more for each attribute around a part of it
and three more for each pair of brackets.
-/
import ElixirTerms.Proofs.Grammar.Basic

namespace ElixirTerms

namespace Node

/-- The room for brackets around parts that need some room each. -/
def roomAround (rooms : List Nat) : Nat := rooms.foldr (fun room most => max (room + 3) most) 1

/-- The room that an expression needs. -/
def nesting : Node → Nat
  | missing | bare _ | literal .. => 1
  | call _ _ args => roomAround (args.map nesting)
  | moduleAttribute _ _ v => v.nesting + 1
  | collection _ _ es => roomAround (es.map nesting)
  | hashMap _ keys values => roomAround (keys.map nesting ++ values.map nesting)

/-- There is room for brackets if there is some, and three more than each part needs. -/
theorem roomAround_le_iff (rooms : List Nat) (room : Nat) :
    roomAround rooms ≤ room ↔ 1 ≤ room ∧ ∀ r ∈ rooms, r + 3 ≤ room := by
  induction rooms with
  | nil => simp [roomAround]
  | cons r rooms ih =>
      rw [roomAround, List.foldr_cons, ← roomAround, Nat.max_le, ih]
      simp only [List.mem_cons, forall_eq_or_imp]
      constructor
      · rintro ⟨hr, hroom, hall⟩
        exact ⟨hroom, hr, hall⟩
      · rintro ⟨hroom, hr, hall⟩
        exact ⟨hr, hroom, hall⟩

@[simp] theorem nesting_literal (form : Form) (kind : Kind) (t : Token) :
    (literal form kind t).nesting = 1 := by
  rw [nesting]

@[simp] theorem nesting_moduleAttribute (kind : Kind) (t : Token) (v : Node) :
    (moduleAttribute kind t v).nesting = v.nesting + 1 := by
  rw [nesting]

/-- There is room for a call if there is some, and three more than each argument needs. -/
theorem nesting_call_le_iff (kind : Kind) (t : Token) (args : List Node) (room : Nat) :
    (call kind t args).nesting ≤ room ↔ 1 ≤ room ∧ ∀ a ∈ args, a.nesting + 3 ≤ room := by
  rw [nesting, roomAround_le_iff]
  simp

/-- There is room for a collection if there is some, and three more than each element needs. -/
theorem nesting_collection_le_iff (shape : Shape) (kind : Kind) (es : List Node) (room : Nat) :
    (collection shape kind es).nesting ≤ room ↔ 1 ≤ room ∧ ∀ e ∈ es, e.nesting + 3 ≤ room := by
  rw [nesting, roomAround_le_iff]
  simp

/-- There is room for a map if there is some, and three more than each key and value needs. -/
theorem nesting_hashMap_le_iff (kind : Kind) (entries : List (Node × Node)) (room : Nat) :
    (hashMap kind (entries.map (·.1)) (entries.map (·.2))).nesting ≤ room ↔
      1 ≤ room ∧ ∀ e ∈ entries, e.1.nesting + 3 ≤ room ∧ e.2.nesting + 3 ≤ room := by
  -- the room of a map counts all keys before all values, the entries pair them
  rw [nesting, roomAround_le_iff]
  simp only [List.mem_append, List.mem_map, and_congr_right_iff]
  intro _
  constructor
  · intro h e he
    exact ⟨h _ (Or.inl ⟨e.1, ⟨e, he, rfl⟩, rfl⟩), h _ (Or.inr ⟨e.2, ⟨e, he, rfl⟩, rfl⟩)⟩
  · rintro h r (⟨_, ⟨e, he, rfl⟩, rfl⟩ | ⟨_, ⟨e, he, rfl⟩, rfl⟩)
    · exact (h e he).1
    · exact (h e he).2

/-- Every expression needs some room. -/
theorem nesting_pos (n : Node) : 1 ≤ n.nesting := by
  have hle : ∀ rooms, 1 ≤ roomAround rooms :=
    fun rooms => ((roomAround_le_iff rooms (roomAround rooms)).1 (Nat.le_refl _)).1
  cases n with
  | missing => simp [nesting]
  | bare kind => simp [nesting]
  | literal form kind t => simp
  | call kind t args => rw [nesting]; exact hle _
  | moduleAttribute kind t v => simp
  | collection shape kind es => rw [nesting]; exact hle _
  | hashMap kind keys values => rw [nesting]; exact hle _

end Node

end ElixirTerms
