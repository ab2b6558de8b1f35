/-
# Reading JSON values

What stands in an object is found by its name, so the order of the fields does not matter.  A reader
of the parts of a value is told that each part is smaller than the value, and what is read from
values that agree but for the order of fields is the same (`Alike`).
-/
import Mathlib.Data.List.Forall2
import ElixirTerms.Json.Basic

namespace ElixirTerms.Json

/-! ## Fields -/

/-- The value of an object under a name. -/
def field? (name : String) : Json → Option Json
  | object fields => fields.lookup name.toList
  | _ => none

/-- The text that a value is. -/
def text? : Json → Option Text
  | string s => some s
  | _ => none

/-- The integer that a value is. -/
def int? : Json → Option Int
  | int i => some i
  | _ => none

/-- The items of a value that is an array. -/
def items? : Json → Option (List Json)
  | array items => some items
  | _ => none

/-- The text of an object under a name. -/
def textAt? (j : Json) (name : String) : Option Text := (j.field? name).bind text?

/-- The integer of an object under a name. -/
def intAt? (j : Json) (name : String) : Option Int := (j.field? name).bind int?

/-- The items of an object under a name. -/
def itemsAt? (j : Json) (name : String) : Option (List Json) := (j.field? name).bind items?

/-! ## Parts -/

section

variable {j v : Json} {name : String} {items : List Json}

/-- An object is larger than its fields. -/
theorem sizeOf_lt_of_field? (h : j.field? name = some v) : sizeOf v < sizeOf j := by
  cases j with
  | object fields =>
      obtain ⟨before, later, rfl, -⟩ := List.lookup_eq_some_iff.1 h
      have hmem : (name.toList, v) ∈ before ++ (name.toList, v) :: later := by simp
      have hfields := List.sizeOf_lt_of_mem hmem
      simp only [Prod.mk.sizeOf_spec, object.sizeOf_spec] at hfields ⊢
      omega
  | null | int _ | string _ | array _ => cases h

/-- An object is larger than the items of its fields. -/
theorem sizeOf_lt_of_mem_itemsAt? (h : j.itemsAt? name = some items) (hv : v ∈ items) :
    sizeOf v < sizeOf j := by
  obtain ⟨a, ha, hitems⟩ := Option.bind_eq_some_iff.1 h
  have hfield := sizeOf_lt_of_field? ha
  cases a with
  | array _ =>
      cases hitems
      have hitem := List.sizeOf_lt_of_mem hv
      simp only [array.sizeOf_spec] at hfield
      omega
  | null | int _ | string _ | object _ => cases hitems

end

section

variable {α : Type}

/-- Read the field of an object under a name. -/
def readField? (j : Json) (name : String) (read : (v : Json) → sizeOf v < sizeOf j → Option α) :
    Option α :=
  (j.field? name).attach.bind fun ⟨v, hv⟩ => read v (sizeOf_lt_of_field? hv)

/-- Read the items of an object under a name, one after the other. -/
def readItems? (j : Json) (name : String) (read : (v : Json) → sizeOf v < sizeOf j → Option α) :
    Option (List α) :=
  (j.itemsAt? name).attach.bind fun ⟨items, hitems⟩ =>
    items.attach.mapM fun ⟨v, hv⟩ => read v (sizeOf_lt_of_mem_itemsAt? hitems hv)

/-- A reader that does not look at sizes is handed the field. -/
@[simp] theorem readField?_eq (j : Json) (name : String) (read : Json → Option α) :
    (j.readField? name fun v _ => read v) = (j.field? name).bind read := by
  rw [readField?, Option.bind_subtype fun _ _ => rfl, Option.unattach_attach]

/-- A reader that does not look at sizes is handed each item. -/
@[simp] theorem readItems?_eq (j : Json) (name : String) (read : Json → Option α) :
    (j.readItems? name fun v _ => read v) = (j.itemsAt? name).bind (·.mapM read) := by
  have hitems (items : List Json) :
      (items.attach.mapM fun ⟨v, _⟩ => read v) = items.mapM read := by
    rw [List.mapM_subtype fun _ _ => rfl, List.unattach_attach]
  rw [readItems?, Option.bind_subtype fun items _ => hitems items, Option.unattach_attach]

end

/-! ## The order of fields -/

/-- Two values that agree but for the order of the fields of objects. -/
inductive Alike : Json → Json → Prop where
  | null : Alike .null .null
  | int (i : Int) : Alike (.int i) (.int i)
  | string (s : Text) : Alike (.string s) (.string s)
  | array {items items' : List Json} : List.Forall₂ Alike items items' →
      Alike (.array items) (.array items')
  | object {fields fields' : List (Text × Json)} :
      (∀ name, (fields.lookup name).isSome = (fields'.lookup name).isSome) →
      (∀ name v v', fields.lookup name = some v → fields'.lookup name = some v' → Alike v v') →
      Alike (.object fields) (.object fields')

/-- A value agrees with itself. -/
theorem Alike.refl (j : Json) : Alike j j := by
  match j with
  | .null => exact .null
  | .int i => exact .int i
  | .string s => exact .string s
  | .array items => exact .array (List.forall₂_same.2 fun v hv => Alike.refl v)
  | .object fields =>
      refine .object (fun name => rfl) fun name v v' h h' => ?_
      obtain rfl : v = v' := Option.some.inj (h.symm.trans h')
      obtain ⟨before, later, hfields, -⟩ := List.lookup_eq_some_iff.1 h
      have hmem : (name, v) ∈ fields := by rw [hfields]; simp
      exact Alike.refl v
termination_by sizeOf j
decreasing_by
  · have := List.sizeOf_lt_of_mem hv
    simp only [array.sizeOf_spec]
    omega
  · have := List.sizeOf_lt_of_mem hmem
    simp only [Prod.mk.sizeOf_spec, object.sizeOf_spec] at this ⊢
    omega

namespace Alike

variable {α : Type} {j j' : Json} {f g : Json → Option α}

/-- Values that agree have fields under the same names, and these agree. -/
theorem field? (h : Alike j j') (name : String) :
    (j.field? name = none ∧ j'.field? name = none) ∨
      ∃ v v', j.field? name = some v ∧ j'.field? name = some v' ∧ Alike v v' := by
  cases h with
  | null | int _ | string _ | array _ => exact .inl ⟨rfl, rfl⟩
  | @object fields fields' hnames hvalues =>
      show (fields.lookup name.toList = none ∧ fields'.lookup name.toList = none) ∨
        ∃ v v', fields.lookup name.toList = some v ∧ fields'.lookup name.toList = some v' ∧
          Alike v v'
      have hsome := hnames name.toList
      cases hv : fields.lookup name.toList with
      | none =>
          rw [hv, Option.isSome_none, eq_comm, Option.isSome_eq_false_iff,
            Option.isNone_iff_eq_none] at hsome
          exact .inl ⟨rfl, hsome⟩
      | some v =>
          rw [hv, Option.isSome_some, eq_comm, Option.isSome_iff_exists] at hsome
          obtain ⟨v', hv'⟩ := hsome
          exact .inr ⟨v, v', rfl, hv', hvalues _ v v' hv hv'⟩

/-- What is read alike from the fields of values that agree is the same. -/
theorem bind_field?_eq (h : Alike j j') (name : String)
    (hf : ∀ v v', Alike v v' → sizeOf v < sizeOf j → f v = g v') :
    (j.field? name).bind f = (j'.field? name).bind g := by
  rcases h.field? name with ⟨hv, hv'⟩ | ⟨v, v', hv, hv', halike⟩
  · rw [hv, hv']
    rfl
  · rw [hv, hv']
    exact hf v v' halike (sizeOf_lt_of_field? hv)

/-- Items that agree are read as the same if each of them is. -/
theorem mapM_eq {items items' : List Json} (h : List.Forall₂ Alike items items')
    (hf : ∀ v v', Alike v v' → v ∈ items → f v = g v') : items.mapM f = items'.mapM g := by
  induction h with
  | nil => rfl
  | @cons v v' items items' hv _ ih =>
      rw [List.mapM_cons, List.mapM_cons, hf v v' hv List.mem_cons_self,
        ih fun w w' hw hmem => hf w w' hw (List.mem_cons_of_mem v hmem)]

/-- Values that agree are the same text. -/
theorem text?_eq (h : Alike j j') : j.text? = j'.text? := by
  cases h <;> rfl

/-- Values that agree are the same integer. -/
theorem int?_eq (h : Alike j j') : j.int? = j'.int? := by
  cases h <;> rfl

/-- Values that agree have the same text under a name. -/
theorem textAt?_eq (h : Alike j j') (name : String) : j.textAt? name = j'.textAt? name :=
  h.bind_field?_eq name fun _ _ hv _ => hv.text?_eq

/-- Values that agree have the same integer under a name. -/
theorem intAt?_eq (h : Alike j j') (name : String) : j.intAt? name = j'.intAt? name :=
  h.bind_field?_eq name fun _ _ hv _ => hv.int?_eq

/-- What is read alike from the items of values that agree is the same. -/
theorem bind_itemsAt?_eq (h : Alike j j') (name : String)
    (hf : ∀ v v', Alike v v' → sizeOf v < sizeOf j → f v = g v') :
    (j.itemsAt? name).bind (·.mapM f) = (j'.itemsAt? name).bind (·.mapM g) := by
  rw [itemsAt?, itemsAt?, Option.bind_assoc, Option.bind_assoc]
  apply h.bind_field?_eq
  intro v v' hv hsize
  cases hv with
  | null | int _ | string _ | object _ _ => rfl
  | @array items items' hitems =>
      apply mapM_eq hitems
      intro w w' hw hmem
      apply hf w w' hw
      have hitem := List.sizeOf_lt_of_mem hmem
      simp only [array.sizeOf_spec] at hsize
      omega

end Alike

end ElixirTerms.Json
