/-
# Nodes out of JSON

A node is found again in its JSON: the type tells its kind, and the kind tells which fields hold its
parts.  The tokens of literals are exported in full; of the name in a call or in an attribute only
the lexeme is, so it is decoded as an identifier that stands nowhere.  The source is not looked at.
-/
import ElixirTerms.Node.Json
import ElixirTerms.Program
import ElixirTerms.Proofs.Exported.Fields

namespace ElixirTerms

/-! ## Tokens -/

namespace Token

/-- The kind with a name. -/
def Kind.ofName? (name : Text) : Option Kind := all.find? (·.name = name)

/-- The token that a JSON value describes. -/
def ofJson? (j : Json) : Option Token := do
  let kind ← Kind.ofName? (← j.textAt? "kind")
  return ⟨kind, ← j.textAt? "lexeme", ⟨← j.intAt? "line", ← j.intAt? "column"⟩⟩

/-- A token is found again in its JSON. -/
@[simp] theorem ofJson?_toJson (t : Token) : ofJson? t.toJson = some t := by
  obtain ⟨kind, lexeme, position⟩ := t
  cases kind <;> rfl

end Token

namespace Node

/-! ## Kinds -/

/-- The kind with a name as a type of node. -/
def Kind.ofTypeName? (name : Text) : Option Kind := all.find? (·.typeName = name)

/-- The form of the literals of a kind. -/
def Kind.form? : Kind → Option Form
  | .atom => some .atom
  | .boolean => some .boolean
  | .charlist => some .charlist
  | .number => some .number
  | .string => some .string
  | _ => none

/-- The shape of the rows of elements of a kind. -/
def Kind.shape? : Kind → Option Shape
  | .list => some .list
  | .tuple => some .tuple
  | _ => none

/-! ## The decoder -/

/-- The name that a JSON value gives to a call or to an attribute. -/
def identifierOfJson? (j : Json) : Option Token :=
  (j.textAt? "identifier").map (⟨.identifier, ·, .nowhere⟩)

/-- The node that a JSON value describes. -/
def ofJson? (j : Json) : Option Node := do
  match ← Kind.ofTypeName? (← j.textAt? "node_type") with
  | .anonCall =>
    return .call .anonCall (← identifierOfJson? j) (← j.readItems? "arguments" fun a _ => ofJson? a)
  | .moduleAttribute =>
    return .moduleAttribute .moduleAttribute (← identifierOfJson? j)
      (← j.readField? "value" fun v _ => ofJson? v)
  | .hashMap =>
    return Expression.mapOfEntries (← j.readItems? "entries" fun entry _ => do
      return (← entry.readField? "key" fun k _ => ofJson? k,
        ← entry.readField? "value" fun v _ => ofJson? v))
  | kind =>
    match kind.shape? with
    | some shape => return .collection shape kind (← j.readItems? "elements" fun e _ => ofJson? e)
    | none => return .literal (← kind.form?) kind (← (j.field? "token").bind Token.ofJson?)
termination_by sizeOf j

/-- The entry of a map that a JSON value describes. -/
def entryOfJson? (j : Json) : Option (Node × Node) := do
  return (← (j.field? "key").bind ofJson?, ← (j.field? "value").bind ofJson?)

/-- A node is decoded from its type and its parts. -/
theorem ofJson?_eq (j : Json) : ofJson? j = do
    match ← Kind.ofTypeName? (← j.textAt? "node_type") with
    | .anonCall =>
      return .call .anonCall (← identifierOfJson? j)
        (← (j.itemsAt? "arguments").bind (·.mapM ofJson?))
    | .moduleAttribute =>
      return .moduleAttribute .moduleAttribute (← identifierOfJson? j)
        (← (j.field? "value").bind ofJson?)
    | .hashMap =>
      return Expression.mapOfEntries (← (j.itemsAt? "entries").bind (·.mapM entryOfJson?))
    | kind =>
      match kind.shape? with
      | some shape =>
        return .collection shape kind (← (j.itemsAt? "elements").bind (·.mapM ofJson?))
      | none => return .literal (← kind.form?) kind (← (j.field? "token").bind Token.ofJson?) := by
  rw [ofJson?]
  simp only [Json.readItems?_eq, Json.readField?_eq]
  rfl

/-! ## The order of fields -/

/-- Values that agree describe the same token. -/
theorem tokenOfJson?_eq_of_alike {j j' : Json} (h : j.Alike j') :
    Token.ofJson? j = Token.ofJson? j' := by
  rw [Token.ofJson?, Token.ofJson?, h.textAt?_eq, h.textAt?_eq, h.intAt?_eq, h.intAt?_eq]

/-- Values that agree describe the same node. -/
theorem ofJson?_eq_of_alike {j j' : Json} (h : j.Alike j') : ofJson? j = ofJson? j' := by
  have hpart (v v' : Json) (hv : v.Alike v') (hsize : sizeOf v < sizeOf j) :
      ofJson? v = ofJson? v' := ofJson?_eq_of_alike hv
  have hentry (v v' : Json) (hv : v.Alike v') (hsize : sizeOf v < sizeOf j) :
      entryOfJson? v = entryOfJson? v' := by
    have hfield (w w' : Json) (hw : w.Alike w') (hless : sizeOf w < sizeOf v) :
        ofJson? w = ofJson? w' := hpart w w' hw (Nat.lt_trans hless hsize)
    rw [entryOfJson?, entryOfJson?, hv.bind_field?_eq "key" hfield,
      hv.bind_field?_eq "value" hfield]
  have hidentifier : identifierOfJson? j = identifierOfJson? j' := by
    rw [identifierOfJson?, identifierOfJson?, h.textAt?_eq]
  rw [ofJson?_eq, ofJson?_eq, h.textAt?_eq, hidentifier, h.bind_itemsAt?_eq "arguments" hpart,
    h.bind_field?_eq "value" hpart, h.bind_itemsAt?_eq "entries" hentry,
    h.bind_itemsAt?_eq "elements" hpart,
    h.bind_field?_eq "token" fun v v' hv _ => tokenOfJson?_eq_of_alike hv]
termination_by sizeOf j

end Node

end ElixirTerms
