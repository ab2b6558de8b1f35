/-
# Syntax nodes

The terms of the language: literals, calls of anonymous functions, module attributes, lists and
tuples, and maps.  A node holds its tokens, so it remembers how it was spelled and where it stood.

Every node is announced under a kind.  The parser gives each shape its own kind; a node built by
hand may be announced under any, and may lack a node where one should stand.
-/
import ElixirTerms.Token.Basic

namespace ElixirTerms

namespace Node

/-- The kinds under which nodes are announced. -/
inductive Kind where
  | anonCall
  | atom
  | moduleAttribute
  | boolean
  | charlist
  | list
  | number
  | string
  | tuple
  | hashMap
  deriving DecidableEq

namespace Kind

/-- All kinds. -/
def all : List Kind :=
  [.anonCall, .atom, .moduleAttribute, .boolean, .charlist, .list, .number, .string, .tuple,
   .hashMap]

/-- The name of a kind as a constant. -/
def name : Kind → Text
  | anonCall => "ANON_CALL"
  | atom => "ATOM"
  | moduleAttribute => "ATTRIBUTE"
  | boolean => "BOOLEAN"
  | charlist => "CHARLIST"
  | list => "LIST"
  | number => "NUMBER"
  | string => "STRING"
  | tuple => "TUPLE"
  | hashMap => "HASH_MAP"

/-- The name of a kind as a type of node. -/
def typeName : Kind → Text
  | anonCall => "AnonCall"
  | atom => "Atom"
  | moduleAttribute => "Attribute"
  | boolean => "Boolean"
  | charlist => "Charlist"
  | list => "List"
  | number => "Number"
  | string => "String"
  | tuple => "Tuple"
  | hashMap => "HashMap"

end Kind

/-- The forms of literals.  A plain literal is of no particular form. -/
inductive Form where
  | plain
  | atom
  | boolean
  | charlist
  | number
  | string
  deriving DecidableEq

/-- The collections that are a row of elements. -/
inductive Shape where
  | list
  | tuple
  deriving DecidableEq

/-- The kind under which a row of elements is properly announced. -/
def Shape.kind : Shape → Kind
  | .list => .list
  | .tuple => .tuple

end Node

/-- A term of the language. -/
inductive Node where
  /-- Nothing where a node should stand. -/
  | missing
  /-- A node of which only the kind is known; it has no source text. -/
  | bare (kind : Node.Kind)
  | literal (form : Node.Form) (kind : Node.Kind) (token : Token)
  | call (kind : Node.Kind) (identifier : Token) (arguments : List Node)
  | moduleAttribute (kind : Node.Kind) (identifier : Token) (value : Node)
  | collection (shape : Node.Shape) (kind : Node.Kind) (elements : List Node)
  /-- The key at an index belongs to the value at that index. -/
  | hashMap (kind : Node.Kind) (keys values : List Node)

namespace Node

/-- The kind under which a node is announced. -/
def kind? : Node → Option Kind
  | missing => none
  | bare k | literal _ k _ | call k _ _ | moduleAttribute k _ _ | collection _ k _
  | hashMap k _ _ => some k

/-! ## Equality that ignores positions -/

/-- The node with all its tokens taken from their places. -/
def unplaced : Node → Node
  | missing => .missing
  | bare k => .bare k
  | literal form k t => .literal form k t.unplaced
  | call k t args => .call k t.unplaced (args.map unplaced)
  | moduleAttribute k t v => .moduleAttribute k t.unplaced v.unplaced
  | collection shape k es => .collection shape k (es.map unplaced)
  | hashMap k keys values => .hashMap k (keys.map unplaced) (values.map unplaced)

/-- Every node has a property that passes from the nodes inside a node to the node. -/
theorem induction {motive : Node → Prop} (missing : motive .missing)
    (bare : ∀ k, motive (.bare k))
    (literal : ∀ form k t, motive (.literal form k t))
    (call : ∀ k t args, (∀ a ∈ args, motive a) → motive (.call k t args))
    (moduleAttribute : ∀ k t v, motive v → motive (.moduleAttribute k t v))
    (collection : ∀ shape k es, (∀ e ∈ es, motive e) → motive (.collection shape k es))
    (hashMap : ∀ k keys values, (∀ a ∈ keys, motive a) → (∀ a ∈ values, motive a) →
      motive (.hashMap k keys values)) (n : Node) : motive n :=
  unplaced.induct motive missing bare literal call moduleAttribute collection hashMap n

mutual

/-- Two nodes that differ at most in the positions of their tokens. -/
def same : Node → Node → Bool
  | .missing, .missing => true
  | .bare k, .bare k' => k = k'
  | .literal form k t, .literal form' k' t' => form = form' && k = k' && t.same t'
  | .call k t args, .call k' t' args' => k = k' && t.same t' && sameAll args args'
  | .moduleAttribute k t v, .moduleAttribute k' t' v' => k = k' && t.same t' && v.same v'
  | .collection shape k es, .collection shape' k' es' => shape = shape' && k = k' && sameAll es es'
  | .hashMap k keys values, .hashMap k' keys' values' =>
    k = k' && sameAll keys keys' && sameAll values values'
  | _, _ => false

/-- Two lists of nodes that differ at most in positions. -/
def sameAll : List Node → List Node → Bool
  | [], [] => true
  | n :: ns, n' :: ns' => n.same n' && sameAll ns ns'
  | _, _ => false

end

/-- The nodes of a list up to equality that ignores positions, each at its first occurrence. -/
def distinct (ns : List Node) : List Node := ns.eraseDupsBy same

theorem sameAll_iff_of {ns : List Node}
    (h : ∀ n ∈ ns, ∀ n', n.same n' = true ↔ n.unplaced = n'.unplaced) (ns' : List Node) :
    sameAll ns ns' = true ↔ ns.map unplaced = ns'.map unplaced := by
  induction ns generalizing ns' with
  | nil => cases ns' <;> simp [sameAll]
  | cons n ns ih =>
    cases ns' with
    | nil => simp [sameAll]
    | cons n' ns' =>
      simp only [sameAll, Bool.and_eq_true, List.map_cons, List.cons.injEq]
      rw [h n List.mem_cons_self n', ih (fun m hm => h m (List.mem_cons_of_mem n hm)) ns']

/-- `same` decides equality of the nodes taken from their places. -/
theorem same_iff (n n' : Node) : n.same n' = true ↔ n.unplaced = n'.unplaced := by
  induction n using Node.induction generalizing n' with
  | missing => cases n' <;> simp [same, unplaced]
  | bare k => cases n' <;> simp [same, unplaced]
  | literal form k t => cases n' <;> simp [same, unplaced, Token.same_iff, and_assoc]
  | call k t args ih =>
    cases n' <;> simp [same, unplaced, Token.same_iff, and_assoc, sameAll_iff_of ih]
  | moduleAttribute k t v ih => cases n' <;> simp [same, unplaced, Token.same_iff, and_assoc, ih]
  | collection shape k es ih =>
    cases n' <;> simp [same, unplaced, and_assoc, sameAll_iff_of ih]
  | hashMap k keys values ihk ihv =>
    cases n' <;> simp [same, unplaced, and_assoc, sameAll_iff_of ihk, sameAll_iff_of ihv]

/-- `sameAll` decides equality of the lists taken from their places. -/
theorem sameAll_iff (ns ns' : List Node) :
    sameAll ns ns' = true ↔ ns.map unplaced = ns'.map unplaced :=
  sameAll_iff_of (fun n _ => same_iff n) ns'

end Node

end ElixirTerms
