/-
# The tree of a node

The nodes directly inside a node, in order, each with the role it plays there.  Whatever walks
over terms without regard to their shapes, such as an outline or a graph, sees them this way.
-/
import ElixirTerms.Node.Source

namespace ElixirTerms

/-- What a node is to the node around it, or to the program. -/
inductive Role where
  | expression (i : Nat)
  | argument (i : Nat)
  | value
  | element (i : Nat)
  | key (i : Nat)
  | entryValue (i : Nat)
  deriving DecidableEq

namespace Role

/-- The name of a role with its index, or without one. -/
def indexed (name : Text) (i : Nat) : Text := name ++ "[" ++ Text.ofNat i ++ "]"

/-- The role as text. -/
def name : Role → Text
  | expression i => indexed "expr" i
  | argument i => indexed "arg" i
  | value => "value"
  | element i => indexed "elem" i
  | key i => indexed "key" i
  | entryValue i => indexed "value" i

end Role

namespace Node

/-- The nodes directly inside a node, with their roles. -/
def children : Node → List (Role × Node)
  | missing | bare _ | literal .. => []
  | call _ _ args => args.zipIdx.map fun (a, i) => (.argument i, a)
  | moduleAttribute _ _ v => [(.value, v)]
  | collection _ _ es => es.zipIdx.map fun (e, i) => (.element i, e)
  | hashMap _ keys values =>
    (keys.zip values).zipIdx.flatMap fun ((k, v), i) => [(.key i, k), (.entryValue i, v)]

/-- The expressions of a program, with their roles. -/
def expressions (ns : List Node) : List (Role × Node) :=
  ns.zipIdx.map fun (n, i) => (.expression i, n)

/-- A node is larger than each node inside it. -/
theorem sizeOf_lt_of_mem_children {n child : Node} {role : Role}
    (h : (role, child) ∈ n.children) : sizeOf child < sizeOf n := by
  cases n with
  | missing => simp [children] at h
  | bare k => simp [children] at h
  | literal form k t => simp [children] at h
  | call k t args =>
    simp only [children, List.mem_map, Prod.exists, Prod.mk.injEq] at h
    obtain ⟨a, i, hmem, -, rfl⟩ := h
    have : sizeOf a < sizeOf args := List.sizeOf_lt_of_mem (List.fst_mem_of_mem_zipIdx hmem)
    simp only [call.sizeOf_spec]
    omega
  | moduleAttribute k t v =>
    simp only [children, List.mem_singleton, Prod.mk.injEq] at h
    obtain ⟨-, rfl⟩ := h
    simp only [moduleAttribute.sizeOf_spec]
    omega
  | collection shape k es =>
    simp only [children, List.mem_map, Prod.exists, Prod.mk.injEq] at h
    obtain ⟨e, i, hmem, -, rfl⟩ := h
    have : sizeOf e < sizeOf es := List.sizeOf_lt_of_mem (List.fst_mem_of_mem_zipIdx hmem)
    simp only [collection.sizeOf_spec]
    omega
  | hashMap k keys values =>
    simp only [children, List.mem_flatMap, Prod.exists, List.mem_cons, Prod.mk.injEq,
      List.not_mem_nil, or_false] at h
    obtain ⟨a, b, i, hmem, h⟩ := h
    have hzip : a ∈ keys ∧ b ∈ values := List.of_mem_zip (List.fst_mem_of_mem_zipIdx hmem)
    have hkey := List.sizeOf_lt_of_mem hzip.1
    have hvalue := List.sizeOf_lt_of_mem hzip.2
    simp only [hashMap.sizeOf_spec]
    rcases h with ⟨-, rfl⟩ | ⟨-, rfl⟩ <;> omega

/-- Every node has a property that passes from its children to the node. -/
theorem children_induction {motive : Node → Prop}
    (step : ∀ n : Node, (∀ role child, (role, child) ∈ n.children → motive child) → motive n)
    (n : Node) : motive n :=
  step n fun _ child h =>
    have := sizeOf_lt_of_mem_children h
    children_induction step child
termination_by sizeOf n

/-- The nodes of a term, each before the nodes inside it. -/
def subterms (n : Node) : List Node :=
  n :: n.children.attach.flatMap fun ⟨(_, child), _⟩ => child.subterms
termination_by sizeOf n
decreasing_by exact sizeOf_lt_of_mem_children ‹_›

/-- The nodes of a term are the term and the nodes of its children. -/
theorem subterms_eq (n : Node) : n.subterms = n :: n.children.flatMap (·.2.subterms) := by
  rw [subterms, List.flatMap_subtype fun _ _ => rfl, List.unattach_attach]

/-! ## Nodes without their roles -/

/-- The nodes directly inside a node. -/
def parts (n : Node) : List Node := n.children.map (·.2)

/-- Indices can be left out again. -/
theorem map_snd_map_zipIdx {α β : Type} (role : Nat → β) (as : List α) :
    (as.zipIdx.map fun (a, i) => (role i, a)).map (·.2) = as := by
  rw [List.map_map]
  exact List.zipIdx_map_fst 0 as

@[simp] theorem parts_missing : missing.parts = [] := rfl

@[simp] theorem parts_bare (k : Kind) : (bare k).parts = [] := rfl

@[simp] theorem parts_literal (form : Form) (k : Kind) (t : Token) :
    (literal form k t).parts = [] := rfl

@[simp] theorem parts_call (k : Kind) (t : Token) (args : List Node) :
    (call k t args).parts = args := map_snd_map_zipIdx _ args

@[simp] theorem parts_moduleAttribute (k : Kind) (t : Token) (v : Node) :
    (moduleAttribute k t v).parts = [v] := rfl

@[simp] theorem parts_collection (shape : Shape) (k : Kind) (es : List Node) :
    (collection shape k es).parts = es := map_snd_map_zipIdx _ es

/-- The nodes of a map are its keys, each with its value behind it. -/
@[simp] theorem parts_hashMap (k : Kind) (keys values : List Node) :
    (hashMap k keys values).parts = (keys.zip values).flatMap fun entry => [entry.1, entry.2] := by
  have hentries : keys.zip values = ((keys.zip values).zipIdx).map (·.1) :=
    (List.zipIdx_map_fst 0 _).symm
  rw [hentries, List.flatMap_map, parts, children, List.map_flatMap]
  rfl

@[simp] theorem map_snd_expressions (ns : List Node) : (expressions ns).map (·.2) = ns :=
  map_snd_map_zipIdx _ ns

/-- What holds of a node and of all nodes of its parts holds of all nodes of the term. -/
theorem forall_subterms_iff {p : Node → Prop} (n : Node) :
    (∀ m ∈ n.subterms, p m) ↔ p n ∧ ∀ part ∈ n.parts, ∀ m ∈ part.subterms, p m := by
  rw [subterms_eq, List.forall_mem_cons, List.forall_mem_flatMap, parts, List.forall_mem_map]

end Node

end ElixirTerms
