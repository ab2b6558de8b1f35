/-
# Graphs of programs

A program is drawn as a graph with one vertex for the program and one for each node, numbered in
the order in which they are met.  The edge to a vertex follows everything drawn below it.
-/
import ElixirTerms.Node.Children

namespace ElixirTerms.Graph

/-- The vertices of a graph. -/
inductive Vertex where
  | program
  | node (number : Nat)
  deriving DecidableEq

/-- The statements that make up a graph. -/
inductive Statement where
  /-- The vertex that stands for a program of so many expressions. -/
  | program (count : Nat)
  /-- A vertex that stands for a node. -/
  | vertex (number : Nat) (n : Node)
  /-- An edge to a numbered vertex, with the role that it plays at the source. -/
  | edge (source : Vertex) (target : Nat) (role : Role)

/-- A way to draw something, given the next free number: the statements, and the next free number
after them. -/
abbrev Drawing := Nat → List Statement × Nat

/-- Draw the children of a vertex in order, and after each of them the edge to it. -/
def drawChildren (source : Vertex) : List (Role × Drawing) → Drawing
  | [], next => ([], next)
  | (role, draw) :: later, next =>
    let child := draw next
    let others := drawChildren source later child.2
    (child.1 ++ .edge source next role :: others.1, others.2)

/-- Draw a node and everything inside it. -/
def drawNode (n : Node) : Drawing := fun next =>
  let inside := drawChildren (.node next)
    (n.children.attach.map fun ⟨(role, child), _⟩ => (role, drawNode child)) (next + 1)
  (.vertex next n :: inside.1, inside.2)
termination_by sizeOf n
decreasing_by exact Node.sizeOf_lt_of_mem_children ‹_›

/-- The drawing of a node consists of its vertex and the drawings of its children. -/
theorem drawNode_eq (n : Node) (next : Nat) :
    drawNode n next =
      let inside := drawChildren (.node next)
        (n.children.map fun child => (child.1, drawNode child.2)) (next + 1)
      (.vertex next n :: inside.1, inside.2) := by
  rw [drawNode, List.map_subtype fun _ _ => rfl, List.unattach_attach]

/-- Draw a program and its expressions. -/
def ofProgram (ns : List Node) : List Statement :=
  .program ns.length ::
    (drawChildren .program ((Node.expressions ns).map fun (role, n) => (role, drawNode n)) 0).1

end ElixirTerms.Graph
