/-
# Outlines

An outline shows a term as a tree: one entry for each node, indented below the node around it and
labelled with its role.
-/
import ElixirTerms.Node.Children

namespace ElixirTerms

namespace Role

/-- How a child is labelled in an outline. -/
def outlineLabel : Role → Text
  | entryValue _ => "value: "
  | role => role.name ++ ": "

/-- How far a child is indented below its parent. -/
def outlineIndent : Role → Int
  | value => 2
  | entryValue _ => 6
  | _ => 4

end Role

namespace Node

/-- A name with something in parentheses. -/
def parenthesized (name shown : Text) : Text := name ++ "(" ++ shown ++ ")"

/-- What the entry of a node says about it. -/
def heading : Node → Text
  | missing => "None"
  | bare _ => "Unknown node type: <class 'ast_nodes.ASTNode'>"
  | literal .plain _ _ => "Unknown node type: <class 'ast_nodes.LiteralNode'>"
  | literal .atom _ t => parenthesized "Atom" t.lexeme
  | literal .boolean _ t => parenthesized "Boolean" t.lexeme
  | literal .number _ t => parenthesized "Number" t.lexeme
  | literal .string _ t => parenthesized "String" t.lexeme.quoted
  | literal .charlist _ t => parenthesized "Charlist" t.lexeme.quoted
  | call _ t _ => parenthesized "AnonCall" t.lexeme
  | moduleAttribute _ t _ => parenthesized "Attribute" ("@" ++ t.lexeme)
  | collection .list _ _ => "List"
  | collection .tuple _ _ => "Tuple"
  | hashMap .. => "HashMap"

/-- An indented and labelled entry; a negative indentation is none. -/
def outlineEntry (indent : Int) (label shown : Text) : Text :=
  List.replicate indent.toNat ' ' ++ label ++ shown

/-- The entries of an outline, the node's own first. -/
def outline (n : Node) (indent : Int) (label : Text) : List Text :=
  outlineEntry indent label n.heading ::
    n.children.attach.flatMap fun ⟨(role, child), _⟩ =>
      child.outline (indent + role.outlineIndent) role.outlineLabel
termination_by sizeOf n
decreasing_by exact sizeOf_lt_of_mem_children ‹_›

/-- An outline is the entry of the node over the outlines of its children. -/
theorem outline_eq (n : Node) (indent : Int) (label : Text) :
    n.outline indent label = outlineEntry indent label n.heading ::
      n.children.flatMap fun child =>
        child.2.outline (indent + child.1.outlineIndent) child.1.outlineLabel := by
  rw [outline, List.flatMap_subtype fun _ _ => rfl, List.unattach_attach]

/-- The outline of a node as text. -/
def outlineText (n : Node) (indent : Int) (label : Text) : Text :=
  Text.joinLines (n.outline indent label)

/-- The outline of a program: how many expressions it has, and the outline of each. -/
def programOutline (nodes : List Node) : Text :=
  Text.joinLines (("Program (" ++ Text.ofNat nodes.length ++ " expressions)") ::
    (expressions nodes).map fun (role, n) => n.outlineText role.outlineIndent role.outlineLabel)

end Node

end ElixirTerms
