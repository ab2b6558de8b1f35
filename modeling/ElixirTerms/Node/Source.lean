/-
# Canonical source

Every term has one canonical spelling: elements, arguments and entries are separated by a comma
and a space, and a map key that is an atom is written as a keyword.
-/
import ElixirTerms.Node.Basic

namespace ElixirTerms.Node

/-- A text between the brackets of a collection. -/
def Shape.enclose : Shape → Text → Text
  | .list, s => "[" ++ s ++ "]"
  | .tuple, s => "\x7b" ++ s ++ "\x7d"

/-- The name of an atom: its lexeme without a leading colon. -/
def atomName : Text → Text
  | ':' :: name => name
  | name => name

/-- How an entry of a map opens, for a key with a given source. -/
def keySource (key : Node) (source : Text) : Text :=
  match key with
  | .literal .atom _ t => atomName t.lexeme ++ ": "
  | _ => source ++ " => "

/-- The canonical source of a node; empty where the node has none. -/
def source : Node → Text
  | missing | bare _ => []
  | literal _ _ t => t.lexeme
  | call _ t args => t.lexeme ++ ".(" ++ Text.commaSeparated (args.map source) ++ ")"
  | moduleAttribute _ t v => "@" ++ t.lexeme ++ " " ++ v.source
  | collection shape _ es => shape.enclose (Text.commaSeparated (es.map source))
  | hashMap _ keys values =>
    "%\x7b" ++ Text.commaSeparated (List.zipWith (· ++ ·)
      (List.zipWith keySource keys (keys.map source)) (values.map source)) ++ "\x7d"

/-- The canonical source of a program: the source of each expression, on lines of its own. -/
def programSource (ns : List Node) : Text := Text.joinLines (ns.map source)

/-! ## Nodes without a source -/

/-- Why a node has no source. -/
inductive SourceFault where
  /-- A bare node stands where its source would be shown. -/
  | bare
  /-- Nothing stands where a source would be shown. -/
  | missing
  deriving DecidableEq

/-- The first fault in the order in which the source of a node is written. -/
def sourceFault? : Node → Option SourceFault
  | missing => some .missing
  | bare _ => some .bare
  | literal .. => none
  | call _ _ args => (args.map sourceFault?).findSome? id
  | moduleAttribute _ _ v => v.sourceFault?
  | collection _ _ es => (es.map sourceFault?).findSome? id
  | hashMap _ keys values =>
    (List.zipWith (·.or ·) (keys.map sourceFault?) (values.map sourceFault?)).findSome? id

/-- A result, unless there is a fault. -/
def unlessFault {α : Type} (fault? : Option SourceFault) (a : α) : Except SourceFault α :=
  match fault? with
  | some fault => .error fault
  | none => .ok a

/-- The canonical source of a node, if it has one. -/
def source? (n : Node) : Except SourceFault Text := unlessFault n.sourceFault? n.source

/-- The entries of a map; a key without a value, or a value without a key, makes none. -/
def entries : Node → List (Node × Node)
  | hashMap _ keys values => keys.zip values
  | _ => []

end ElixirTerms.Node
