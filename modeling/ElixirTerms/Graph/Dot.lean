/-
# Graphs in the dot language
-/
import ElixirTerms.Graph.Basic
import ElixirTerms.Graph.Label

namespace ElixirTerms.Graph

/-- An identifier, between quotes unless it is a plain word. -/
def dotName (name : Text) : Text :=
  if name.all Char.isAlpha then name else "\"" ++ name ++ "\""

/-- The name of a vertex. -/
def Vertex.name : Vertex → Text
  | program => "program"
  | node number => 'n' :: Text.ofNat number

/-- A statement as it stands in the graph. -/
def Statement.dot : Statement → Text
  | program count =>
    Vertex.program.name ++ " [label=\"program (" ++ Text.ofNat count ++
      ")\" shape=box style=rounded]"
  | vertex number n => (Vertex.node number).name ++ " [label=" ++ label n ++ " shape=plaintext]"
  | edge source target role =>
    source.name ++ " -> " ++ (Vertex.node target).name ++ " [label=" ++ dotName role.name ++ "]"

/-- The graph of a program in the dot language. -/
def dot (ns : List Node) : Text :=
  "digraph \x7b\n\tgraph [rankdir=TB]\n" ++
    (ofProgram ns).flatMap (fun s => '\t' :: s.dot ++ ['\n']) ++
    "\x7d\n"

/-- The graph of a program in the dot language, if all its expressions have a source. -/
def dot? (ns : List Node) : Except Node.SourceFault Text :=
  Node.unlessFault (ns.findSome? Node.sourceFault?) (dot ns)

end ElixirTerms.Graph
