/-
# Labels of vertices

A vertex shows the kind of its node over the node's source.  The source is cut short when it is
long, and written so that the markup around it cannot be confused with it.
-/
import ElixirTerms.Node.Source
import ElixirTerms.Unicode.Blank

namespace ElixirTerms.Graph

/-- The most characters of source that a label shows. -/
def maxLabelLength : Nat := 40

/-- A text cut to the most that a label shows, with dots in the place of what is left out. -/
def elide (s : Text) : Text :=
  if s.length ≤ maxLabelLength then s else s.take (maxLabelLength - 3) ++ "..."

/-- A character as markup that shows it. -/
def markupChar : Char → Text
  | '&' => "&amp;"
  | '<' => "&lt;"
  | '>' => "&gt;"
  | '"' => "&quot;"
  | '\'' => "&#x27;"
  | '\n' => "<br/>"
  | c => [c]

/-- A text as markup that shows it. -/
def markup (s : Text) : Text := s.flatMap markupChar

/-- The markup of a source in a label; what would show nothing is a hard space. -/
def labelSource (source : Text) : Text :=
  let shown := markup (elide source)
  if shown.all Unicode.isBlank then "&nbsp;" else shown

/-- The name of the kind under which a node is announced. -/
def kindName (n : Node) : Text := (n.kind?.map Node.Kind.name).getD []

/-- The label of a node: a table of two rows. -/
def label (n : Node) : Text :=
  "<<TABLE BORDER=\"0\" CELLBORDER=\"1\" CELLSPACING=\"0\"><TR><TD><B>" ++ kindName n ++
    "</B></TD></TR><TR><TD><FONT POINT-SIZE=\"10\">" ++ labelSource n.source ++
    "</FONT></TD></TR></TABLE>>"

end ElixirTerms.Graph
