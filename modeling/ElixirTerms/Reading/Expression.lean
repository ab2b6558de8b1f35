/-
# Expressions

One expression is read off the head of a list of tokens.  Its first token decides what it is.  The
contents of brackets are cut into segments first, so an error in the brackets comes before any
error in an element, and each segment has to be one whole expression or one entry of a map.

Readers of composite terms are given the readers of their parts: `value` reads what follows an
attribute, `element` reads a segment.  `expression` ties the knot and counts how much room for
nesting is left.
-/
import ElixirTerms.Node.Basic
import ElixirTerms.Reading.Segment

namespace ElixirTerms.Expression

/-- A way to read all the tokens of a segment as one node. -/
abbrev Element := List Token → Except ParseError Node

/-- Read all the tokens of a segment with a reader. -/
def whole (read : Reader Node) : Element := fun segment =>
  match read segment.getLast? segment with
  | .done n [] => .ok n
  | .done _ (t :: _) => .error (.unrecognized .endOfExpression t)
  | .fail e _ => .error e

/-- The form and the kind of the literal that a single token of a kind makes. -/
def literalForm? : Token.Kind → Option (Node.Form × Node.Kind)
  | .number => some (.number, .number)
  | .boolean => some (.boolean, .boolean)
  | .atom => some (.atom, .atom)
  | .string => some (.string, .string)
  | .charlist => some (.charlist, .charlist)
  | _ => none

/-- Read the contents of brackets and make a node of the segments. -/
def enclosed (closer : Text) (make : List (List Token) → Except ParseError Node) : Reader Node :=
  fun last ts => (Segment.row closer last ts).build make

/-- Read a module attribute: the sign, a name and a value. -/
def moduleAttribute (value : Reader Node) : Reader Node
  | last, _ :: name :: rest =>
    if name.kind = .identifier then
      (value last rest).map (.moduleAttribute .moduleAttribute name)
    else .fail (.unrecognized .attributeName name) rest
  | last, _ => .fail (.unexpectedEnd .current last) []

/-- Read a call: the name of a function, a dot, and arguments in parentheses. -/
def call (element : Element) : Reader Node
  | last, identifier :: _ :: opening :: rest =>
    if opening.isDelimiter ['('] then
      enclosed [')'] (fun segments => (segments.mapM element).map (.call .anonCall identifier))
        last rest
    else .fail (.unrecognized (.delimiter ['(']) opening) rest
  | last, _ => .fail (.unexpectedEnd .current last) []

/-- A single dot, as it stands in a call. -/
def isCallDot (t : Token) : Bool := t.kind = .dot ∧ t.lexeme = ['.']

/-- Read what starts with an identifier, which is a call or nothing. -/
def identified (element : Element) : Reader Node
  | last, [] => .fail (.unexpectedEnd .next last) []
  | last, t :: rest =>
    if rest.head?.any isCallDot then call element last (t :: rest)
    else .fail (.unrecognized .expression t) (t :: rest)

/-! ## Maps -/

/-- The key of a keyword entry: an atom with the name that stands before the colon. -/
def keywordKey (name : Token) : Node :=
  .literal .atom .atom ⟨.atom, ':' :: name.lexeme, name.position⟩

/-- Read a segment that begins with `first` as a key, an arrow and a value. -/
def arrowEntry (element : Element) (first : Token) (segment : List Token) :
    Except ParseError (Node × Node) :=
  match Segment.topLevelIndex? (·.isOperator ['=', '>']) 0 segment with
  | none => .error (.unrecognized .mapEntry first)
  | some i =>
    let key := segment.take i
    let value := segment.drop (i + 1)
    if key = [] ∨ value = [] then .error (.emptyScan segment[i]?)
    else do return (← element key, ← element value)

/-- Read a segment as an entry of a map: a keyword, a colon and a value, or an arrow entry. -/
def mapEntry (element : Element) : List Token → Except ParseError (Node × Node)
  | [] => .error .outOfRange
  | [only] => arrowEntry element only [only]
  | first :: second :: value =>
    if first.isKeywordKey && second.isOperator [':'] then
      if value = [] then .error (.emptyScan second)
      else (element value).map (keywordKey first, ·)
    else arrowEntry element first (first :: second :: value)

/-- A map with given entries. -/
def mapOfEntries (entries : List (Node × Node)) : Node :=
  .hashMap .hashMap (entries.map (·.1)) (entries.map (·.2))

/-- Read a map: the percent sign, and entries in braces. -/
def hashMap (element : Element) : Reader Node
  | last, _ :: opening :: rest =>
    if opening.isDelimiter ['\x7b'] then
      enclosed ['\x7d'] (fun segments => (segments.mapM (mapEntry element)).map mapOfEntries)
        last rest
    else .fail (.unrecognized (.delimiter ['\x7b']) opening) rest
  | last, _ => .fail (.unexpectedEnd .current last) []

/-! ## Dispatch -/

/-- Read a row of elements that is a collection of a given shape. -/
def elements (shape : Node.Shape) (closer : Text) (element : Element) : Reader Node :=
  enclosed closer fun segments => (segments.mapM element).map (.collection shape shape.kind)

/-- Read what starts with a delimiter: a list, a tuple, a map or nothing. -/
def delimited (element : Element) : Reader Node
  | last, [] => .fail (.unexpectedEnd .next last) []
  | last, t :: rest =>
    if t.lexeme = ['['] then elements .list [']'] element last rest
    else if t.lexeme = ['\x7b'] then elements .tuple ['\x7d'] element last rest
    else if t.lexeme = ['%'] then hashMap element last (t :: rest)
    else .fail (.unrecognized .expression t) (t :: rest)

/-- Read an expression with given readers of its parts. -/
def term (value : Reader Node) (element : Element) : Reader Node
  | last, [] => .fail (.unexpectedEnd .next last) []
  | last, t :: rest =>
    match t.kind with
    | .atSign => moduleAttribute value last (t :: rest)
    | .identifier => identified element last (t :: rest)
    | .delimiter => delimited element last (t :: rest)
    | k =>
      match literalForm? k with
      | some (form, kind) => .done (.literal form kind t) rest
      | none => .fail (.unrecognized .expression t) (t :: rest)

/-! ## Nesting -/

/-- Read an expression with room for nesting.  The value of an attribute has one less, an element
of brackets three less. -/
def expression : Nat → Reader Node
  | 0 => fun _ ts => .fail .nestingTooDeep ts
  | room + 1 =>
    term (expression room)
      (match room with
        | inner + 2 => whole (expression inner)
        | _ => fun _ => .error .nestingTooDeep)

/-- The nesting that an expression may have. -/
def nestingLimit : Nat := 500

/-- Read an expression that stands inside nothing. -/
def top : Reader Node := expression (nestingLimit + 1)

/-- Read the value of an attribute that stands inside nothing. -/
def topValue : Reader Node := expression nestingLimit

/-- Read an element of brackets that stand inside nothing. -/
def topElement : Element := whole (expression (nestingLimit - 2))

end ElixirTerms.Expression
