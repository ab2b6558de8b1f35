/-
# Nodes as JSON

A node becomes an object of its type, its parts and its source.  The parts are given where the
kind under which the node is announced is one of its shape; otherwise the kind alone is named.
What is missing becomes null.
-/
import ElixirTerms.Node.Source
import ElixirTerms.Token.Json

namespace ElixirTerms.Node

/-- An object for a node: its type, its parts, and last its source. -/
def jsonRecord (type : Text) (parts : List (String × Json)) (source : Text) : Json :=
  .record (("node_type", .string type) :: parts ++ [("source", .string source)])

/-- A node as JSON. -/
def toJson : Node → Json
  | missing => .null
  | bare k => jsonRecord k.name [] []
  | literal _ k t => jsonRecord k.typeName [("token", t.toJson)] t.lexeme
  | call k t args =>
    if k = .anonCall then
      jsonRecord "AnonCall"
        [("identifier", .string t.lexeme), ("arguments", .array (args.map toJson))]
        (source (.call k t args))
    else jsonRecord k.name [] (source (.call k t args))
  | moduleAttribute k t v =>
    if k = .moduleAttribute then
      jsonRecord "Attribute" [("identifier", .string t.lexeme), ("value", v.toJson)]
        (source (.moduleAttribute k t v))
    else jsonRecord k.name [] (source (.moduleAttribute k t v))
  | collection shape k es =>
    if k = .list ∨ k = .tuple then
      jsonRecord k.typeName [("elements", .array (es.map toJson))] (source (.collection shape k es))
    else jsonRecord k.name [] (source (.collection shape k es))
  | hashMap k keys values =>
    if k = .hashMap then
      jsonRecord "HashMap"
        [("entries", .array (List.zipWith
          (fun key value => .record [("key", key), ("value", value)])
          (keys.map toJson) (values.map toJson)))]
        (source (.hashMap k keys values))
    else jsonRecord k.name [] (source (.hashMap k keys values))

/-- The first fault in the order in which a node is made JSON: its parts come before its source. -/
def jsonFault? : Node → Option SourceFault
  | missing => none
  | bare _ => some .bare
  | literal .. => none
  | call k t args =>
    (if k = .anonCall then (args.map jsonFault?).findSome? id else none).or
      (sourceFault? (.call k t args))
  | moduleAttribute k t v =>
    (if k = .moduleAttribute then v.jsonFault? else none).or
      (sourceFault? (.moduleAttribute k t v))
  | collection shape k es =>
    (if k = .list ∨ k = .tuple then (es.map jsonFault?).findSome? id else none).or
      (sourceFault? (.collection shape k es))
  | hashMap k keys values =>
    (if k = .hashMap then
      (List.zipWith (·.or ·) (keys.map jsonFault?) (values.map jsonFault?)).findSome? id
    else none).or (sourceFault? (.hashMap k keys values))

/-- A node as JSON, if all the sources that it shows exist. -/
def toJson? (n : Node) : Except SourceFault Json := unlessFault n.jsonFault? n.toJson

end ElixirTerms.Node
