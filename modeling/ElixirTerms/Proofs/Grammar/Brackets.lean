/-
# Expressions in brackets

Lists and tuples, maps, and calls begin with some tokens up to an opening bracket.  What follows
these is read alike in all of them: a row of segments up to the closing bracket, each segment an
item, and a node of all items (`Opens.term_eq`).
-/
import ElixirTerms.Proofs.Grammar.Complete

namespace ElixirTerms.Grammar

open Expression Segment

/-- How brackets are read: the bracket that closes them, the reading of a segment as an item, and
the node of all items. -/
structure Brackets where
  Item : Type
  closer : Text
  item : List Token → Except ParseError Item
  node : List Item → Node

namespace Brackets

/-- The brackets of a list or a tuple, with expressions in them. -/
def collection (element : Element) (shape : Node.Shape) : Brackets :=
  ⟨Node, Grammar.closer shape, element, .collection shape shape.kind⟩

/-- The brackets of a map, with entries in them. -/
def hashMap (element : Element) : Brackets :=
  ⟨Node × Node, ['\x7d'], mapEntry element, mapOfEntries⟩

/-- The brackets of a call, with expressions in them. -/
def call (element : Element) (identifier : Token) : Brackets :=
  ⟨Node, [')'], element, .call .anonCall identifier⟩

/-- Read segments up to the first that is no item. -/
def read (brackets : Brackets) (segments : List (List Token)) : Except ParseError Node :=
  (segments.mapM brackets.item).map brackets.node

end Brackets

/-- The tokens before the contents of brackets. -/
inductive Opens (element : Element) : List Token → Brackets → Prop where
  | collection (shape : Node.Shape) {opening : Token} :
      opening.isDelimiter (opener shape) = true →
      Opens element [opening] (.collection element shape)
  | hashMap {sign opening : Token} :
      sign.isDelimiter ['%'] = true → opening.isDelimiter ['\x7b'] = true →
      Opens element [sign, opening] (.hashMap element)
  | call {identifier dot opening : Token} :
      identifier.kind = .identifier → dot.kind = .dot → dot.lexeme = ['.'] →
      opening.isDelimiter ['('] = true →
      Opens element [identifier, dot, opening] (.call element identifier)

namespace Opens

variable {element : Element} {brackets : Brackets} {head : List Token}

theorem ne_nil (h : Opens element head brackets) : head ≠ [] := by
  cases h <;> simp

/-- What closes brackets is a closing bracket. -/
theorem isClosing (h : Opens element head brackets) : IsClosing brackets.closer := by
  cases h with
  | collection shape => exact isClosing_closer shape
  | hashMap => exact Or.inr (Or.inr rfl)
  | call => exact Or.inl rfl

/-- After the tokens that open brackets, the contents are read. -/
theorem term_eq (h : Opens element head brackets) (value : Reader Node) (last : Option Token)
    (ts : List Token) :
    term value element last (head ++ ts) = enclosed brackets.closer brackets.read last ts := by
  cases h with
  | collection shape ho =>
      simp only [Token.isDelimiter, decide_eq_true_eq] at ho
      cases shape <;> simp [term, ho, delimited, opener] <;> rfl
  | hashMap hs ho =>
      simp only [Token.isDelimiter, decide_eq_true_eq] at hs
      simp [term, hs, delimited, Expression.hashMap, ho]
      rfl
  | @call identifier dot opening hidentifier hkind hdot ho =>
      have hcallDot : isCallDot dot = true := by simp [isCallDot, hkind, hdot]
      simp [term, hidentifier, identified, hcallDot, Expression.call, ho]
      rfl

end Opens

end ElixirTerms.Grammar
