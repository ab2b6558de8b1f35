/-
# The grammar of expressions

What a list of significant tokens may be, said without a reader: expressions nest inside brackets
and attributes, elements and entries are separated by commas, and an entry of a map is a keyword
with a colon or two expressions with an arrow.
-/
import Mathlib.Tactic.SplitIfs
import ElixirTerms.Program

namespace ElixirTerms.Grammar

open Expression

/-! ## Rows -/

/-- Lists of tokens in order, with one comma between neighbours and none at the end. -/
inductive CommaJoined : List (List Token) → List Token → Prop where
  | none : CommaJoined [] []
  | one (ts : List Token) : CommaJoined [ts] ts
  | more {ts us : List Token} {comma : Token} {segments : List (List Token)} :
      comma.kind = .comma → segments ≠ [] → CommaJoined segments us →
      CommaJoined (ts :: segments) (ts ++ comma :: us)

/-! ## Expressions and entries -/

/-- What tokens may stand for: an expression, or an entry of a map. -/
inductive Phrase where
  | expression (n : Node)
  | entry (key value : Node)

/-- The bracket that opens a collection. -/
def opener : Node.Shape → Text
  | .list => ['[']
  | .tuple => ['\x7b']

/-- The bracket that closes a collection. -/
def closer : Node.Shape → Text
  | .list => [']']
  | .tuple => ['\x7d']

/-- A name before the colon of an entry: an identifier, a boolean, a string, or an atom that has no
colon of its own. -/
def IsKey (t : Token) : Prop :=
  t.kind = .identifier ∨ t.kind = .boolean ∨ t.kind = .string ∨
    (t.kind = .atom ∧ t.lexeme.head? ≠ some ':')

/-- The kinds of tokens that are expressions by themselves, each with the form and the kind of the
node that it is. -/
inductive IsLiteral : Token.Kind → Node.Form → Node.Kind → Prop where
  | number : IsLiteral .number .number .number
  | boolean : IsLiteral .boolean .boolean .boolean
  | atom : IsLiteral .atom .atom .atom
  | string : IsLiteral .string .string .string
  | charlist : IsLiteral .charlist .charlist .charlist

/-- The tokens of a phrase.  A row of arguments, elements or entries is given by its parts, each a
list of tokens with what it stands for. -/
inductive Derives : Phrase → List Token → Prop where
  | moduleAttribute {sign name : Token} {v : Node} {ts : List Token} :
      sign.kind = .atSign → name.kind = .identifier → Derives (.expression v) ts →
      Derives (.expression (.moduleAttribute .moduleAttribute name v)) (sign :: name :: ts)
  | call {identifier dot opening closing : Token} {parts : List (List Token × Node)}
      {ts : List Token} :
      identifier.kind = .identifier → dot.kind = .dot → dot.lexeme = ['.'] →
      opening.isDelimiter ['('] = true → closing.isDelimiter [')'] = true →
      (∀ part ∈ parts, Derives (.expression part.2) part.1) →
      CommaJoined (parts.map (·.1)) ts →
      Derives (.expression (.call .anonCall identifier (parts.map (·.2))))
        (identifier :: dot :: opening :: (ts ++ [closing]))
  | literal {t : Token} {form : Node.Form} {kind : Node.Kind} :
      IsLiteral t.kind form kind → Derives (.expression (.literal form kind t)) [t]
  | collection {shape : Node.Shape} {opening closing : Token} {parts : List (List Token × Node)}
      {ts : List Token} :
      opening.isDelimiter (opener shape) = true → closing.isDelimiter (closer shape) = true →
      (∀ part ∈ parts, Derives (.expression part.2) part.1) →
      CommaJoined (parts.map (·.1)) ts →
      Derives (.expression (.collection shape shape.kind (parts.map (·.2))))
        (opening :: (ts ++ [closing]))
  | hashMap {sign opening closing : Token} {parts : List (List Token × Node × Node)}
      {ts : List Token} :
      sign.isDelimiter ['%'] = true → opening.isDelimiter ['\x7b'] = true →
      closing.isDelimiter ['\x7d'] = true →
      (∀ part ∈ parts, Derives (.entry part.2.1 part.2.2) part.1) →
      CommaJoined (parts.map (·.1)) ts →
      Derives
        (.expression (.hashMap .hashMap (parts.map (·.2.1)) (parts.map (·.2.2))))
        (sign :: opening :: (ts ++ [closing]))
  | keyword {name colon : Token} {v : Node} {ts : List Token} :
      IsKey name → colon.isOperator [':'] = true → Derives (.expression v) ts →
      Derives (.entry (.literal .atom .atom ⟨.atom, ':' :: name.lexeme, name.position⟩) v)
        (name :: colon :: ts)
  | arrow {k v : Node} {arrow : Token} {ts us : List Token} :
      Derives (.expression k) ts → arrow.isOperator ['=', '>'] = true →
      Derives (.expression v) us → Derives (.entry k v) (ts ++ arrow :: us)

/-- The tokens of a program: those of its expressions, one after the other. -/
inductive DerivesAll : List Node → List Token → Prop where
  | nil : DerivesAll [] []
  | cons {n : Node} {ns : List Node} {ts us : List Token} :
      Derives (.expression n) ts → DerivesAll ns us → DerivesAll (n :: ns) (ts ++ us)

/-! ## Literals and keys -/

/-- The kinds of tokens that are expressions by themselves. -/
def literalKinds : List Token.Kind := [.number, .boolean, .atom, .string, .charlist]

/-- A literal is of one of these kinds. -/
theorem IsLiteral.mem_literalKinds {k : Token.Kind} {form : Node.Form} {kind : Node.Kind}
    (h : IsLiteral k form kind) : k ∈ literalKinds := by
  cases h <;> decide

/-- The names before a colon are the keyword keys of the reader. -/
theorem isKeywordKey_iff (t : Token) : t.isKeywordKey = true ↔ IsKey t := by
  unfold Token.isKeywordKey IsKey
  cases h : t.kind <;> simp

/-- The node of a keyword entry is the one that its name makes. -/
theorem Derives.ofKeywordKey {name colon : Token} {v : Node} {ts : List Token} (hname : IsKey name)
    (hcolon : colon.isOperator [':'] = true) (hv : Derives (.expression v) ts) :
    Derives (.entry (keywordKey name) v) (name :: colon :: ts) :=
  .keyword hname hcolon hv

/-- A phrase has at least one token. -/
theorem Derives.ne_nil {φ : Phrase} {ts : List Token} (h : Derives φ ts) : ts ≠ [] := by
  cases h <;> simp

/-! ## All tokens -/

/-- A token of a row is a comma or a token of one of its parts. -/
theorem CommaJoined.mem {segments : List (List Token)} {ts : List Token}
    (h : CommaJoined segments ts) {t : Token} (ht : t ∈ ts) :
    t.kind = .comma ∨ ∃ segment ∈ segments, t ∈ segment := by
  induction h with
  | none => cases ht
  | one ts => exact Or.inr ⟨ts, List.mem_singleton_self ts, ht⟩
  | @more ts us comma segments hcomma _ _ ih =>
      rcases List.mem_append.1 ht with ht | ht
      · exact Or.inr ⟨ts, List.mem_cons_self, ht⟩
      rcases List.mem_cons.1 ht with rfl | ht
      · exact Or.inl hcomma
      · rcases ih ht with hkind | ⟨segment, hmem, hsegment⟩
        · exact Or.inl hkind
        · exact Or.inr ⟨segment, List.mem_cons_of_mem ts hmem, hsegment⟩

/-- The tokens of the parts of a row are tokens of the row. -/
theorem CommaJoined.mem_of_mem {segments : List (List Token)} {ts : List Token}
    (h : CommaJoined segments ts) {segment : List Token} (hsegment : segment ∈ segments) {t : Token}
    (ht : t ∈ segment) : t ∈ ts := by
  induction h with
  | none => cases hsegment
  | one ts => exact List.mem_singleton.1 hsegment ▸ ht
  | more _ _ _ ih =>
      rcases List.mem_cons.1 hsegment with rfl | hsegment
      · exact List.mem_append_left _ ht
      · exact List.mem_append_right _ (List.mem_cons_of_mem _ (ih hsegment))

/-- What holds of the tokens of a row holds of those of its parts. -/
theorem CommaJoined.forall_part {α : Type} {p : Token → Prop} {parts : List (List Token × α)}
    {ts : List Token} (h : CommaJoined (parts.map (·.1)) ts) (hall : ∀ t ∈ ts, p t) :
    ∀ part ∈ parts, ∀ t ∈ part.1, p t :=
  fun _ hpart t ht => hall t (h.mem_of_mem (List.mem_map_of_mem hpart) ht)

/-- What holds of commas and of the tokens of the parts of a row holds of those of the row. -/
theorem CommaJoined.forall_mem {α : Type} {p : Token → Prop} {parts : List (List Token × α)}
    {ts : List Token} (h : CommaJoined (parts.map (·.1)) ts)
    (hcomma : ∀ t : Token, t.kind = .comma → p t) (hparts : ∀ part ∈ parts, ∀ t ∈ part.1, p t) :
    ∀ t ∈ ts, p t := by
  intro t ht
  rcases h.mem ht with hkind | ⟨segment, hsegment, ht⟩
  · exact hcomma t hkind
  · obtain ⟨part, hpart, rfl⟩ := List.mem_map.1 hsegment
    exact hparts part hpart t ht

/-- The kinds that the grammar names. -/
def kinds : List Token.Kind :=
  [.atSign, .comma, .dot, .delimiter, .operator, .atom, .boolean, .number, .string, .charlist,
   .identifier]

/-- The tokens of a phrase are of kinds that the grammar names. -/
theorem Derives.kind_mem {φ : Phrase} {ts : List Token} (h : Derives φ ts) :
    ∀ t ∈ ts, t.kind ∈ kinds := by
  have hcomma (t : Token) (h : t.kind = .comma) : t.kind ∈ kinds := by rw [h]; decide
  have hdelimiter {t : Token} {lexeme : Text} (h : t.isDelimiter lexeme = true) :
      t.kind ∈ kinds := by
    simp only [Token.isDelimiter, decide_eq_true_eq] at h
    rw [h.1]
    decide
  have hoperator {t : Token} {lexeme : Text} (h : t.isOperator lexeme = true) :
      t.kind ∈ kinds := by
    simp only [Token.isOperator, decide_eq_true_eq] at h
    rw [h.1]
    decide
  induction h with
  | moduleAttribute hsign hname _ ih =>
      simp only [List.forall_mem_cons]
      exact ⟨by rw [hsign]; decide, by rw [hname]; decide, ih⟩
  | call hidentifier hdot _ hopening hclosing _ hjoined ih =>
      simp only [List.forall_mem_cons, List.forall_mem_append]
      exact ⟨by rw [hidentifier]; decide, by rw [hdot]; decide, hdelimiter hopening,
        hjoined.forall_mem hcomma ih, hdelimiter hclosing, nofun⟩
  | @literal t form kind hform =>
      rw [List.forall_mem_singleton]
      have hkinds : ∀ k ∈ literalKinds, k ∈ kinds := by decide
      exact hkinds _ hform.mem_literalKinds
  | collection hopening hclosing _ hjoined ih =>
      simp only [List.forall_mem_cons, List.forall_mem_append]
      exact ⟨hdelimiter hopening, hjoined.forall_mem hcomma ih, hdelimiter hclosing, nofun⟩
  | hashMap hsign hopening hclosing _ hjoined ih =>
      simp only [List.forall_mem_cons, List.forall_mem_append]
      exact ⟨hdelimiter hsign, hdelimiter hopening, hjoined.forall_mem hcomma ih,
        hdelimiter hclosing, nofun⟩
  | @keyword name _ _ _ hname hcolon _ ih =>
      simp only [List.forall_mem_cons]
      refine ⟨?_, hoperator hcolon, ih⟩
      rcases hname with hkind | hkind | hkind | ⟨hkind, -⟩ <;> rw [hkind] <;> decide
  | arrow _ harrow _ ihkey ihvalue =>
      simp only [List.forall_mem_append, List.forall_mem_cons]
      exact ⟨ihkey, hoperator harrow, ihvalue⟩

/-- The tokens of a program are of kinds that the grammar names. -/
theorem DerivesAll.kind_mem {ns : List Node} {ts : List Token} (h : DerivesAll ns ts) :
    ∀ t ∈ ts, t.kind ∈ kinds := by
  induction h with
  | nil => nofun
  | cons hn _ ih => exact List.forall_mem_append.2 ⟨hn.kind_mem, ih⟩

end ElixirTerms.Grammar
