/-
# Shapes that canonical source does not keep

The canonical source of a term is read as the same term, but for four shapes: map keys that are
aliases, that are single-quoted atoms, or whose names start with a digit of ASCII, and aliases with
a dot at their end.  A term in which none of these occurs is faithful.
-/
import ElixirTerms.Node.Children
import ElixirTerms.Proofs.Boundary.Cut

namespace ElixirTerms.Node

/-! ## The four shapes -/

/-- The lexeme of an atom. -/
def atomLexeme? : Node → Option Text
  | literal .atom _ t => some t.lexeme
  | _ => none

/-- An atom without a colon of its own, as a map key. -/
def IsAliasKey (key : Node) : Prop := ∃ s ∈ key.atomLexeme?, s.head? ≠ some ':'

/-- An atom in single quotes, as a map key. -/
def IsSingleQuotedKey (key : Node) : Prop := ∃ s ∈ key.atomLexeme?, [':', '\''] <+: s

/-- An atom whose name starts with a digit of ASCII, as a map key. -/
def IsDigitKey (key : Node) : Prop :=
  ∃ s ∈ key.atomLexeme?, (atomName s).head?.any Char.isDigit = true

/-- An unquoted atom with a dot at its end. -/
def IsDottedAtom (n : Node) : Prop := ∃ s ∈ n.atomLexeme?, Extent.Dotted .atom s

/-- A map key that is of none of the shapes of keys that canonical source does not keep. -/
def FaithfulKey (key : Node) : Prop :=
  ¬ key.IsAliasKey ∧ ¬ key.IsSingleQuotedKey ∧ ¬ key.IsDigitKey

/-- None of the four shapes occurs in a node, at any depth. -/
def Faithful (n : Node) : Prop :=
  ∀ m ∈ n.subterms, ¬ m.IsDottedAtom ∧ ∀ entry ∈ m.entries, entry.1.FaithfulKey

/-! ## Faithful nodes by their shapes -/

/-- A node is faithful if it is by itself and its parts are. -/
theorem faithful_iff (n : Node) :
    n.Faithful ↔ (¬ n.IsDottedAtom ∧ ∀ entry ∈ n.entries, entry.1.FaithfulKey) ∧
      ∀ part ∈ n.parts, part.Faithful :=
  forall_subterms_iff n

/-- Only a literal is an atom. -/
theorem atomLexeme?_eq_some {n : Node} {s : Text} (h : n.atomLexeme? = some s) :
    ∃ kind t, n = .literal .atom kind t ∧ t.lexeme = s := by
  cases n with
  | literal form kind t =>
      cases form with
      | atom =>
          cases h
          exact ⟨kind, t, rfl, rfl⟩
      | plain | boolean | charlist | number | string => cases h
  | missing | bare _ | call _ _ _ | moduleAttribute _ _ _ | collection _ _ _ | hashMap _ _ _ =>
      cases h

/-- A literal is faithful if it is no alias with a dot at its end. -/
theorem faithful_literal (form : Form) (kind : Kind) (t : Token) :
    (literal form kind t).Faithful ↔ ¬ (literal form kind t).IsDottedAtom := by
  rw [faithful_iff]
  simp [entries]

/-- A call is faithful if its arguments are. -/
theorem faithful_call (kind : Kind) (t : Token) (args : List Node) :
    (call kind t args).Faithful ↔ ∀ a ∈ args, a.Faithful := by
  rw [faithful_iff, parts_call]
  simp [entries, IsDottedAtom, atomLexeme?]

/-- An attribute is faithful if its value is. -/
theorem faithful_moduleAttribute (kind : Kind) (t : Token) (v : Node) :
    (moduleAttribute kind t v).Faithful ↔ v.Faithful := by
  rw [faithful_iff, parts_moduleAttribute]
  simp [entries, IsDottedAtom, atomLexeme?]

/-- A collection is faithful if its elements are. -/
theorem faithful_collection (shape : Shape) (kind : Kind) (es : List Node) :
    (collection shape kind es).Faithful ↔ ∀ e ∈ es, e.Faithful := by
  rw [faithful_iff, parts_collection]
  simp [entries, IsDottedAtom, atomLexeme?]

/-- A map is faithful if its entries are. -/
theorem faithful_hashMap (kind : Kind) (keys values : List Node) :
    (hashMap kind keys values).Faithful ↔
      ∀ entry ∈ keys.zip values,
        entry.1.FaithfulKey ∧ entry.1.Faithful ∧ entry.2.Faithful := by
  rw [faithful_iff, parts_hashMap, List.forall_mem_flatMap]
  simp only [List.forall_mem_cons, List.not_mem_nil, false_implies, implies_true, and_true]
  simp only [entries, IsDottedAtom, atomLexeme?, Option.not_mem_none, false_and, exists_false,
    not_false_eq_true, true_and]
  constructor
  · rintro ⟨hkeys, hparts⟩ entry hentry
    exact ⟨hkeys entry hentry, hparts entry hentry⟩
  · intro h
    constructor
    · intro entry hentry
      exact (h entry hentry).1
    · intro entry hentry
      exact (h entry hentry).2

end ElixirTerms.Node
