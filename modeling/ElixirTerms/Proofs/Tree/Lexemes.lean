/-
# Lexemes of nodes

The nodes that are read off a text hold its lexemes: each node that has a lexeme has that of a token
that a text may start with, or of a name before a colon (`Node.Lexed`).  So what such a node shows
is known from its shape and from the kind of its token.
-/
import ElixirTerms.Proofs.Alone
import ElixirTerms.Proofs.Gist
import ElixirTerms.Proofs.Recovery.FirstError
import ElixirTerms.Proofs.Tree.Size

namespace ElixirTerms

open Grammar

/-- A node with a lexeme that a text may start with, as far as it has one; the lexeme of a keyword
is a name behind a colon. -/
inductive Node.Lexed : Node → Prop where
  | literal {form : Form} {kind : Kind} {t : Token} :
      t.Lexed → IsLiteral t.kind form kind → Lexed (.literal form kind t)
  | keyword {name : Token} (p : Position) :
      name.Lexed → IsKey name → Lexed (.literal .atom .atom ⟨.atom, ':' :: name.lexeme, p⟩)
  | call {kind : Kind} {t : Token} {args : List Node} :
      t.Lexed → t.kind = .identifier → Lexed (.call kind t args)
  | moduleAttribute {kind : Kind} {t : Token} {v : Node} :
      t.Lexed → t.kind = .identifier → Lexed (.moduleAttribute kind t v)
  | collection (shape : Shape) (kind : Kind) (es : List Node) : Lexed (.collection shape kind es)
  | hashMap (kind : Kind) (keys values : List Node) : Lexed (.hashMap kind keys values)

/-! ## What the grammar derives -/

namespace Grammar

open Node

/-- All nodes of a phrase hold lexemes that a text may start with. -/
def Phrase.Lexed : Phrase → Prop
  | .expression n => ∀ m ∈ n.subterms, m.Lexed
  | .entry k v => (∀ m ∈ k.subterms, m.Lexed) ∧ ∀ m ∈ v.subterms, m.Lexed

/-- What the grammar derives from tokens that a text may start with holds their lexemes. -/
theorem Derives.lexed {φ : Phrase} {ts : List Token} (h : Derives φ ts)
    (hlexed : ∀ t ∈ ts, t.Lexed) : φ.Lexed := by
  induction h with
  | @moduleAttribute sign name v ts _ hname _ ih =>
      simp only [List.forall_mem_cons] at hlexed
      rw [Phrase.Lexed, forall_subterms_iff, parts_moduleAttribute, List.forall_mem_singleton]
      exact ⟨.moduleAttribute hlexed.2.1 hname, ih hlexed.2.2⟩
  | @call identifier dot opening closing parts ts hidentifier _ _ _ _ _ hjoined ih =>
      simp only [List.forall_mem_cons, List.forall_mem_append] at hlexed
      rw [Phrase.Lexed, forall_subterms_iff, parts_call, List.forall_mem_map]
      refine ⟨.call hlexed.1 hidentifier, ?_⟩
      intro part hpart
      exact ih part hpart (hjoined.forall_part hlexed.2.2.2.1 part hpart)
  | @literal t form kind hform =>
      rw [Phrase.Lexed, forall_subterms_iff, parts_literal]
      exact ⟨.literal (hlexed t List.mem_cons_self) hform, nofun⟩
  | @collection shape opening closing parts ts _ _ _ hjoined ih =>
      simp only [List.forall_mem_cons, List.forall_mem_append] at hlexed
      rw [Phrase.Lexed, forall_subterms_iff, parts_collection, List.forall_mem_map]
      refine ⟨.collection shape _ _, ?_⟩
      intro part hpart
      exact ih part hpart (hjoined.forall_part hlexed.2.1 part hpart)
  | @hashMap sign opening closing parts ts _ _ _ _ hjoined ih =>
      simp only [List.forall_mem_cons, List.forall_mem_append] at hlexed
      rw [Phrase.Lexed, forall_subterms_iff, parts_hashMap, List.zip_map', List.forall_mem_flatMap,
        List.forall_mem_map]
      refine ⟨.hashMap _ _ _, ?_⟩
      intro part hpart
      simp only [List.forall_mem_cons, List.not_mem_nil, false_implies, implies_true, and_true]
      exact ih part hpart (hjoined.forall_part hlexed.2.2.1 part hpart)
  | @keyword name colon v ts hname _ _ ih =>
      simp only [List.forall_mem_cons] at hlexed
      refine ⟨?_, ih hlexed.2.2⟩
      rw [forall_subterms_iff, parts_literal]
      exact ⟨.keyword name.position hlexed.1 hname, nofun⟩
  | arrow _ _ _ ihkey ihvalue =>
      simp only [List.forall_mem_cons, List.forall_mem_append] at hlexed
      exact ⟨ihkey hlexed.1, ihvalue hlexed.2.2⟩

end Grammar

/-! ## What is read off a text -/

/-- The significant tokens of a text are tokens that a text may start with. -/
theorem Token.lexed_of_mem_significant {text : Text} {t : Token}
    (h : t ∈ Program.significant (lex text)) : t.Lexed := by
  have heof : t.kind ≠ .eof := by
    have hkind := (isSignificant_iff t).1 (Program.isSignificant_of_mem h)
    rintro he
    exact hkind (by simp [he])
  obtain ⟨u, c, s, hlexeme, hscan⟩ := exists_heads_of_mem (List.mem_filter.1 h).1 heof
  exact ⟨c, s, u, hlexeme, hscan⟩

namespace Program

variable {text : Text}

/-- The expressions that reading with recovery gives hold lexemes of the text. -/
theorem lexed_of_mem_parseAll {n : Node} (h : .ok n ∈ parseAll (Token.lex text)) :
    ∀ m ∈ n.subterms, m.Lexed := by
  obtain ⟨us, hus, hderives⟩ := exists_derives_of_mem_parseAll h
  exact hderives.lexed fun t ht => Token.lexed_of_mem_significant (hus ht)

/-- The expressions of a text that parses hold lexemes of the text. -/
theorem lexed_of_parseText {ns : List Node} (h : parseText text = .ok ns) :
    ∀ m ∈ Node.subtermsAll ns, m.Lexed := by
  rw [Node.subtermsAll, List.forall_mem_flatMap]
  intro n hn
  have hall : parseAll (Token.lex text) = ns.map .ok := parseAll_of_parse h
  exact lexed_of_mem_parseAll (hall ▸ List.mem_map_of_mem hn)

end Program

end ElixirTerms
