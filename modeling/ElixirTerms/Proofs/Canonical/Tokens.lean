/-
# Tokens of canonical source

Canonical source puts a comma, a space, a closing bracket or a newline after each expression, and
every token but an alias with a dot at its end is found again before these.
-/
import ElixirTerms.Proofs.Canonical.Keys
import ElixirTerms.Proofs.Canonical.Source

namespace ElixirTerms

/-! ## Tokens of canonical source -/

namespace Token

open Extent Unicode Expression

/-- The characters that canonical source puts after an expression. -/
def edges : List Char := [',', ')', ']', '\x7d', ' ', '\n']

/-- A text that may come after an expression. -/
def Edge (u : Text) : Prop := ∀ d ∈ u.head?, d ∈ edges

/-- The end of the text may come after an expression. -/
theorem edge_nil : Edge [] := nofun

/-- What may come after an expression is told by its first character. -/
theorem edge_cons {d : Char} (h : d ∈ edges) (u : Text) : Edge (d :: u) := by
  intro e he
  cases he
  exact h

/-- Literals stop where an expression ends. -/
theorem Edge.stops {u : Text} (h : Edge u) {kind : Kind} (hkind : kind ∈ Grammar.literalKinds) :
    Stops kind u := by
  -- there are few edges and few kinds of literals, so all pairs are tried
  intro d hd
  have hstops : ∀ d ∈ edges, ∀ kind ∈ Grammar.literalKinds, goesOn kind d = false := by decide
  exact hstops d (h d hd) kind hkind

/-- Dots stop where an expression ends. -/
theorem Edge.stops_dot {u : Text} (h : Edge u) : Stops .dot u := by
  intro d hd
  have hstops : ∀ d ∈ edges, goesOn .dot d = false := by decide
  exact hstops d (h d hd)

/-- A token that a text may start with, taken from its place. -/
def Free (t : Token) : Prop := Lexed t ∧ t.unplaced = t

/-- The tokens of a gist are free. -/
theorem free_of_mem_gist {s : Text} {t : Token} (h : t ∈ gist s) : Free t := by
  refine ⟨(lexed_of_mem_gist h).1, ?_⟩
  obtain ⟨t, -, rfl⟩ := List.mem_map.1 h
  rfl

/-- Tokens of the kinds that the grammar names are significant and settled. -/
theorem settled_of_mem_kinds {t : Token} (h : t.kind ∈ Grammar.kinds) :
    t.isSignificant = true ∧ Settled t.kind := by
  have hall : ∀ kind ∈ Grammar.kinds,
      kind ∉ [Kind.whitespace, .comment, .eof] ∧ kind ≠ .char ∧ kind ≠ .illegal := by decide
  exact ⟨(isSignificant_iff t).2 (hall t.kind h).1, (hall t.kind h).2⟩

/-- A free token is found where it stops, unless it is an alias with a dot at its end. -/
theorem gist_free {t : Token} (hfree : Free t) (hkind : t.kind ∈ Grammar.kinds)
    (hdotted : ¬ Dotted t.kind t.lexeme) {u : Text} (hstops : Stops t.kind u) :
    gist (t.lexeme ++ u) = t :: gist u := by
  obtain ⟨hsignificant, hsettled⟩ := settled_of_mem_kinds hkind
  have hgist := gist_append hfree.1 hsignificant hsettled hdotted hstops
  rwa [hfree.2] at hgist

/-- A comma is found before everything. -/
theorem gist_comma (u : Text) : gist (',' :: ' ' :: u) = ⟨.comma, [','], .nowhere⟩ :: gist u := by
  have hspace : gist (' ' :: u) = gist u := gist_of_blank (by decide) u
  rw [← hspace]
  exact @gist_of_scan ',' [] (' ' :: u) .comma rfl (by decide) (by decide)

/-- The sign of an attribute is found before everything. -/
theorem gist_atSign (u : Text) : gist ('@' :: u) = ⟨.atSign, ['@'], .nowhere⟩ :: gist u :=
  @gist_of_scan '@' [] u .atSign rfl (by decide) (by decide)

/-- A delimiter is found before everything. -/
theorem gist_delimiter {d : Char} (h : d ∈ delimiters) (u : Text) :
    gist (d :: u) = ⟨.delimiter, [d], .nowhere⟩ :: gist u := by
  have hscan : ∀ d ∈ delimiters, isBlank d = false ∧ d ≠ '#' := by decide
  refine @gist_of_scan d [] u .delimiter ?_ (hscan d h).1 (hscan d h).2
  simp only [delimiters, List.mem_cons, List.not_mem_nil, or_false] at h
  rcases h with rfl | rfl | rfl | rfl | rfl | rfl | rfl <;> rfl

/-- A dot is found before a bracket. -/
theorem gist_dot (u : Text) :
    gist ('.' :: '(' :: u) = ⟨.dot, ['.'], .nowhere⟩ :: gist ('(' :: u) :=
  @gist_of_scan '.' [] ('(' :: u) .dot rfl (by decide) (by decide)

/-- A colon is found before a space. -/
theorem gist_colon (u : Text) :
    gist (':' :: ' ' :: u) = ⟨.operator, [':'], .nowhere⟩ :: gist u := by
  have hspace : gist (' ' :: u) = gist u := gist_of_blank (by decide) u
  rw [← hspace]
  exact @gist_of_scan ':' [] (' ' :: u) .operator rfl (by decide) (by decide)

/-- An arrow is found between spaces. -/
theorem gist_arrow (u : Text) :
    gist (' ' :: '=' :: '>' :: ' ' :: u) = ⟨.operator, ['=', '>'], .nowhere⟩ :: gist u := by
  have hspace (u : Text) : gist (' ' :: u) = gist u := gist_of_blank (by decide) u
  rw [hspace, ← hspace u]
  exact @gist_of_scan '=' ['>'] (' ' :: u) .operator rfl (by decide) (by decide)

end Token

end ElixirTerms
