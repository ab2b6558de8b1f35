/-
# Only faithful terms are found again

A phrase that is derived from the head of the gist of its own canonical source is faithful, and
what follows is the gist of what came after it (`Derives.recovered`).  An alias with a dot at its
end would have been cut short, and an atom that was derived before an arrow cannot stand before the
colon that is written for it.
-/
import ElixirTerms.Proofs.Canonical.Written

namespace ElixirTerms.Grammar

open Token Extent Unicode Node

/-- Tokens at the head of the gist of the source of a phrase leave the gist of the rest, and the
phrase is faithful. -/
def Recovered (φ : Phrase) (ts : List Token) : Prop :=
  ∀ u us, Edge u → gist (φ.source ++ u) = ts ++ us → φ.Faithful ∧ gist u = us

/-! ## Tokens -/

/-- A token that is found where it stops, and where atoms stop, is no alias with a dot at its end,
and leaves the gist of the rest. -/
theorem gist_of_found {t : Token} (hfree : Free t) (hkind : t.kind ∈ kinds) {u : Text}
    (hatom : Stops .atom u) (hstops : Stops t.kind u) {us : List Token}
    (h : gist (t.lexeme ++ u) = t :: us) : ¬ Dotted t.kind t.lexeme ∧ gist u = us := by
  have hdotted := not_dotted_of_gist hfree.1 (settled_of_mem_kinds hkind).1 hatom
    (hfree.2.symm ▸ h)
  refine ⟨hdotted, ?_⟩
  rw [gist_free hfree hkind hdotted hstops] at h
  exact (List.cons.inj h).2

/-- A delimiter leaves the gist of the rest. -/
theorem gist_of_delimiter {d : Char} (hd : d ∈ delimiters) {t : Token} {u : Text}
    {us : List Token} (h : gist (d :: u) = t :: us) : gist u = us := by
  rw [gist_delimiter hd] at h
  exact (List.cons.inj h).2

/-! ## Rows -/

/-- A row at the head of the gist of the source of its parts leaves the gist of the rest, and its
parts are faithful. -/
theorem row_recovered {α : Type} {phrase : α → Phrase} {parts : List (List Token × α)}
    (h : ∀ part ∈ parts, Recovered (phrase part.2) part.1) {ts : List Token}
    (hjoined : CommaJoined (parts.map (·.1)) ts) {u : Text} (hu : Edge u) {us : List Token}
    (hgist : gist (Text.commaSeparated (parts.map fun part => (phrase part.2).source) ++ u) =
      ts ++ us) : (∀ part ∈ parts, (phrase part.2).Faithful) ∧ gist u = us := by
  induction parts generalizing ts with
  | nil =>
      cases hjoined
      exact ⟨List.forall_mem_nil _, hgist⟩
  | cons part parts ih =>
      obtain ⟨hpart, hparts⟩ := List.forall_mem_cons.1 h
      cases parts with
      | nil =>
          cases hjoined with
          | one =>
              obtain ⟨hfaithful, hrest⟩ :=
                hpart u us hu (by simpa [Text.commaSeparated] using hgist)
              exact ⟨List.forall_mem_singleton.2 hfaithful, hrest⟩
          | more _ hne _ => exact absurd rfl hne
      | cons next parts =>
          cases hjoined with
          | more _ _ hjoined =>
              rw [List.map_cons, Text.commaSeparated_cons _ (by simp), List.append_assoc,
                List.append_assoc, List.cons_append, List.cons_append] at hgist
              obtain ⟨hfaithful, hrest⟩ := hpart _ _ (edge_cons (by decide) _) hgist
              rw [gist_comma] at hrest
              obtain ⟨hfaithfuls, hlast⟩ := ih hparts hjoined (List.cons.inj hrest).2
              exact ⟨List.forall_mem_cons.2 ⟨hfaithful, hfaithfuls⟩, hlast⟩

/-! ## Expressions -/

/-- A literal that is found again is no alias with a dot at its end. -/
theorem recovered_literal {t : Token} {form : Node.Form} {kind : Node.Kind} (hfree : Free t)
    (hform : IsLiteral t.kind form kind) :
    Recovered (.expression (.literal form kind t)) [t] := by
  intro u us hu h
  have hkind := (Derives.literal hform).kind_mem t (List.mem_singleton_self t)
  rw [Phrase.source, source] at h
  have hatom : Stops .atom u := hu.stops (by decide)
  have hstops : Stops t.kind u := hu.stops hform.mem_literalKinds
  obtain ⟨hdotted, hrest⟩ := gist_of_found hfree hkind hatom hstops h
  exact ⟨(faithful_literal form kind t).2 (mt (isDottedAtom_literal hform).1 hdotted), hrest⟩

/-- An attribute that is found again has a value that is. -/
theorem recovered_moduleAttribute {sign name : Token} {v : Node} {ts : List Token}
    (hfree : Free name) (hname : name.kind = .identifier) (hv : Recovered (.expression v) ts) :
    Recovered (.expression (.moduleAttribute .moduleAttribute name v)) (sign :: name :: ts) := by
  intro u us hu h
  have hspace : gist (' ' :: (v.source ++ u)) = gist (v.source ++ u) :=
    gist_of_blank (by decide) _
  rw [Phrase.source, source_moduleAttribute, List.cons_append, List.append_assoc,
    List.cons_append, gist_atSign, gist_identifier hfree hname (by decide), hspace] at h
  obtain ⟨hfaithful, hrest⟩ := hv u us hu (List.cons.inj (List.cons.inj h).2).2
  exact ⟨(faithful_moduleAttribute _ _ _).2 hfaithful, hrest⟩

/-- A call that is found again has arguments that are. -/
theorem recovered_call {identifier dot opening closing : Token}
    {parts : List (List Token × Node)} {ts : List Token} (hfree : Free identifier)
    (hidentifier : identifier.kind = .identifier)
    (hparts : ∀ part ∈ parts, Recovered (.expression part.2) part.1)
    (hjoined : CommaJoined (parts.map (·.1)) ts) :
    Recovered (.expression (.call .anonCall identifier (parts.map (·.2))))
      (identifier :: dot :: opening :: (ts ++ [closing])) := by
  intro u us hu h
  rw [Phrase.source, source_call] at h
  simp only [List.append_assoc, List.cons_append, List.nil_append] at h
  rw [gist_identifier hfree hidentifier (by decide), gist_dot] at h
  have hrow := gist_of_delimiter (by decide) (List.cons.inj (List.cons.inj h).2).2
  rw [List.map_map] at hrow
  obtain ⟨hfaithful, hrest⟩ :=
    row_recovered hparts hjoined (edge_cons (d := ')') (by decide) u) hrow
  exact ⟨(faithful_call _ _ _).2 (List.forall_mem_map.2 hfaithful),
    gist_of_delimiter (by decide) hrest⟩

/-- A collection that is found again has elements that are. -/
theorem recovered_collection {shape : Node.Shape} {opening closing : Token}
    {parts : List (List Token × Node)} {ts : List Token}
    (hparts : ∀ part ∈ parts, Recovered (.expression part.2) part.1)
    (hjoined : CommaJoined (parts.map (·.1)) ts) :
    Recovered (.expression (.collection shape shape.kind (parts.map (·.2))))
      (opening :: (ts ++ [closing])) := by
  intro u us hu h
  obtain ⟨d, e, hopener, hcloser, hd, he, hedge⟩ := brackets shape
  rw [Phrase.source, source_collection, hopener, hcloser] at h
  simp only [List.append_assoc, List.cons_append, List.nil_append] at h
  have hrow := gist_of_delimiter hd h
  rw [List.map_map] at hrow
  obtain ⟨hfaithful, hrest⟩ := row_recovered hparts hjoined (edge_cons hedge u) hrow
  exact ⟨(faithful_collection _ _ _).2 (List.forall_mem_map.2 hfaithful),
    gist_of_delimiter he hrest⟩

/-- A map that is found again has entries that are. -/
theorem recovered_hashMap {sign opening closing : Token}
    {parts : List (List Token × Node × Node)} {ts : List Token}
    (hparts : ∀ part ∈ parts, Recovered (.entry part.2.1 part.2.2) part.1)
    (hjoined : CommaJoined (parts.map (·.1)) ts) :
    Recovered (.expression (.hashMap .hashMap (parts.map (·.2.1)) (parts.map (·.2.2))))
      (sign :: opening :: (ts ++ [closing])) := by
  intro u us hu h
  rw [Phrase.source, source_hashMap_map] at h
  simp only [List.append_assoc, List.cons_append, List.nil_append] at h
  have hrow := gist_of_delimiter (by decide) (gist_of_delimiter (by decide) h)
  obtain ⟨hfaithful, hrest⟩ := @row_recovered (Node × Node) (fun entry => .entry entry.1 entry.2)
    parts hparts ts hjoined _ (edge_cons (by decide) u) _ hrow
  exact ⟨(faithful_hashMap_map _ _ _ parts).2 hfaithful, gist_of_delimiter (by decide) hrest⟩

/-! ## Entries -/

/-- Atoms stop before a colon. -/
theorem stops_atom_colon (u : Text) : Stops .atom (':' :: u) :=
  (stops_cons .atom ':' u).2 (by decide)

/-- The key of a keyword is of none of the shapes that are not kept. -/
theorem faithfulKey_of_isKey {name : Token} (hfree : Free name) (hkey : IsKey name) (p : Position) :
    (literal .atom .atom ⟨.atom, ':' :: name.lexeme, p⟩).FaithfulKey := by
  obtain ⟨c, s, hlexeme, hdigit, hquote, -⟩ := head_of_isKey hfree.1 hkey
  refine ⟨?_, ?_, ?_⟩
  · rintro ⟨_, ⟨⟩, halias⟩
    exact halias rfl
  · rintro ⟨_, ⟨⟩, hquoted⟩
    rw [hlexeme] at hquoted
    simp only [List.cons_prefix_cons, List.nil_prefix, true_and, and_true] at hquoted
    exact hquote hquoted.symm
  · rintro ⟨_, ⟨⟩, hnumber⟩
    rw [atomName, hlexeme] at hnumber
    rw [show c.isDigit = true from hnumber] at hdigit
    cases hdigit

/-- A keyword that is found again is faithful if its value is. -/
theorem recovered_keyword {name colon : Token} {v : Node} {ts : List Token} (hfree : Free name)
    (hkey : IsKey name) (hv : Recovered (.expression v) ts) :
    Recovered (.entry (.literal .atom .atom ⟨.atom, ':' :: name.lexeme, name.position⟩) v)
      (name :: colon :: ts) := by
  intro u us hu h
  rw [source_entry_of_atom rfl, atomName, List.append_assoc, List.cons_append,
    List.cons_append] at h
  obtain ⟨hdotted, hcolon⟩ := gist_of_found hfree (kind_mem_of_isKey hkey) (stops_atom_colon _)
    (stops_of_isKey hkey _) h
  rw [gist_colon] at hcolon
  obtain ⟨hfaithful, hrest⟩ := hv u us hu (List.cons.inj hcolon).2
  refine ⟨⟨faithfulKey_of_isKey hfree hkey _, ?_, hfaithful⟩, hrest⟩
  rw [faithful_literal]
  rintro ⟨_, ⟨⟩, hkeyDotted⟩
  exact hdotted ((dotted_name_iff hfree.1 hkey).1 hkeyDotted)

/-- An atom with its own colon is not found where only its name stands. -/
theorem not_found_of_name {t : Token} (hfree : Free t) (hkind : t.kind = .atom) {name : Text}
    (hlexeme : t.lexeme = ':' :: name) (u : Text) (us : List Token) :
    gist (name ++ u) ≠ t :: us := by
  intro h
  obtain ⟨c, s, w, hspelled, hscan⟩ := hfree.1
  rw [hspelled] at hlexeme
  obtain ⟨rfl, rfl⟩ := List.cons.inj hlexeme
  rw [hkind] at hscan
  obtain ⟨a, r, rfl, ha⟩ := second_of_atom hscan
  have hstart : isBlank a = false ∧ a ≠ '#' ∧ a ≠ ':' := by
    rcases ha with ⟨-, ha, -⟩ | ⟨ha, -⟩
    · have hquotes : ∀ q ∈ quotes, isBlank q = false ∧ q ≠ '#' ∧ q ≠ ':' := by decide
      exact hquotes a ha
    · rw [Bool.or_eq_true, decide_eq_true_eq] at ha
      have hmark := not_mem_marks_of_isAlphanumeric ha
      refine ⟨?_, fun h => hmark (h ▸ by decide), fun h => hmark (h ▸ by decide)⟩
      rcases ha with ha | rfl
      · exact not_isBlank_of_isAlphanumeric ha
      · decide
  -- the token that is found starts with the name, and not with a colon
  rw [List.cons_append, gist_cons,
    if_pos ((isSignificant_first .nowhere a (r ++ u)).2 ⟨hstart.1, hstart.2.1⟩)] at h
  have hhead := congrArg (fun t => t.lexeme.head?) (List.cons.inj h).1
  simp only [head?_first, hspelled, List.head?_cons, Option.some.injEq] at hhead
  exact hstart.2.2 hhead

/-- An atom that was derived before an arrow is not found again. -/
theorem recovered_atom {k v : Node} {s : Text} {arrow : Token} {ts us : List Token}
    (hderives : Derives (.expression k) ts) (hfree : ∀ t ∈ ts, Free t)
    (hatom : k.atomLexeme? = some s) (harrow : arrow.isOperator ['=', '>'] = true) :
    Recovered (.entry k v) (ts ++ arrow :: us) := by
  intro u rest hu h
  exfalso
  obtain ⟨t, rfl, hkind, rfl, rfl⟩ := token_of_atom hderives hatom
  rw [List.forall_mem_singleton] at hfree
  rw [source_entry_of_atom hatom, List.append_assoc] at h
  obtain ⟨c, name, _, hlexeme, -⟩ := hfree.1
  by_cases hcolon : c = ':'
  · subst hcolon
    rw [hlexeme, atomName] at h
    exact not_found_of_name hfree hkind hlexeme _ _ h
  · -- an alias is its own name: it is found, but with a colon after it and no arrow
    have hname : atomName t.lexeme = t.lexeme := by
      rw [hlexeme]
      unfold atomName
      split
      · rename_i heq
        exact absurd (List.cons.inj heq).1 hcolon
      · rfl
    rw [hname] at h
    simp only [List.cons_append, List.nil_append] at h
    have hkinds : t.kind ∈ kinds := by
      rw [hkind]
      decide
    obtain ⟨-, hrest⟩ := gist_of_found hfree hkinds (stops_atom_colon _)
      (hkind ▸ stops_atom_colon _) h
    rw [gist_colon] at hrest
    rw [← (List.cons.inj hrest).1] at harrow
    exact absurd harrow (by decide)

/-- An entry with an arrow that is found again has a key and a value that are, if its key is no
atom. -/
theorem recovered_arrow {k v : Node} {arrow : Token} {ts us : List Token}
    (hatom : k.atomLexeme? = none) (hk : Recovered (.expression k) ts)
    (hv : Recovered (.expression v) us) : Recovered (.entry k v) (ts ++ arrow :: us) := by
  intro u rest hu h
  rw [source_entry_of_not_atom hatom] at h
  simp only [List.append_assoc, List.cons_append] at h
  obtain ⟨hkey, hrest⟩ := hk _ _ (edge_cons (by decide) _) h
  rw [gist_arrow] at hrest
  obtain ⟨hvalue, hlast⟩ := hv u rest hu (List.cons.inj hrest).2
  refine ⟨⟨?_, hkey, hvalue⟩, hlast⟩
  simp [FaithfulKey, IsAliasKey, IsSingleQuotedKey, IsDigitKey, hatom]

/-! ## All phrases -/

/-- What is derived from free tokens and is found again is faithful. -/
theorem Derives.recovered {φ : Phrase} {ts : List Token} (h : Derives φ ts)
    (hfree : ∀ t ∈ ts, Free t) : Recovered φ ts := by
  induction h with
  | moduleAttribute _ hname _ ih =>
      simp only [List.forall_mem_cons] at hfree
      exact recovered_moduleAttribute hfree.2.1 hname (ih hfree.2.2)
  | call hidentifier _ _ _ _ _ hjoined ih =>
      simp only [List.forall_mem_cons, List.forall_mem_append] at hfree
      exact recovered_call hfree.1 hidentifier
        (fun part hpart => ih part hpart (hjoined.forall_part hfree.2.2.2.1 part hpart)) hjoined
  | literal hform =>
      rw [List.forall_mem_singleton] at hfree
      exact recovered_literal hfree hform
  | collection _ _ _ hjoined ih =>
      simp only [List.forall_mem_cons, List.forall_mem_append] at hfree
      exact recovered_collection
        (fun part hpart => ih part hpart (hjoined.forall_part hfree.2.1 part hpart)) hjoined
  | hashMap _ _ _ _ hjoined ih =>
      simp only [List.forall_mem_cons, List.forall_mem_append] at hfree
      exact recovered_hashMap
        (fun part hpart => ih part hpart (hjoined.forall_part hfree.2.2.1 part hpart)) hjoined
  | keyword hname _ _ ih =>
      simp only [List.forall_mem_cons] at hfree
      exact recovered_keyword hfree.1 hname (ih hfree.2.2)
  | @arrow k v arrow ts us hk harrow _ ihk ihv =>
      simp only [List.forall_mem_cons, List.forall_mem_append] at hfree
      cases hatom : k.atomLexeme? with
      | none => exact recovered_arrow hatom (ihk hfree.1) (ihv hfree.2.2)
      | some s => exact recovered_atom hk hfree.1 hatom harrow

end ElixirTerms.Grammar
