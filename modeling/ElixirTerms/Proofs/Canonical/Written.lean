/-
# What is written is found again

The gist of the canonical source of a faithful phrase derives the phrase (`Derives.written`): each
token is found before the next one, and an entry whose key is an atom is found as a keyword with a
colon, however it was spelled before.
-/
import ElixirTerms.Proofs.Canonical.Tokens

namespace ElixirTerms.Grammar

open Token Extent Node

/-! ## Phrases -/

/-- The canonical source of a phrase. -/
def Phrase.source : Phrase → Text
  | .expression n => n.source
  | .entry k v => entrySource (k, v)

/-- None of the shapes that canonical source does not keep occurs in a phrase. -/
def Phrase.Faithful : Phrase → Prop
  | .expression n => n.Faithful
  | .entry k v => k.FaithfulKey ∧ k.Faithful ∧ v.Faithful

/-- A literal is an alias with a dot at its end if its token is one. -/
theorem isDottedAtom_literal {t : Token} {form : Node.Form} {kind : Node.Kind}
    (h : IsLiteral t.kind form kind) :
    (literal form kind t).IsDottedAtom ↔ Dotted t.kind t.lexeme := by
  generalize t.kind = k at h
  cases h <;> simp [IsDottedAtom, atomLexeme?, Dotted]

/-- A map is written with its entries in order. -/
theorem source_hashMap_map {α : Type} (kind : Node.Kind) (f g : α → Node) (as : List α) :
    (hashMap kind (as.map f) (as.map g)).source =
      '%' :: '\x7b' ::
        (Text.commaSeparated (as.map fun a => (Phrase.entry (f a) (g a)).source) ++
          ['\x7d']) := by
  rw [source_hashMap, List.zip_map', List.map_map]
  rfl

/-- A map is faithful if its entries are. -/
theorem faithful_hashMap_map {α : Type} (kind : Node.Kind) (f g : α → Node) (as : List α) :
    (hashMap kind (as.map f) (as.map g)).Faithful ↔
      ∀ a ∈ as, (Phrase.entry (f a) (g a)).Faithful := by
  rw [faithful_hashMap, List.zip_map', List.forall_mem_map]
  rfl

/-! ## Rows -/

/-- Before every edge, the gist of the source of a phrase derives the phrase. -/
def Written (φ : Phrase) : Prop :=
  ∀ u, Edge u → ∃ ts, gist (φ.source ++ u) = ts ++ gist u ∧ Derives φ ts

/-- The gist of a row of phrases that are found again is a row that derives them. -/
theorem row_written {α : Type} {phrase : α → Phrase} {as : List α}
    (h : ∀ a ∈ as, Written (phrase a)) {u : Text} (hu : Edge u) :
    ∃ (parts : List (List Token × α)) (ts : List Token), parts.map (·.2) = as ∧
      (∀ part ∈ parts, Derives (phrase part.2) part.1) ∧ CommaJoined (parts.map (·.1)) ts ∧
      gist (Text.commaSeparated (as.map fun a => (phrase a).source) ++ u) = ts ++ gist u := by
  induction as with
  | nil => exact ⟨[], [], rfl, List.forall_mem_nil _, .none, rfl⟩
  | cons a as ih =>
      obtain ⟨ha, has⟩ := List.forall_mem_cons.1 h
      obtain ⟨parts, ts, hparts, hderives, hjoined, hgist⟩ := ih has
      cases as with
      | nil =>
          obtain ⟨ts, hts, hd⟩ := ha u hu
          refine ⟨[(ts, a)], ts, rfl, ?_, .one ts, by rw [← hts]; simp [Text.commaSeparated]⟩
          rw [List.forall_mem_singleton]
          exact hd
      | cons b bs =>
          obtain ⟨us, hus, hd⟩ := ha (',' :: ' ' ::
            (Text.commaSeparated ((b :: bs).map fun a => (phrase a).source) ++ u))
            (edge_cons (by decide) _)
          -- a comma is only written where there is another part
          have hne : parts.map (·.1) ≠ [] := by
            intro hnil
            rw [List.map_eq_nil_iff.1 hnil] at hparts
            cases hparts
          refine ⟨(us, a) :: parts, us ++ ⟨.comma, [','], .nowhere⟩ :: ts, ?_, ?_, ?_, ?_⟩
          · rw [List.map_cons, hparts]
          · exact List.forall_mem_cons.2 ⟨hd, hderives⟩
          · exact @CommaJoined.more us ts _ _ rfl hne hjoined
          · rw [List.map_cons, Text.commaSeparated_cons _ (by simp), List.append_assoc,
              List.cons_append, List.cons_append, hus, gist_comma, hgist, List.append_assoc,
              List.cons_append]

/-! ## Expressions -/

/-- A literal is found again, unless it is an alias with a dot at its end. -/
theorem written_literal {t : Token} {form : Node.Form} {kind : Node.Kind} (hfree : Free t)
    (hform : IsLiteral t.kind form kind)
    (hdotted : ¬ Dotted t.kind t.lexeme) : Written (.expression (.literal form kind t)) := by
  intro u hu
  have hkind := (Derives.literal hform).kind_mem t (List.mem_singleton_self t)
  have hstops : Stops t.kind u := hu.stops hform.mem_literalKinds
  refine ⟨[t], ?_, .literal hform⟩
  rw [Phrase.source, source]
  exact gist_free hfree hkind hdotted hstops

/-- An identifier is no alias. -/
theorem gist_identifier {t : Token} (hfree : Free t) (hkind : t.kind = .identifier) {d : Char}
    (hd : goesOn .identifier d = false) (u : Text) :
    gist (t.lexeme ++ d :: u) = t :: gist (d :: u) := by
  refine gist_free hfree (by rw [hkind]; decide) ?_ ?_
  · rintro ⟨hatom, -⟩
    rw [hkind] at hatom
    cases hatom
  · rwa [hkind, stops_cons]

/-- An attribute is found again if its value is. -/
theorem written_moduleAttribute {name : Token} {v : Node} (hfree : Free name)
    (hname : name.kind = .identifier) (hv : Written (.expression v)) :
    Written (.expression (.moduleAttribute .moduleAttribute name v)) := by
  intro u hu
  obtain ⟨ts, hts, hd⟩ := hv u hu
  refine ⟨⟨.atSign, ['@'], .nowhere⟩ :: name :: ts, ?_, .moduleAttribute rfl hname hd⟩
  have hspace : gist (' ' :: (v.source ++ u)) = gist (v.source ++ u) :=
    gist_of_blank (by decide) _
  rw [Phrase.source, source_moduleAttribute, List.cons_append, List.append_assoc,
    List.cons_append, gist_atSign, gist_identifier hfree hname (by decide), hspace]
  exact congrArg (_ :: name :: ·) hts

/-- A call is found again if its arguments are. -/
theorem written_call {identifier : Token} {args : List Node} (hfree : Free identifier)
    (hidentifier : identifier.kind = .identifier)
    (hargs : ∀ a ∈ args, Written (.expression a)) :
    Written (.expression (.call .anonCall identifier args)) := by
  intro u hu
  obtain ⟨parts, ts, rfl, hderives, hjoined, hgist⟩ :=
    row_written hargs (edge_cons (d := ')') (by decide) u)
  refine ⟨identifier :: ⟨.dot, ['.'], .nowhere⟩ :: ⟨.delimiter, ['('], .nowhere⟩ ::
    (ts ++ [⟨.delimiter, [')'], .nowhere⟩]), ?_,
    .call hidentifier rfl rfl rfl rfl hderives hjoined⟩
  rw [gist_delimiter (by decide)] at hgist
  rw [Phrase.source, source_call]
  simp only [List.append_assoc, List.cons_append, List.nil_append]
  rw [gist_identifier hfree hidentifier (by decide), gist_dot, gist_delimiter (by decide)]
  exact congrArg (identifier :: _ :: _ :: ·) hgist

/-- The brackets of a collection are delimiters, and the second may come after an element. -/
theorem brackets (shape : Node.Shape) :
    ∃ d e, opener shape = [d] ∧ closer shape = [e] ∧ d ∈ delimiters ∧ e ∈ delimiters ∧
      e ∈ edges := by
  cases shape with
  | list => exact ⟨'[', ']', rfl, rfl, by decide⟩
  | tuple => exact ⟨'\x7b', '\x7d', rfl, rfl, by decide⟩

/-- A collection is found again if its elements are. -/
theorem written_collection (shape : Node.Shape) {es : List Node}
    (hes : ∀ e ∈ es, Written (.expression e)) :
    Written (.expression (.collection shape shape.kind es)) := by
  intro u hu
  obtain ⟨d, e, hopener, hcloser, hd, he, hedge⟩ := brackets shape
  obtain ⟨parts, ts, rfl, hderives, hjoined, hgist⟩ := row_written hes (edge_cons hedge u)
  refine ⟨⟨.delimiter, [d], .nowhere⟩ :: (ts ++ [⟨.delimiter, [e], .nowhere⟩]), ?_,
    .collection (by simp [isDelimiter, hopener]) (by simp [isDelimiter, hcloser]) hderives hjoined⟩
  rw [gist_delimiter he] at hgist
  rw [Phrase.source, source_collection, hopener, hcloser]
  simp only [List.append_assoc, List.cons_append, List.nil_append]
  rw [gist_delimiter hd]
  exact congrArg (_ :: ·) hgist

/-- A map is found again if its entries are. -/
theorem written_hashMap {entries : List (Node × Node)}
    (hentries : ∀ entry ∈ entries, Written (.entry entry.1 entry.2)) :
    Written (.expression (.hashMap .hashMap (entries.map (·.1)) (entries.map (·.2)))) := by
  intro u hu
  obtain ⟨parts, ts, rfl, hderives, hjoined, hgist⟩ :=
    row_written hentries (edge_cons (d := '\x7d') (by decide) u)
  refine ⟨⟨.delimiter, ['%'], .nowhere⟩ :: ⟨.delimiter, ['\x7b'], .nowhere⟩ ::
    (ts ++ [⟨.delimiter, ['\x7d'], .nowhere⟩]), ?_, ?_⟩
  · rw [gist_delimiter (by decide)] at hgist
    rw [Phrase.source, source_hashMap_map]
    simp only [List.append_assoc, List.cons_append, List.nil_append]
    rw [gist_delimiter (by decide), gist_delimiter (by decide)]
    exact congrArg (_ :: _ :: ·) hgist
  · rw [List.map_map, List.map_map]
    exact .hashMap rfl rfl rfl hderives hjoined

/-! ## Entries -/

/-- An entry whose key is an atom is written with the name of the atom and a colon. -/
theorem source_entry_of_atom {k v : Node} {s : Text} (h : k.atomLexeme? = some s) :
    (Phrase.entry k v).source = atomName s ++ ':' :: ' ' :: v.source := by
  rw [Phrase.source, entrySource, keySource_of_atom h]
  simp

/-- Any other entry is written with an arrow. -/
theorem source_entry_of_not_atom {k v : Node} (h : k.atomLexeme? = none) :
    (Phrase.entry k v).source = k.source ++ ' ' :: '=' :: '>' :: ' ' :: v.source := by
  rw [Phrase.source, entrySource, keySource_of_not_atom h]
  simp

/-- A name before a colon stops there. -/
theorem stops_of_isKey {name : Token} (h : IsKey name) (u : Text) : Stops name.kind (':' :: u) := by
  rw [stops_cons]
  rcases h with h | h | h | ⟨h, -⟩ <;> rw [h] <;> decide

/-- A name before a colon is of a kind that the grammar names. -/
theorem kind_mem_of_isKey {name : Token} (h : IsKey name) : name.kind ∈ kinds := by
  rcases h with h | h | h | ⟨h, -⟩ <;> rw [h] <;> decide

/-- An entry with an atom for its key is found again if its name is, before a colon. -/
theorem written_of_name {name : Token} {v : Node} (hkey : IsKey name)
    (hname : ∀ u, gist (name.lexeme ++ ':' :: u) = name :: gist (':' :: u))
    (hv : Written (.expression v)) :
    Written (.entry (.literal .atom .atom ⟨.atom, ':' :: name.lexeme, name.position⟩) v) := by
  intro u hu
  obtain ⟨ts, hts, hd⟩ := hv u hu
  refine ⟨name :: ⟨.operator, [':'], .nowhere⟩ :: ts, ?_, .keyword hkey rfl hd⟩
  rw [source_entry_of_atom rfl, atomName, List.append_assoc, List.cons_append, List.cons_append,
    hname, gist_colon]
  exact congrArg (name :: _ :: ·) hts

/-- An entry with an arrow is found again if its key is no atom. -/
theorem written_arrow {k v : Node} (hatom : k.atomLexeme? = none) (hk : Written (.expression k))
    (hv : Written (.expression v)) : Written (.entry k v) := by
  intro u hu
  obtain ⟨us, hus, hdv⟩ := hv u hu
  obtain ⟨ts, hts, hdk⟩ := hk (' ' :: '=' :: '>' :: ' ' :: (v.source ++ u))
    (edge_cons (by decide) _)
  refine ⟨ts ++ ⟨.operator, ['=', '>'], .nowhere⟩ :: us, ?_, .arrow hdk rfl hdv⟩
  rw [gist_arrow] at hts
  rw [source_entry_of_not_atom hatom]
  simp only [List.append_assoc, List.cons_append]
  rw [← hus]
  exact hts

/-- An expression that is an atom is the literal of its only token. -/
theorem token_of_atom {k : Node} {s : Text} {ts : List Token} (h : Derives (.expression k) ts)
    (hatom : k.atomLexeme? = some s) :
    ∃ t, ts = [t] ∧ t.kind = .atom ∧ t.lexeme = s ∧ k = .literal .atom .atom t := by
  obtain ⟨kind, t, rfl, rfl⟩ := atomLexeme?_eq_some hatom
  cases h with
  | literal hform =>
      generalize hkind : t.kind = k at hform
      cases hform
      exact ⟨t, rfl, hkind, rfl, rfl⟩

/-- An entry with an arrow is found again as a keyword if its key is an atom and faithful. -/
theorem written_atom {k v : Node} {s : Text} {ts : List Token}
    (hderives : Derives (.expression k) ts) (hfree : ∀ t ∈ ts, Free t)
    (hatom : k.atomLexeme? = some s) (hfaithful : k.FaithfulKey) (hv : Written (.expression v)) :
    Written (.entry k v) := by
  obtain ⟨t, rfl, hkind, rfl, rfl⟩ := token_of_atom hderives hatom
  rw [List.forall_mem_singleton] at hfree
  obtain ⟨halias, hquoted, hdigit⟩ := hfaithful
  obtain ⟨c, name, _, hlexeme, -⟩ := hfree.1
  have hcolon : c = ':' := by
    by_contra hc
    exact halias ⟨_, hatom, by simpa [hlexeme] using hc⟩
  subst hcolon
  have hquote : name.head? ≠ some '\'' := by
    intro h
    obtain ⟨r, rfl⟩ := List.head?_eq_some_iff.1 h
    exact hquoted ⟨_, hatom, by rw [hlexeme]; exact ⟨r, rfl⟩⟩
  have hnumber : name.head?.any Char.isDigit = false := by
    rw [Bool.eq_false_iff]
    intro h
    exact hdigit ⟨_, hatom, by rwa [hlexeme]⟩
  obtain ⟨key, hkey, rfl, hplace, hfound⟩ := key_found hfree.1 hkind hlexeme hquote hnumber
  -- the keyword that is read gets back the colon that was not written
  have hwritten := written_of_name hkey hfound hv
  have hsame : t = ⟨.atom, ':' :: key.lexeme, key.position⟩ := by
    rw [← hfree.2, Token.unplaced, hkind, hlexeme, hplace]
  rwa [hsame]

/-! ## All phrases -/

/-- What is derived from free tokens and is faithful is found again. -/
theorem Derives.written {φ : Phrase} {ts : List Token} (h : Derives φ ts)
    (hfree : ∀ t ∈ ts, Free t) (hfaithful : φ.Faithful) : Written φ := by
  induction h with
  | @moduleAttribute sign name v ts hsign hname hv ih =>
      simp only [List.forall_mem_cons] at hfree
      exact written_moduleAttribute hfree.2.1 hname
        (ih hfree.2.2 ((faithful_moduleAttribute _ _ _).1 hfaithful))
  | @call identifier dot opening closing parts ts hi hd hdot ho hc hparts hjoined ih =>
      simp only [List.forall_mem_cons, List.forall_mem_append] at hfree
      have hall := (faithful_call _ _ _).1 hfaithful
      refine written_call hfree.1 hi ?_
      rw [List.forall_mem_map] at hall ⊢
      intro part hpart
      exact ih part hpart (hjoined.forall_part hfree.2.2.2.1 part hpart) (hall part hpart)
  | @literal t form kind hform =>
      rw [List.forall_mem_singleton] at hfree
      refine written_literal hfree hform ?_
      rw [← isDottedAtom_literal hform]
      exact (faithful_literal form kind t).1 hfaithful
  | @collection shape opening closing parts ts ho hc hparts hjoined ih =>
      simp only [List.forall_mem_cons, List.forall_mem_append] at hfree
      have hall := (faithful_collection _ _ _).1 hfaithful
      refine written_collection shape ?_
      rw [List.forall_mem_map] at hall ⊢
      intro part hpart
      exact ih part hpart (hjoined.forall_part hfree.2.1 part hpart) (hall part hpart)
  | @hashMap sign opening closing parts ts hs ho hc hparts hjoined ih =>
      simp only [List.forall_mem_cons, List.forall_mem_append] at hfree
      have hall := (faithful_hashMap_map _ _ _ parts).1 hfaithful
      have hwritten := @written_hashMap (parts.map (·.2)) ?_
      · rwa [List.map_map, List.map_map] at hwritten
      · rw [List.forall_mem_map]
        intro part hpart
        exact ih part hpart (hjoined.forall_part hfree.2.2.1 part hpart) (hall part hpart)
  | @keyword name colon v ts hname hcolon hv ih =>
      simp only [List.forall_mem_cons] at hfree
      obtain ⟨-, hkey, hvalue⟩ := hfaithful
      have hdotted : ¬ Dotted name.kind name.lexeme := by
        rw [← dotted_name_iff hfree.1.1 hname]
        intro h
        exact (faithful_literal _ _ _).1 hkey ⟨_, rfl, h⟩
      refine written_of_name hname ?_ (ih hfree.2.2 hvalue)
      intro u
      exact gist_free hfree.1 (kind_mem_of_isKey hname) hdotted (stops_of_isKey hname u)
  | @arrow k v arrow ts us hk harrow hv ihk ihv =>
      simp only [List.forall_mem_cons, List.forall_mem_append] at hfree
      obtain ⟨hkey, hk', hv'⟩ := hfaithful
      have hvalue := ihv hfree.2.2 hv'
      cases hatom : k.atomLexeme? with
      | none => exact written_arrow hatom (ihk hfree.1 hk') hvalue
      | some s => exact written_atom hk hfree.1 hatom hkey hvalue

end ElixirTerms.Grammar
