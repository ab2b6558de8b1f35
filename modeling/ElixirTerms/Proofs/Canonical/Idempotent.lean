/-
# Canonical source is canonical

If the canonical source of a program is a program, then this one has the same canonical source.
The second program is the first one with the keys of its maps as keywords (`Kept`): where the source
of a phrase stands in a program at all, nothing in it has come apart.
-/
import ElixirTerms.Proofs.Canonical.Apart
import ElixirTerms.Proofs.Canonical.Keyworded
import ElixirTerms.Proofs.Canonical.RoundTrip

namespace ElixirTerms

namespace Grammar

open Token Extent Node

/-! ## Phrases in programs -/

/-- The phrase with the keys of its maps, and its own one, as they are read back from keywords. -/
def Phrase.keyworded : Phrase → Phrase
  | .expression n => .expression n.keyworded
  | .entry k v => .entry k.keyworded.asKeyword v.keyworded

/-- A phrase is written alike with keywords for the keys. -/
theorem Phrase.source_keyworded (φ : Phrase) : φ.keyworded.source = φ.source := by
  cases φ with
  | expression n => exact n.source_keyworded
  | entry k v => exact entrySource_keyworded k.source_keyworded v.source_keyworded

/-- Where the source of a phrase stands in a program, before an edge and behind any tokens, the
phrase is found again with keywords for the keys. -/
def Kept (φ : Phrase) : Prop :=
  ∀ (pre : List Token) (u : Text), Edge u → Placed (pre ++ gist (φ.source ++ u)) →
    Written φ.keyworded

/-- What is found again in a program leaves the gist of the rest to the program. -/
theorem Kept.placed {φ : Phrase} (h : Kept φ) {pre : List Token} {u : Text} (hu : Edge u)
    (hplaced : Placed (pre ++ gist (φ.source ++ u))) :
    Written φ.keyworded ∧ ∃ ts, Placed (pre ++ ts ++ gist u) := by
  have hwritten := h pre u hu hplaced
  obtain ⟨ts, hgist, -⟩ := hwritten u hu
  rw [φ.source_keyworded] at hgist
  refine ⟨hwritten, ts, ?_⟩
  rwa [hgist, ← List.append_assoc] at hplaced

/-! ## Rows -/

/-- The phrases of a row that stands in a program are found again with keywords for the keys. -/
theorem row_kept {α : Type} (phrase : α → Phrase) {as : List α} (h : ∀ a ∈ as, Kept (phrase a))
    {pre : List Token} {u : Text} (hu : Edge u)
    (hplaced : Placed
      (pre ++ gist (Text.commaSeparated (as.map fun a => (phrase a).source) ++ u))) :
    ∀ a ∈ as, Written (phrase a).keyworded := by
  induction as generalizing pre with
  | nil => nofun
  | cons a as ih =>
      obtain ⟨ha, has⟩ := List.forall_mem_cons.1 h
      cases as with
      | nil =>
          rw [List.forall_mem_singleton]
          exact ha pre u hu (by simpa [Text.commaSeparated] using hplaced)
      | cons b bs =>
          rw [List.map_cons, Text.commaSeparated_cons _ (by simp), List.append_assoc,
            List.cons_append, List.cons_append] at hplaced
          obtain ⟨hwritten, ts, hrest⟩ := ha.placed (edge_cons (by decide) _) hplaced
          rw [gist_comma, List.append_cons] at hrest
          exact List.forall_mem_cons.2 ⟨hwritten, ih has hrest⟩

/-! ## Expressions -/

/-- A literal that stands in a program is found again. -/
theorem kept_literal {t : Token} {form : Node.Form} {kind : Node.Kind} (hfree : Free t)
    (hform : IsLiteral t.kind form kind) : Kept (.expression (.literal form kind t)) := by
  intro pre u hu hplaced
  rw [Phrase.source, source] at hplaced
  rw [Phrase.keyworded, keyworded]
  refine written_literal hfree hform fun hdotted => ?_
  exact not_placed_of_dotted hfree.1 hdotted (hu.stops (by decide)) hu.stops_dot pre hplaced

/-- An attribute that stands in a program is found again if its value is. -/
theorem kept_moduleAttribute {name : Token} {v : Node} (hfree : Free name)
    (hname : name.kind = .identifier) (hv : Kept (.expression v)) :
    Kept (.expression (.moduleAttribute .moduleAttribute name v)) := by
  intro pre u hu hplaced
  have hspace : gist (' ' :: (v.source ++ u)) = gist (v.source ++ u) :=
    gist_of_blank (by decide) _
  rw [Phrase.source, source_moduleAttribute, List.cons_append, List.append_assoc,
    List.cons_append, gist_atSign, gist_identifier hfree hname (by decide), hspace,
    List.append_cons, List.append_cons] at hplaced
  rw [Phrase.keyworded, keyworded]
  exact written_moduleAttribute hfree hname (hv _ u hu hplaced)

/-- A call that stands in a program is found again if its arguments are. -/
theorem kept_call {identifier : Token} {args : List Node} (hfree : Free identifier)
    (hidentifier : identifier.kind = .identifier) (hargs : ∀ a ∈ args, Kept (.expression a)) :
    Kept (.expression (.call .anonCall identifier args)) := by
  intro pre u hu hplaced
  rw [Phrase.source, source_call] at hplaced
  simp only [List.append_assoc, List.cons_append, List.nil_append] at hplaced
  rw [gist_identifier hfree hidentifier (by decide), gist_dot, gist_delimiter (by decide),
    List.append_cons, List.append_cons, List.append_cons] at hplaced
  rw [Phrase.keyworded, keyworded]
  refine written_call hfree hidentifier ?_
  rw [List.forall_mem_map]
  exact row_kept .expression hargs (edge_cons (by decide) u) hplaced

/-- A collection that stands in a program is found again if its elements are. -/
theorem kept_collection (shape : Node.Shape) {es : List Node}
    (hes : ∀ e ∈ es, Kept (.expression e)) :
    Kept (.expression (.collection shape shape.kind es)) := by
  intro pre u hu hplaced
  obtain ⟨d, e, hopener, hcloser, hd, -, hedge⟩ := brackets shape
  rw [Phrase.source, source_collection, hopener, hcloser] at hplaced
  simp only [List.append_assoc, List.cons_append, List.nil_append] at hplaced
  rw [gist_delimiter hd, List.append_cons] at hplaced
  rw [Phrase.keyworded, keyworded]
  refine written_collection shape ?_
  rw [List.forall_mem_map]
  exact row_kept .expression hes (edge_cons hedge u) hplaced

/-- A map that stands in a program is found again with keywords for the keys if its entries are. -/
theorem kept_hashMap {entries : List (Node × Node)}
    (hentries : ∀ entry ∈ entries, Kept (.entry entry.1 entry.2)) :
    Kept (.expression (.hashMap .hashMap (entries.map (·.1)) (entries.map (·.2)))) := by
  intro pre u hu hplaced
  rw [Phrase.source, source_hashMap_map] at hplaced
  simp only [List.append_assoc, List.cons_append, List.nil_append] at hplaced
  rw [gist_delimiter (by decide), gist_delimiter (by decide), List.append_cons,
    List.append_cons] at hplaced
  have hwritten := row_kept (fun entry : Node × Node => .entry entry.1 entry.2) hentries
    (edge_cons (by decide) u) hplaced
  have hmap := @written_hashMap
    (entries.map fun entry => (entry.1.keyworded.asKeyword, entry.2.keyworded)) (by
      rw [List.forall_mem_map]
      exact hwritten)
  rw [List.map_map, List.map_map] at hmap
  rw [Phrase.keyworded, keyworded, List.map_map, List.map_map]
  exact hmap

/-! ## Entries -/

/-- A name before a colon in a program is found before any colon. -/
theorem name_found {name : Token} (hfree : Free name) (hkey : IsKey name) {pre : List Token}
    {w : Text} (hplaced : Placed (pre ++ gist (name.lexeme ++ ':' :: w))) (u : Text) :
    gist (name.lexeme ++ ':' :: u) = name :: gist (':' :: u) := by
  refine gist_free hfree (kind_mem_of_isKey hkey) ?_ (stops_of_isKey hkey u)
  intro hdotted
  exact not_placed_of_dotted hfree.1 hdotted ((stops_cons _ _ _).2 (by decide))
    ((stops_cons _ _ _).2 (by decide)) pre hplaced

/-- An entry with a name that is found before its colon is found again if its value is. -/
theorem written_of_placed {name : Token} {v : Node} (hkey : IsKey name)
    (hname : ∀ u, gist (name.lexeme ++ ':' :: u) = name :: gist (':' :: u))
    (hv : Kept (.expression v)) {pre : List Token} {u : Text} (hu : Edge u)
    (hplaced : Placed (pre ++ gist (name.lexeme ++ ':' :: ' ' :: (v.source ++ u)))) :
    Written (.entry (.literal .atom .atom ⟨.atom, ':' :: name.lexeme, name.position⟩)
      v.keyworded) := by
  rw [hname, gist_colon, List.append_cons, List.append_cons] at hplaced
  exact written_of_name hkey hname (hv _ u hu hplaced)

/-- An entry with a keyword that stands in a program is found again if its value is. -/
theorem kept_keyword {name : Token} {v : Node} (hfree : Free name) (hkey : IsKey name)
    (hv : Kept (.expression v)) :
    Kept (.entry (.literal .atom .atom ⟨.atom, ':' :: name.lexeme, name.position⟩) v) := by
  intro pre u hu hplaced
  rw [source_entry_of_atom rfl, atomName, List.append_assoc, List.cons_append,
    List.cons_append] at hplaced
  rw [Phrase.keyworded, keyworded]
  exact written_of_placed hkey (name_found hfree hkey hplaced) hv hu hplaced

/-- An entry with an arrow that stands in a program is found again as a keyword if its key is an
atom. -/
theorem kept_atom {t : Token} {v : Node} (hfree : Free t) (hkind : t.kind = .atom)
    (hv : Kept (.expression v)) : Kept (.entry (.literal .atom .atom t) v) := by
  intro pre u hu hplaced
  rw [source_entry_of_atom rfl, List.append_assoc, List.cons_append, List.cons_append] at hplaced
  rw [Phrase.keyworded, keyworded, asKeyword, hkind]
  by_cases hcolon : t.lexeme.head? = some ':'
  · obtain ⟨name, hlexeme⟩ := List.head?_eq_some_iff.1 hcolon
    rw [hlexeme, atomName] at hplaced ⊢
    obtain ⟨hquote, hdigit⟩ := name_of_placed hfree.1 hkind hlexeme hplaced
    obtain ⟨key, hkey, rfl, hplace, hfound⟩ := key_found hfree.1 hkind hlexeme hquote hdigit
    have hposition : t.position = key.position := by
      rw [hplace, ← hfree.2]
      rfl
    rw [hposition]
    exact written_of_placed hkey hfound hv hu hplaced
  · -- an alias is a name of its own, and comes back with a colon
    have hkey : IsKey t := Or.inr (Or.inr (Or.inr ⟨hkind, hcolon⟩))
    rw [atomName_of_head? hcolon] at hplaced ⊢
    exact written_of_placed hkey (name_found hfree hkey hplaced) hv hu hplaced

/-- An entry with an arrow that stands in a program is found again if its key is no atom, and its
key and its value are. -/
theorem kept_arrow {k v : Node} (hatom : k.atomLexeme? = none) (hk : Kept (.expression k))
    (hv : Kept (.expression v)) : Kept (.entry k v) := by
  intro pre u hu hplaced
  rw [source_entry_of_not_atom hatom] at hplaced
  simp only [List.append_assoc, List.cons_append] at hplaced
  have hatom' := k.atomLexeme?_keyworded.trans hatom
  obtain ⟨hkey, ts, hrest⟩ := hk.placed (edge_cons (by decide) _) hplaced
  rw [gist_arrow, List.append_cons] at hrest
  rw [Phrase.keyworded, asKeyword_of_not_atom hatom']
  exact written_arrow hatom' hkey (hv _ u hu hrest)

/-! ## All phrases -/

/-- **Phrases.**  What is derived from free tokens is found again with keywords for the keys, where
its source stands in a program. -/
theorem Derives.kept {φ : Phrase} {ts : List Token} (h : Derives φ ts)
    (hfree : ∀ t ∈ ts, Free t) : Kept φ := by
  induction h with
  | @moduleAttribute sign name v ts hsign hname hv ih =>
      simp only [List.forall_mem_cons] at hfree
      exact kept_moduleAttribute hfree.2.1 hname (ih hfree.2.2)
  | @call identifier dot opening closing parts ts hi hd hdot ho hc hparts hjoined ih =>
      simp only [List.forall_mem_cons, List.forall_mem_append] at hfree
      refine kept_call hfree.1 hi (List.forall_mem_map.2 ?_)
      intro part hpart
      exact ih part hpart (hjoined.forall_part hfree.2.2.2.1 part hpart)
  | @literal t form kind hform =>
      rw [List.forall_mem_singleton] at hfree
      exact kept_literal hfree hform
  | @collection shape opening closing parts ts ho hc hparts hjoined ih =>
      simp only [List.forall_mem_cons, List.forall_mem_append] at hfree
      refine kept_collection shape (List.forall_mem_map.2 ?_)
      intro part hpart
      exact ih part hpart (hjoined.forall_part hfree.2.1 part hpart)
  | @hashMap sign opening closing parts ts hs ho hc hparts hjoined ih =>
      simp only [List.forall_mem_cons, List.forall_mem_append] at hfree
      have hkept := @kept_hashMap (parts.map (·.2)) ?_
      · rwa [List.map_map, List.map_map] at hkept
      · rw [List.forall_mem_map]
        intro part hpart
        exact ih part hpart (hjoined.forall_part hfree.2.2.1 part hpart)
  | @keyword name colon v ts hname hcolon hv ih =>
      simp only [List.forall_mem_cons] at hfree
      exact kept_keyword hfree.1 hname (ih hfree.2.2)
  | @arrow k v arrow ts us hk harrow hv ihk ihv =>
      simp only [List.forall_mem_cons, List.forall_mem_append] at hfree
      have hvalue := ihv hfree.2.2
      cases hatom : k.atomLexeme? with
      | none => exact kept_arrow hatom (ihk hfree.1) hvalue
      | some s =>
          obtain ⟨t, rfl, hkind, -, rfl⟩ := token_of_atom hk hatom
          exact kept_atom (List.forall_mem_singleton.1 hfree.1) hkind hvalue

/-- **Programs.**  The expressions of a program that is derived from free tokens are found again
with keywords for the keys, if its source is a program. -/
theorem DerivesAll.kept {ns : List Node} {ts : List Token} (h : DerivesAll ns ts)
    (hfree : ∀ t ∈ ts, Free t) (pre : List Token)
    (hplaced : Placed (pre ++ gist (programSource ns))) :
    ∀ n ∈ ns, Written (.expression n.keyworded) := by
  induction h generalizing pre with
  | nil => nofun
  | @cons n ns ts us hn hns ih =>
      obtain ⟨hts, hus⟩ := List.forall_mem_append.1 hfree
      by_cases hempty : ns = []
      · subst hempty
        rw [programSource_singleton] at hplaced
        exact List.forall_mem_singleton.2 (hn.kept hts pre [] edge_nil hplaced)
      · rw [programSource_cons n hempty] at hplaced
        obtain ⟨hwritten, vs, hrest⟩ := (hn.kept hts).placed (edge_cons (by decide) _) hplaced
        rw [gist_newline] at hrest
        exact List.forall_mem_cons.2 ⟨hwritten, ih hus _ hrest⟩

end Grammar

namespace Program

open Token Grammar

/-- What the canonical source of an accepted text is accepted as, if it is accepted: the same
expressions with keywords for the keys, taken from their places. -/
theorem keyworded_of_parseText {text : Text} {ns ns' : List Node} (h : parseText text = .ok ns)
    (h' : parseText (Text.joinLines (ns.map Node.source)) = .ok ns') :
    ns'.map Node.unplaced = (ns.map Node.unplaced).map Node.keyworded := by
  have hsource : Text.joinLines (ns.map Node.source) = Node.programSource (ns.map Node.unplaced) :=
    (Node.programSource_unplaced ns).symm
  have hagain := (derivesAll_gist h').1
  rw [hsource] at hagain
  have hwritten := (derivesAll_gist h).1.kept (fun _ => free_of_mem_gist) [] hagain.placed
  have hkeyworded := derivesAll_programSource (List.forall_mem_map.2 hwritten)
  rw [Node.programSource_keyworded] at hkeyworded
  -- both lists are derived from the same gist
  exact derivesAll_unique hagain hkeyworded rfl

/-- **Canonical source is idempotent.**  If the sources of the expressions of an accepted text, each
on lines of its own, are accepted in their turn, then the new expressions have the very same
sources, and all of these sources are there.  The new expressions are the old ones up to the places
of tokens, but for the keys of maps that were aliases: these are atoms with a colon now. -/
theorem source_of_parseText_source {text : Text} {ns ns' : List Node}
    (h : parseText text = .ok ns)
    (h' : parseText (Text.joinLines (ns.map Node.source)) = .ok ns') :
    ns'.map Node.source = ns.map Node.source ∧
    (∀ n ∈ ns, n.source? = .ok n.source) ∧ (∀ n ∈ ns', n.source? = .ok n.source) ∧
    Node.sameAll ns' (ns.map Node.keyworded) = true := by
  have hsame := keyworded_of_parseText h h'
  refine ⟨?_, (derivesAll_of_parse h).source?, (derivesAll_of_parse h').source?, ?_⟩
  · have hsources := congrArg (List.map Node.source) hsame
    simpa [Function.comp_def, Node.source_unplaced, Node.source_keyworded] using hsources
  · rw [Node.sameAll_iff, hsame]
    simp [Function.comp_def, Node.keyworded_unplaced]

/-- A map in a list that is the value of an alias: both keys become keywords, so the second list of
expressions is not the first, and it is written alike. -/
theorem source_of_parseText_source_aliases :
    ∃ ns ns', parseText "%\x7bAb => [%\x7bCd => 1\x7d]\x7d" = .ok ns ∧
      parseText (Text.joinLines (ns.map Node.source)) = .ok ns' ∧
      Node.sameAll ns' ns = false ∧ ns'.map Node.source = ns.map Node.source := by
  have h : parseText "%\x7bAb => [%\x7bCd => 1\x7d]\x7d" = .ok [.hashMap .hashMap
      [.literal .atom .atom ⟨.atom, ['A', 'b'], ⟨1, 3⟩⟩]
      [.collection .list .list [.hashMap .hashMap
        [.literal .atom .atom ⟨.atom, ['C', 'd'], ⟨1, 12⟩⟩]
        [.literal .number .number ⟨.number, ['1'], ⟨1, 18⟩⟩]]]] := by cbv
  have h' : parseText (Text.joinLines ([Node.hashMap .hashMap
      [.literal .atom .atom ⟨.atom, ['A', 'b'], ⟨1, 3⟩⟩]
      [.collection .list .list [.hashMap .hashMap
        [.literal .atom .atom ⟨.atom, ['C', 'd'], ⟨1, 12⟩⟩]
        [.literal .number .number ⟨.number, ['1'], ⟨1, 18⟩⟩]]]].map Node.source)) =
      .ok [.hashMap .hashMap
        [.literal .atom .atom ⟨.atom, [':', 'A', 'b'], ⟨1, 3⟩⟩]
        [.collection .list .list [.hashMap .hashMap
          [.literal .atom .atom ⟨.atom, [':', 'C', 'd'], ⟨1, 10⟩⟩]
          [.literal .number .number ⟨.number, ['1'], ⟨1, 14⟩⟩]]]] := by cbv
  exact ⟨_, _, h, h', by cbv, (source_of_parseText_source h h').1⟩

end Program

end ElixirTerms
