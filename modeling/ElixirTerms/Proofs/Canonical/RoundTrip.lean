/-
# The round trip of canonical source

The canonical source of an accepted program is accepted as the same program if and only if the
program is faithful: none of the four shapes that canonical source does not keep occurs in it.
-/
import ElixirTerms.Proofs.Canonical.Recovered
import ElixirTerms.Proofs.Grammar.Exact

namespace ElixirTerms

namespace Grammar

open Token Extent Unicode Node

/-! ## Derived terms have a source -/

/-- No node stands bare or is missing in a phrase. -/
def Phrase.Sourced : Phrase → Prop
  | .expression n => n.sourceFault? = none
  | .entry k v => k.sourceFault? = none ∧ v.sourceFault? = none

/-- There is no fault in a list of which no member has one. -/
theorem findSome?_sourceFault? {ns : List Node} (h : ∀ n ∈ ns, n.sourceFault? = none) :
    (ns.map sourceFault?).findSome? id = none := by
  rw [List.findSome?_eq_none_iff, List.forall_mem_map]
  exact h

/-- What the grammar derives has a source. -/
theorem Derives.sourced {φ : Phrase} {ts : List Token} (h : Derives φ ts) : φ.Sourced := by
  induction h with
  | moduleAttribute _ _ _ ih =>
      rw [Phrase.Sourced, sourceFault?]
      exact ih
  | call _ _ _ _ _ _ _ ih =>
      rw [Phrase.Sourced, sourceFault?]
      exact findSome?_sourceFault? (List.forall_mem_map.2 ih)
  | literal _ => rw [Phrase.Sourced, sourceFault?]
  | collection _ _ _ _ ih =>
      rw [Phrase.Sourced, sourceFault?]
      exact findSome?_sourceFault? (List.forall_mem_map.2 ih)
  | @hashMap _ _ _ parts _ _ _ _ _ _ ih =>
      have hentries : ∀ part ∈ parts,
          (part.2.1.sourceFault?.or part.2.2.sourceFault?) = none := by
        intro part hpart
        obtain ⟨hkey, hvalue⟩ := ih part hpart
        rw [hkey, hvalue]
        rfl
      rw [Phrase.Sourced, sourceFault?, List.map_map, List.map_map, List.zipWith_map,
        List.zipWith_self, List.findSome?_eq_none_iff, List.forall_mem_map]
      exact hentries
  | keyword _ _ _ ih => exact ⟨by rw [sourceFault?], ih⟩
  | arrow _ _ _ ihk ihv => exact ⟨ihk, ihv⟩

/-- All expressions of a program that the grammar derives have a source. -/
theorem DerivesAll.source? {ns : List Node} {ts : List Token} (h : DerivesAll ns ts) :
    ∀ n ∈ ns, n.source? = .ok n.source := by
  induction h with
  | nil => nofun
  | @cons n _ _ _ hn _ ih =>
      refine List.forall_mem_cons.2 ⟨?_, ih⟩
      have hsourced : n.sourceFault? = none := hn.sourced
      rw [Node.source?, hsourced]
      rfl

/-! ## Programs -/

/-- The canonical source of a program goes on after its first expression on a line of its own. -/
theorem programSource_cons (n : Node) {ns : List Node} (h : ns ≠ []) :
    programSource (n :: ns) = n.source ++ '\n' :: programSource ns := by
  rw [programSource, List.map_cons, Text.joinLines_cons _ (by simpa using h)]
  rfl

/-- The canonical source of a single expression is a program. -/
theorem programSource_singleton (n : Node) : programSource [n] = n.source ++ [] := by
  simp [programSource, Text.joinLines]

/-- A newline does not change the gist of what comes after it. -/
theorem gist_newline (u : Text) : gist ('\n' :: u) = gist u := gist_of_blank (by decide) u

/-- Expressions that are found again make a program that is. -/
theorem derivesAll_programSource {ns : List Node} (h : ∀ n ∈ ns, Written (.expression n)) :
    DerivesAll ns (gist (programSource ns)) := by
  induction ns with
  | nil =>
      have hempty : programSource [] = [] := rfl
      rw [hempty, gist_nil]
      exact .nil
  | cons n ns ih =>
      obtain ⟨hn, hns⟩ := List.forall_mem_cons.1 h
      by_cases hempty : ns = []
      · subst hempty
        obtain ⟨ts, hts, hd⟩ := hn [] edge_nil
        rw [Phrase.source, gist_nil] at hts
        rw [programSource_singleton, hts]
        exact .cons hd .nil
      · obtain ⟨ts, hts, hd⟩ := hn ('\n' :: programSource ns) (edge_cons (by decide) _)
        rw [Phrase.source, gist_newline] at hts
        rw [programSource_cons n hempty, hts]
        exact .cons hd (ih hns)

/-- The expressions of a faithful program that is derived from free tokens are found again. -/
theorem DerivesAll.written {ns : List Node} {ts : List Token} (h : DerivesAll ns ts)
    (hfree : ∀ t ∈ ts, Free t) (hfaithful : ∀ n ∈ ns, n.Faithful) :
    ∀ n ∈ ns, Written (.expression n) := by
  induction h with
  | nil => nofun
  | cons hn _ ih =>
      obtain ⟨hts, hus⟩ := List.forall_mem_append.1 hfree
      obtain ⟨hfirst, hrest⟩ := List.forall_mem_cons.1 hfaithful
      exact List.forall_mem_cons.2 ⟨hn.written hts hfirst, ih hus hrest⟩

/-- A program that is derived from the gist of its own canonical source is faithful. -/
theorem faithful_of_derivesAll {ns : List Node} {ts : List Token} (h : DerivesAll ns ts)
    (hfree : ∀ t ∈ ts, Free t) (hgist : gist (programSource ns) = ts) :
    ∀ n ∈ ns, n.Faithful := by
  induction h with
  | nil => nofun
  | @cons n ns ts us hn hns ih =>
      obtain ⟨hts, hus⟩ := List.forall_mem_append.1 hfree
      by_cases hempty : ns = []
      · subst hempty
        rw [programSource_singleton] at hgist
        exact List.forall_mem_singleton.2 (hn.recovered hts [] us edge_nil hgist).1
      · rw [programSource_cons n hempty] at hgist
        obtain ⟨hfaithful, hrest⟩ := hn.recovered hts _ us (edge_cons (by decide) _) hgist
        rw [gist_newline] at hrest
        exact List.forall_mem_cons.2 ⟨hfaithful, ih hus hrest⟩

end Grammar

namespace Program

open Token Grammar

/-- The expressions of an accepted text, taken from their places, have room and are derived from its
gist. -/
theorem derivesAll_gist {text : Text} {ns : List Node} (h : parseText text = .ok ns) :
    DerivesAll (ns.map Node.unplaced) (gist text) ∧ Fits (ns.map Node.unplaced) := by
  have hparse : parse (gist text) = .ok (ns.map Node.unplaced) := by
    rw [parse_gist, h]
    rfl
  have hderives := derivesAll_of_parse hparse
  rw [significant_gist] at hderives
  exact ⟨hderives, fits_of_parse hparse⟩

/-- A text is accepted as what the grammar derives from its gist, if that has room. -/
theorem parseText_of_derivesAll {text : Text} {ns : List Node} (h : DerivesAll ns (gist text))
    (hfits : Fits ns) : ∃ ns', parseText text = .ok ns' ∧ ns'.map Node.unplaced = ns := by
  rw [← significant_gist] at h
  have hparse := parse_of_derivesAll h
  rw [if_pos hfits, parse_gist] at hparse
  cases htext : parseText text with
  | error e =>
      rw [htext] at hparse
      cases hparse
  | ok ns' =>
      rw [htext] at hparse
      injection hparse with hsame
      exact ⟨ns', rfl, hsame⟩

/-- **Round trip of canonical source.**  The expressions of an accepted text have canonical sources,
and these, each on lines of its own, are accepted as the same program if and only if none of the
four shapes that canonical source does not keep occurs in the expressions, at any depth. -/
theorem parseText_programSource_iff {text : Text} {ns : List Node} (h : parseText text = .ok ns) :
    (∀ n ∈ ns, n.source? = .ok n.source) ∧
    ((∃ ns', parseText (Text.joinLines (ns.map Node.source)) = .ok ns' ∧
        Node.sameAll ns' ns = true) ↔
      ∀ n ∈ ns, ∀ m ∈ n.subterms, ¬ m.IsDottedAtom ∧
        ∀ entry ∈ m.entries, ¬ entry.1.IsAliasKey ∧ ¬ entry.1.IsSingleQuotedKey ∧
          ¬ entry.1.IsDigitKey) := by
  obtain ⟨hderives, hfits⟩ := derivesAll_gist h
  have hsource : Text.joinLines (ns.map Node.source) = Node.programSource (ns.map Node.unplaced) :=
    (Node.programSource_unplaced ns).symm
  -- everything that follows is about the program taken from its places
  have hfaithful : (∀ n ∈ ns, n.Faithful) ↔ ∀ n ∈ ns.map Node.unplaced, n.Faithful := by
    rw [List.forall_mem_map]
    exact forall₂_congr fun n _ => (Node.faithful_unplaced n).symm
  refine ⟨(derivesAll_of_parse h).source?, ?_⟩
  rw [hsource]
  show _ ↔ ∀ n ∈ ns, n.Faithful
  rw [hfaithful]
  constructor
  · -- the second program is derived from the gist of the source of the first, and is the same
    rintro ⟨ns', hparse, hsame⟩
    rw [Node.sameAll_iff] at hsame
    have hagain := (derivesAll_gist hparse).1
    rw [hsame] at hagain
    exact faithful_of_derivesAll hagain (fun _ => free_of_mem_gist) rfl
  · intro hall
    have hwritten := derivesAll_programSource (hderives.written (fun _ => free_of_mem_gist) hall)
    obtain ⟨ns', hparse, hsame⟩ := parseText_of_derivesAll hwritten hfits
    exact ⟨ns', hparse, (Node.sameAll_iff ns' ns).2 hsame⟩

/-- A map with an atom for its key is kept by its canonical source, a map with an alias is not. -/
theorem parseText_programSource_of_keys :
    (∃ ns, parseText "%\x7b:a => 1\x7d" = .ok ns ∧
      ∃ ns', parseText (Text.joinLines (ns.map Node.source)) = .ok ns' ∧
        Node.sameAll ns' ns = true) ∧
    ∃ ns, parseText "%\x7bAb => 1\x7d" = .ok ns ∧
      ¬ ∃ ns', parseText (Text.joinLines (ns.map Node.source)) = .ok ns' ∧
        Node.sameAll ns' ns = true := by
  have hatom : parseText "%\x7b:a => 1\x7d" = .ok [.hashMap .hashMap
      [.literal .atom .atom ⟨.atom, [':', 'a'], ⟨1, 3⟩⟩]
      [.literal .number .number ⟨.number, ['1'], ⟨1, 9⟩⟩]] := by cbv
  have halias : parseText "%\x7bAb => 1\x7d" = .ok [.hashMap .hashMap
      [.literal .atom .atom ⟨.atom, ['A', 'b'], ⟨1, 3⟩⟩]
      [.literal .number .number ⟨.number, ['1'], ⟨1, 9⟩⟩]] := by cbv
  refine ⟨⟨_, hatom, (parseText_programSource_iff hatom).2.2 ?_⟩, _, halias, fun hround => ?_⟩
  · rw [List.forall_mem_singleton]
    show Node.Faithful _
    rw [Node.faithful_hashMap, List.zip_cons_cons, List.zip_nil_right, List.forall_mem_singleton,
      Node.faithful_literal, Node.faithful_literal]
    simp [Node.FaithfulKey, Node.IsAliasKey, Node.IsSingleQuotedKey, Node.IsDigitKey,
      Node.IsDottedAtom, Node.atomLexeme?, Node.atomName, Extent.Dotted]
  · have hshapes := (parseText_programSource_iff halias).2.1 hround _ (List.mem_singleton_self _) _
      (by rw [Node.subterms_eq]; exact List.mem_cons_self)
    exact (hshapes.2 _ (List.mem_singleton_self _)).1 ⟨_, rfl, by decide⟩

end Program

end ElixirTerms
