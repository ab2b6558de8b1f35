/-
# Keys as keywords

Canonical source writes every map key that is an atom as a keyword.  The key that is read back from
a keyword is an atom with a colon of its own, so an alias that was a key is one no longer; the
source stays what it was (`source_keyworded`).
-/
import ElixirTerms.Proofs.Canonical.Source

namespace ElixirTerms.Node

/-! ## Keys -/

/-- A map key as it is read back from a keyword: an atom gets a colon of its own. -/
def asKeyword : Node → Node
  | literal .atom kind t => literal .atom kind ⟨t.kind, ':' :: atomName t.lexeme, t.position⟩
  | key => key

/-- A key that is no atom stays what it is. -/
theorem asKeyword_of_not_atom {key : Node} (h : key.atomLexeme? = none) : key.asKeyword = key := by
  unfold asKeyword
  split
  · cases h
  · rfl

/-- A key that is an atom is one also as a keyword, and it has the same name. -/
theorem exists_atomLexeme?_asKeyword {key : Node} {s : Text} (h : key.atomLexeme? = some s) :
    ∃ s', key.asKeyword.atomLexeme? = some s' ∧ atomName s' = atomName s := by
  obtain ⟨kind, t, rfl, rfl⟩ := atomLexeme?_eq_some h
  exact ⟨':' :: atomName t.lexeme, rfl, rfl⟩

/-- A key is written alike as a keyword. -/
theorem keySource_asKeyword (key : Node) (source : Text) :
    keySource key.asKeyword source = keySource key source := by
  cases h : key.atomLexeme? with
  | none => rw [asKeyword_of_not_atom h]
  | some s =>
      obtain ⟨s', hs', hname⟩ := exists_atomLexeme?_asKeyword h
      rw [keySource_of_atom h, keySource_of_atom hs', hname]

/-- The name of what has no colon of its own is all of it. -/
theorem atomName_of_head? {s : Text} (h : s.head? ≠ some ':') : atomName s = s := by
  unfold atomName
  split
  · exact absurd rfl h
  · rfl

/-! ## Nodes -/

/-- The node with all the keys of its maps as they are read back from keywords, at every depth. -/
def keyworded : Node → Node
  | missing => .missing
  | bare k => .bare k
  | literal form k t => .literal form k t
  | call k t args => .call k t (args.map keyworded)
  | moduleAttribute k t v => .moduleAttribute k t v.keyworded
  | collection shape k es => .collection shape k (es.map keyworded)
  | hashMap k keys values =>
    .hashMap k (keys.map fun key => key.keyworded.asKeyword) (values.map keyworded)

/-- Only maps change, so a key is an atom if it was one before. -/
theorem atomLexeme?_keyworded (n : Node) : n.keyworded.atomLexeme? = n.atomLexeme? := by
  cases n <;> simp [keyworded, atomLexeme?]

/-- Entries are written alike with a keyword for their key. -/
theorem entrySource_keyworded {key value : Node} (hkey : key.keyworded.source = key.source)
    (hvalue : value.keyworded.source = value.source) :
    entrySource (key.keyworded.asKeyword, value.keyworded) = entrySource (key, value) := by
  simp only [entrySource, hvalue, keySource_asKeyword]
  cases h : key.atomLexeme? with
  | none =>
      have h' := key.atomLexeme?_keyworded.trans h
      rw [keySource_of_not_atom h, keySource_of_not_atom h', asKeyword_of_not_atom h', hkey]
  | some s => rw [keySource_of_atom h, keySource_of_atom (key.atomLexeme?_keyworded.trans h)]

/-- **Nodes.**  A node is written alike with keywords for the keys of its maps. -/
theorem source_keyworded (n : Node) : n.keyworded.source = n.source := by
  induction n using Node.induction with
  | missing | bare _ | literal _ _ _ => rw [keyworded]
  | call k t args ih =>
      have hargs : args.map (source ∘ keyworded) = args.map source := List.map_congr_left ih
      rw [keyworded, source_call, source_call, List.map_map, hargs]
  | moduleAttribute k t v ih => rw [keyworded, source_moduleAttribute, source_moduleAttribute, ih]
  | collection shape k es ih =>
      have hes : es.map (source ∘ keyworded) = es.map source := List.map_congr_left ih
      rw [keyworded, source_collection, source_collection, List.map_map, hes]
  | hashMap k keys values ihkeys ihvalues =>
      have hentries : (keys.zip values).map
          (entrySource ∘ Prod.map (fun key => key.keyworded.asKeyword) keyworded) =
            (keys.zip values).map entrySource := by
        refine List.map_congr_left fun entry hentry => ?_
        obtain ⟨hkey, hvalue⟩ := List.of_mem_zip (show (entry.1, entry.2) ∈ _ from hentry)
        exact entrySource_keyworded (ihkeys _ hkey) (ihvalues _ hvalue)
      rw [keyworded, source_hashMap, source_hashMap, List.zip_map, List.map_map, hentries]

/-- A program is written alike with keywords for the keys of its maps. -/
theorem programSource_keyworded (ns : List Node) :
    programSource (ns.map keyworded) = programSource ns := by
  have hlines : ns.map (source ∘ keyworded) = ns.map source :=
    List.map_congr_left fun n _ => source_keyworded n
  rw [programSource, programSource, List.map_map, hlines]

/-! ## Nodes taken from their places -/

/-- A key is the same keyword wherever it stood. -/
theorem asKeyword_unplaced (key : Node) : key.unplaced.asKeyword = key.asKeyword.unplaced := by
  cases h : key.atomLexeme? with
  | none => rw [asKeyword_of_not_atom h, asKeyword_of_not_atom (key.atomLexeme?_unplaced.trans h)]
  | some s =>
      obtain ⟨kind, t, rfl, -⟩ := atomLexeme?_eq_some h
      simp [unplaced, asKeyword, Token.unplaced]

/-- A node has the same keywords wherever it stood. -/
theorem keyworded_unplaced (n : Node) : n.unplaced.keyworded = n.keyworded.unplaced := by
  induction n using Node.induction with
  | missing | bare _ | literal _ _ _ => simp [unplaced, keyworded]
  | call k t args ih => simpa [unplaced, keyworded] using ih
  | moduleAttribute k t v ih => simp [unplaced, keyworded, ih]
  | collection shape k es ih => simpa [unplaced, keyworded] using ih
  | hashMap k keys values ihkeys ihvalues =>
      have hkeys : ∀ key ∈ keys,
          key.unplaced.keyworded.asKeyword = key.keyworded.asKeyword.unplaced := by
        intro key hkey
        rw [ihkeys key hkey, asKeyword_unplaced]
      simpa [unplaced, keyworded] using ⟨hkeys, ihvalues⟩

end ElixirTerms.Node
