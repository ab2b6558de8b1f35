/-
# Programs out of JSON

Every node of a program that is parsed is found again in its JSON, but for positions.  The decoder
relies on what the grammar sees to: nodes are announced under the kinds of their shapes, names are
identifiers, literals have the form of their kind, and a map has a value for every key.  The source
of a node alone would not do, since an alias and a keyword of one name have one source as map keys.
-/
import ElixirTerms.Proofs.Canonical.RoundTrip
import ElixirTerms.Proofs.Exported.Decoder

namespace ElixirTerms

namespace Node

/-! ## Nodes that are exported without loss -/

/-- A node as the grammar makes it: announced under the kind of its shape, with identifiers for
names and a value for every key. -/
inductive Proper : Node → Prop where
  | literal {form : Form} {kind : Kind} {t : Token} :
      Grammar.IsLiteral t.kind form kind → Proper (.literal form kind t)
  | call {name : Token} {args : List Node} :
      name.kind = .identifier → (∀ a ∈ args, Proper a) → Proper (.call .anonCall name args)
  | moduleAttribute {name : Token} {v : Node} :
      name.kind = .identifier → Proper v → Proper (.moduleAttribute .moduleAttribute name v)
  | collection {shape : Shape} {es : List Node} :
      (∀ e ∈ es, Proper e) → Proper (.collection shape shape.kind es)
  | hashMap {keys values : List Node} :
      keys.length = values.length → (∀ k ∈ keys, Proper k) → (∀ v ∈ values, Proper v) →
      Proper (.hashMap .hashMap keys values)

/-- A node that is decoded from its JSON as the same node, but for positions. -/
def Restored (n : Node) : Prop := ∃ m, ofJson? n.toJson = some m ∧ m.unplaced = n.unplaced

/-- The JSON of an entry of a map. -/
def entryJson (key value : Json) : Json := .record [("key", key), ("value", value)]

/-- Nodes that are restored one by one are restored as a row. -/
theorem exists_mapM_ofJson? {ns : List Node} (h : ∀ n ∈ ns, Restored n) :
    ∃ ms, (ns.map toJson).mapM ofJson? = some ms ∧ ms.map unplaced = ns.map unplaced := by
  induction ns with
  | nil => exact ⟨[], rfl, rfl⟩
  | cons n ns ih =>
      obtain ⟨⟨m, hm, hn⟩, hns⟩ := List.forall_mem_cons.1 h
      obtain ⟨ms, hms, hrest⟩ := ih hns
      refine ⟨m :: ms, ?_, ?_⟩
      · rw [List.map_cons, List.mapM_cons, hm, hms]
        rfl
      · rw [List.map_cons, List.map_cons, hn, hrest]

/-- Keys and values that are restored one by one are restored as entries. -/
theorem exists_mapM_entryOfJson? {keys values : List Node} (hlength : keys.length = values.length)
    (hkeys : ∀ k ∈ keys, Restored k) (hvalues : ∀ v ∈ values, Restored v) :
    ∃ entries : List (Node × Node),
      (List.zipWith entryJson (keys.map toJson) (values.map toJson)).mapM entryOfJson? =
        some entries ∧
      (entries.map (·.1)).map unplaced = keys.map unplaced ∧
      (entries.map (·.2)).map unplaced = values.map unplaced := by
  induction keys generalizing values with
  | nil =>
      obtain rfl := List.length_eq_zero_iff.1 hlength.symm
      exact ⟨[], rfl, rfl, rfl⟩
  | cons key keys ih =>
      cases values with
      | nil => cases hlength
      | cons value values =>
          obtain ⟨⟨k, hk, hkey⟩, hkeys⟩ := List.forall_mem_cons.1 hkeys
          obtain ⟨⟨v, hv, hvalue⟩, hvalues⟩ := List.forall_mem_cons.1 hvalues
          obtain ⟨entries, hentries, hfst, hsnd⟩ := ih (Nat.succ.inj hlength) hkeys hvalues
          have hentry : entryOfJson? (entryJson key.toJson value.toJson) = some (k, v) := by
            show ((ofJson? key.toJson).bind fun k => (ofJson? value.toJson).bind fun v =>
              some (k, v)) = some (k, v)
            rw [hk, hv]
            rfl
          refine ⟨(k, v) :: entries, ?_, ?_, ?_⟩
          · rw [List.map_cons, List.map_cons, List.zipWith_cons_cons, List.mapM_cons, hentry,
              hentries]
            rfl
          · rw [List.map_cons, List.map_cons, List.map_cons, hkey, hfst]
          · rw [List.map_cons, List.map_cons, List.map_cons, hvalue, hsnd]

/-! ## One shape after the other -/

/-- A token is the identifier of its lexeme but for its position. -/
theorem unplaced_identifier {t : Token} (h : t.kind = .identifier) :
    (⟨.identifier, t.lexeme, .nowhere⟩ : Token).unplaced = t.unplaced := by
  obtain ⟨kind, lexeme, position⟩ := t
  cases h
  rfl

/-- A literal is restored, with the position of its token. -/
theorem restored_literal {form : Form} {kind : Kind} {t : Token}
    (h : Grammar.IsLiteral t.kind form kind) : Restored (.literal form kind t) := by
  refine ⟨.literal form kind t, ?_, rfl⟩
  have hdecoded : ofJson? (literal form kind t).toJson =
      (Token.ofJson? t.toJson).bind fun t => some (.literal form kind t) := by
    rw [ofJson?_eq]
    simp only [toJson]
    generalize t.kind = k at h
    cases h <;> rfl
  rw [hdecoded, Token.ofJson?_toJson]
  rfl

/-- A call is restored if its arguments are. -/
theorem restored_call {name : Token} {args : List Node} (hname : name.kind = .identifier)
    (hargs : ∀ a ∈ args, Restored a) : Restored (.call .anonCall name args) := by
  obtain ⟨ms, hms, hsame⟩ := exists_mapM_ofJson? hargs
  refine ⟨.call .anonCall ⟨.identifier, name.lexeme, .nowhere⟩ ms, ?_, ?_⟩
  · have hdecoded : ofJson? (call .anonCall name args).toJson =
        ((args.map toJson).mapM ofJson?).bind fun ms =>
          some (.call .anonCall ⟨.identifier, name.lexeme, .nowhere⟩ ms) := by
      rw [ofJson?_eq]
      simp only [toJson]
      rfl
    rw [hdecoded, hms]
    rfl
  · rw [unplaced, unplaced, hsame, unplaced_identifier hname]

/-- A module attribute is restored if its value is. -/
theorem restored_moduleAttribute {name : Token} {v : Node} (hname : name.kind = .identifier)
    (hv : Restored v) : Restored (.moduleAttribute .moduleAttribute name v) := by
  obtain ⟨m, hm, hsame⟩ := hv
  refine ⟨.moduleAttribute .moduleAttribute ⟨.identifier, name.lexeme, .nowhere⟩ m, ?_, ?_⟩
  · have hdecoded : ofJson? (moduleAttribute .moduleAttribute name v).toJson =
        (ofJson? v.toJson).bind fun m =>
          some (.moduleAttribute .moduleAttribute ⟨.identifier, name.lexeme, .nowhere⟩ m) := by
      rw [ofJson?_eq]
      simp only [toJson]
      rfl
    rw [hdecoded, hm]
    rfl
  · rw [unplaced, unplaced, hsame, unplaced_identifier hname]

/-- A row of elements is restored if its elements are. -/
theorem restored_collection {shape : Shape} {es : List Node} (hes : ∀ e ∈ es, Restored e) :
    Restored (.collection shape shape.kind es) := by
  obtain ⟨ms, hms, hsame⟩ := exists_mapM_ofJson? hes
  refine ⟨.collection shape shape.kind ms, ?_, ?_⟩
  · have hdecoded : ofJson? (collection shape shape.kind es).toJson =
        ((es.map toJson).mapM ofJson?).bind fun ms => some (.collection shape shape.kind ms) := by
      rw [ofJson?_eq]
      simp only [toJson]
      cases shape <;> rfl
    rw [hdecoded, hms]
    rfl
  · rw [unplaced, unplaced, hsame]

/-- A map with a value for every key is restored if its keys and its values are. -/
theorem restored_hashMap {keys values : List Node} (hlength : keys.length = values.length)
    (hkeys : ∀ k ∈ keys, Restored k) (hvalues : ∀ v ∈ values, Restored v) :
    Restored (.hashMap .hashMap keys values) := by
  obtain ⟨entries, hentries, hfst, hsnd⟩ := exists_mapM_entryOfJson? hlength hkeys hvalues
  refine ⟨Expression.mapOfEntries entries, ?_, ?_⟩
  · have hdecoded : ofJson? (hashMap .hashMap keys values).toJson =
        ((List.zipWith entryJson (keys.map toJson) (values.map toJson)).mapM entryOfJson?).bind
          fun entries => some (Expression.mapOfEntries entries) := by
      rw [ofJson?_eq]
      simp only [toJson]
      rfl
    rw [hdecoded, hentries]
    rfl
  · rw [Expression.mapOfEntries, unplaced, unplaced, hfst, hsnd]

/-- A proper node is restored. -/
theorem Proper.restored {n : Node} (h : n.Proper) : n.Restored := by
  induction h with
  | literal hform => exact restored_literal hform
  | call hname _ ih => exact restored_call hname ih
  | moduleAttribute hname _ ih => exact restored_moduleAttribute hname ih
  | collection _ ih => exact restored_collection ih
  | hashMap hlength _ _ ihkeys ihvalues => exact restored_hashMap hlength ihkeys ihvalues

/-! ## Faults -/

/-- Nodes have no fault if and only if none of them has one. -/
theorem findSome?_map_eq_none_iff {fault? : Node → Option SourceFault} {ns : List Node} :
    (ns.map fault?).findSome? id = none ↔ ∀ n ∈ ns, fault? n = none := by
  rw [List.findSome?_eq_none_iff, List.forall_mem_map]
  rfl

/-- Entries have no fault if and only if no key and no value of an entry has one. -/
theorem findSome?_zipWith_eq_none_iff {fault? : Node → Option SourceFault}
    {keys values : List Node} :
    (List.zipWith (·.or ·) (keys.map fault?) (values.map fault?)).findSome? id = none ↔
      ∀ entry ∈ keys.zip values, fault? entry.1 = none ∧ fault? entry.2 = none := by
  have hzip : List.zipWith (·.or ·) (keys.map fault?) (values.map fault?) =
      (keys.zip values).map fun entry => (fault? entry.1).or (fault? entry.2) := by
    rw [List.zipWith_map, List.map_zip_eq_zipWith]
    rfl
  rw [hzip, List.findSome?_eq_none_iff, List.forall_mem_map]
  simp only [id, Option.or_eq_none_iff]

/-- A node that has a source can be exported: whatever is shown of the nodes inside it, their
sources are part of its own. -/
theorem jsonFault?_eq_none {n : Node} (h : n.sourceFault? = none) : n.jsonFault? = none := by
  induction n using Node.induction with
  | missing => rw [jsonFault?]
  | bare k => rw [sourceFault?] at h; cases h
  | literal form k t => rw [jsonFault?]
  | call k t args ih =>
      rw [jsonFault?, h, Option.or_none]
      rw [sourceFault?, findSome?_map_eq_none_iff] at h
      rw [findSome?_map_eq_none_iff.2 fun a ha => ih a ha (h a ha), ite_self]
  | moduleAttribute k t v ih =>
      rw [jsonFault?, h, Option.or_none]
      rw [sourceFault?] at h
      rw [ih h, ite_self]
  | collection shape k es ih =>
      rw [jsonFault?, h, Option.or_none]
      rw [sourceFault?, findSome?_map_eq_none_iff] at h
      rw [findSome?_map_eq_none_iff.2 fun e he => ih e he (h e he), ite_self]
  | hashMap k keys values ihkeys ihvalues =>
      rw [jsonFault?, h, Option.or_none]
      rw [sourceFault?, findSome?_zipWith_eq_none_iff] at h
      have hentries : ∀ entry ∈ keys.zip values,
          entry.1.jsonFault? = none ∧ entry.2.jsonFault? = none := by
        intro entry hentry
        obtain ⟨hkey, hvalue⟩ := List.of_mem_zip hentry
        exact ⟨ihkeys _ hkey (h entry hentry).1, ihvalues _ hvalue (h entry hentry).2⟩
      rw [findSome?_zipWith_eq_none_iff.2 hentries, ite_self]

end Node

/-! ## What the grammar derives -/

namespace Grammar

/-- The nodes of a phrase are proper. -/
def Phrase.Proper : Phrase → Prop
  | .expression n => n.Proper
  | .entry k v => k.Proper ∧ v.Proper

/-- What the grammar derives is proper. -/
theorem Derives.proper {φ : Phrase} {ts : List Token} (h : Derives φ ts) : φ.Proper := by
  induction h with
  | moduleAttribute _ hname _ ih => exact .moduleAttribute hname ih
  | call hname _ _ _ _ _ _ ih => exact .call hname (List.forall_mem_map.2 ih)
  | literal hform => exact .literal hform
  | collection _ _ _ _ ih => exact .collection (List.forall_mem_map.2 ih)
  | hashMap _ _ _ _ _ ih =>
      refine .hashMap (by rw [List.length_map, List.length_map]) ?_ ?_
      · exact List.forall_mem_map.2 fun part hpart => (ih part hpart).1
      · exact List.forall_mem_map.2 fun part hpart => (ih part hpart).2
  | keyword _ _ _ ih => exact ⟨.literal .atom, ih⟩
  | arrow _ _ _ ihkey ihvalue => exact ⟨ihkey, ihvalue⟩

/-- All expressions of a program that the grammar derives are exported, and are restored. -/
theorem DerivesAll.restored {ns : List Node} {ts : List Token} (h : DerivesAll ns ts) :
    ∀ n ∈ ns, n.toJson? = .ok n.toJson ∧ n.Restored := by
  induction h with
  | nil => nofun
  | @cons n _ _ _ hn _ ih =>
      refine List.forall_mem_cons.2 ⟨⟨?_, ?_⟩, ih⟩
      · have hsourced : n.sourceFault? = none := hn.sourced
        rw [Node.toJson?, Node.jsonFault?_eq_none hsourced]
        rfl
      · exact Node.Proper.restored hn.proper

end Grammar

namespace Program

open Node

/-! ## Programs -/

/-- Nodes that are restored from values that agree are the same. -/
theorem sameAll_of_alike {ns ns' : List Node} (hns : ∀ n ∈ ns, n.Restored)
    (hns' : ∀ n ∈ ns', n.Restored) (h : List.Forall₂ Json.Alike (ns.map toJson) (ns'.map toJson)) :
    sameAll ns ns' = true := by
  obtain ⟨ms, hms, hsame⟩ := exists_mapM_ofJson? hns
  obtain ⟨ms', hms', hsame'⟩ := exists_mapM_ofJson? hns'
  have hdecoded : (ns.map toJson).mapM ofJson? = (ns'.map toJson).mapM ofJson? :=
    Json.Alike.mapM_eq h fun v v' hv _ => ofJson?_eq_of_alike hv
  rw [hms, hms'] at hdecoded
  obtain rfl := Option.some.inj hdecoded
  rw [sameAll_iff, ← hsame, ← hsame']

/-- An alias and a keyword of one name, as map keys, have one source, and they are different. -/
theorem exists_source_eq_not_same :
    ∃ ns ns', parseText "%\x7bAb => 1\x7d" = .ok ns ∧ parseText "%\x7bAb: 1\x7d" = .ok ns' ∧
      ns.map source = ns'.map source ∧ sameAll ns ns' = false := by
  have halias : parseText "%\x7bAb => 1\x7d" = .ok [.hashMap .hashMap
      [.literal .atom .atom ⟨.atom, ['A', 'b'], ⟨1, 3⟩⟩]
      [.literal .number .number ⟨.number, ['1'], ⟨1, 9⟩⟩]] := by cbv
  have hkeyword : parseText "%\x7bAb: 1\x7d" = .ok [.hashMap .hashMap
      [.literal .atom .atom ⟨.atom, [':', 'A', 'b'], ⟨1, 3⟩⟩]
      [.literal .number .number ⟨.number, ['1'], ⟨1, 7⟩⟩]] := by cbv
  exact ⟨_, _, halias, hkeyword, by cbv, by cbv⟩

/-- **JSON determines the program.**  Every expression of a program that is parsed is exported, and
decoded as the same expression.  So programs of which the JSON values agree, even if their fields
stand in another order, are the same; and this takes more than the sources, which may be equal where
the programs are not. -/
theorem decoded_of_parse :
    (∀ tokens ns, parse tokens = .ok ns → ∀ n ∈ ns,
      ∃ j m, n.toJson? = .ok j ∧ Node.ofJson? j = some m ∧ m.same n = true) ∧
    (∀ tokens tokens' ns ns', parse tokens = .ok ns → parse tokens' = .ok ns' →
      List.Forall₂ Json.Alike (ns.map toJson) (ns'.map toJson) → sameAll ns ns' = true) ∧
    (∃ tokens tokens' ns ns', parse tokens = .ok ns ∧ parse tokens' = .ok ns' ∧
      ns.map source = ns'.map source ∧ sameAll ns ns' = false) := by
  refine ⟨fun tokens ns h n hn => ?_, fun tokens tokens' ns ns' h h' halike => ?_, ?_⟩
  · obtain ⟨hjson, m, hm, hsame⟩ := (Grammar.derivesAll_of_parse h).restored n hn
    exact ⟨n.toJson, m, hjson, hm, (same_iff m n).2 hsame⟩
  · have hns := (Grammar.derivesAll_of_parse h).restored
    have hns' := (Grammar.derivesAll_of_parse h').restored
    exact sameAll_of_alike (fun n hn => (hns n hn).2) (fun n hn => (hns' n hn).2) halike
  · obtain ⟨ns, ns', hns, hns', hsource, hsame⟩ := exists_source_eq_not_same
    exact ⟨_, _, ns, ns', hns, hns', hsource, hsame⟩

/-- Two module attributes with their names in different columns have the same JSON, so they are the
same, and both are decoded from it. -/
theorem decoded_of_parse_moduleAttribute :
    ∃ ns ns', parseText "@a  [1]" = .ok ns ∧ parseText "@ a [1]" = .ok ns' ∧
      (∀ n ∈ ns, ∃ j m, n.toJson? = .ok j ∧ Node.ofJson? j = some m ∧ m.same n = true) ∧
      sameAll ns ns' = true := by
  have h : parseText "@a  [1]" = .ok [.moduleAttribute .moduleAttribute
      ⟨.identifier, ['a'], ⟨1, 2⟩⟩
      (.collection .list .list [.literal .number .number ⟨.number, ['1'], ⟨1, 6⟩⟩])] := by cbv
  have h' : parseText "@ a [1]" = .ok [.moduleAttribute .moduleAttribute
      ⟨.identifier, ['a'], ⟨1, 3⟩⟩
      (.collection .list .list [.literal .number .number ⟨.number, ['1'], ⟨1, 6⟩⟩])] := by cbv
  refine ⟨_, _, h, h', decoded_of_parse.1 _ _ h, decoded_of_parse.2.1 _ _ _ _ h h' ?_⟩
  -- the JSON of a name is its lexeme
  have hjson (p : Position) (v : Node) :
      (moduleAttribute .moduleAttribute ⟨.identifier, ['a'], p⟩ v).toJson =
        (moduleAttribute .moduleAttribute ⟨.identifier, ['a'], .nowhere⟩ v).toJson := by
    simp only [toJson, source]
  rw [List.map_singleton, List.map_singleton, hjson, hjson ⟨1, 3⟩]
  exact List.forall₂_same.2 fun j _ => Json.Alike.refl j

end Program

end ElixirTerms
