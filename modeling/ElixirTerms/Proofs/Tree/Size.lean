/-
# Sizes of terms

The size of a term is the number of its nodes, with the keys and the values of a map counted each by
itself.  A term that the grammar derives has a value for every key, so its nodes are as many as its
size says (`length_subtermsAll_of_derives`).
-/
import ElixirTerms.Proofs.Exported.Program

namespace ElixirTerms

namespace Node

/-- The number of nodes of a term. -/
def size : Node → Nat
  | missing | bare _ | literal .. => 1
  | call _ _ args => 1 + (args.map size).sum
  | moduleAttribute _ _ v => 1 + v.size
  | collection _ _ es => 1 + (es.map size).sum
  | hashMap _ keys values => 1 + ((keys.map size).sum + (values.map size).sum)

/-- The number of nodes of a program. -/
def sizeAll (ns : List Node) : Nat := (ns.map size).sum

/-- The nodes of a program, each before the nodes inside it. -/
def subtermsAll (ns : List Node) : List Node := ns.flatMap subterms

/-- The nodes of a term are the term and those of its parts. -/
theorem subterms_eq_parts (n : Node) : n.subterms = n :: subtermsAll n.parts := by
  rw [subterms_eq, subtermsAll, parts, List.flatMap_map]

/-- A sum over the keys and values of a map, entry by entry. -/
theorem sum_map_flatMap_zip (f : Node → Nat) {keys values : List Node}
    (h : keys.length = values.length) :
    (((keys.zip values).flatMap fun entry => [entry.1, entry.2]).map f).sum =
      (keys.map f).sum + (values.map f).sum := by
  induction keys generalizing values with
  | nil =>
      obtain rfl := List.length_eq_zero_iff.1 h.symm
      rfl
  | cons k keys ih =>
      cases values with
      | nil => cases h
      | cons v values =>
          have hrest := ih (Nat.succ.inj h)
          simp only [List.zip_cons_cons, List.flatMap_cons, List.map_append, List.map_cons,
            List.map_nil, List.sum_append, List.sum_cons, List.sum_nil, hrest]
          omega

/-- The size of a proper node counts it and its parts. -/
theorem Proper.size_eq {n : Node} (h : n.Proper) : n.size = 1 + sizeAll n.parts := by
  cases h with
  | literal _ => rw [size, parts_literal, sizeAll, List.map_nil, List.sum_nil, Nat.add_zero]
  | call _ _ => rw [size, parts_call, sizeAll]
  | moduleAttribute _ _ =>
      rw [size, parts_moduleAttribute, sizeAll, List.map_singleton, List.sum_singleton]
  | collection _ => rw [size, parts_collection, sizeAll]
  | hashMap hlength _ _ => rw [size, parts_hashMap, sizeAll, sum_map_flatMap_zip size hlength]

/-- The parts of a proper node are proper. -/
theorem Proper.parts {n : Node} (h : n.Proper) : ∀ part ∈ n.parts, part.Proper := by
  cases h with
  | literal _ => nofun
  | call _ hargs => rwa [parts_call]
  | moduleAttribute _ hv => rwa [parts_moduleAttribute, List.forall_mem_singleton]
  | collection hes => rwa [parts_collection]
  | hashMap _ hkeys hvalues =>
      rw [parts_hashMap, List.forall_mem_flatMap]
      intro entry hentry
      obtain ⟨hkey, hvalue⟩ := List.of_mem_zip hentry
      simp only [List.forall_mem_cons, List.not_mem_nil, false_implies, implies_true, and_true]
      exact ⟨hkeys _ hkey, hvalues _ hvalue⟩

/-- Programs have as many nodes as their sizes say if their expressions have. -/
theorem length_subtermsAll {ns : List Node} (h : ∀ n ∈ ns, n.subterms.length = n.size) :
    (subtermsAll ns).length = sizeAll ns := by
  rw [subtermsAll, List.length_flatMap, sizeAll, List.map_congr_left h]

/-- A proper node has as many nodes as its size says. -/
theorem Proper.length_subterms {n : Node} (h : n.Proper) : n.subterms.length = n.size := by
  induction n using children_induction with
  | step n ih =>
      have hparts : ∀ part ∈ n.parts, part.subterms.length = part.size := by
        intro part hpart
        obtain ⟨⟨role, child⟩, hchild, rfl⟩ := List.mem_map.1 hpart
        exact ih role child hchild (h.parts child hpart)
      rw [subterms_eq_parts, List.length_cons, length_subtermsAll hparts, h.size_eq]
      exact Nat.add_comm _ 1

end Node

namespace Grammar

/-- The expressions of a program that the grammar derives are derived one by one. -/
theorem DerivesAll.forall_derives {ns : List Node} {ts : List Token} (h : DerivesAll ns ts) :
    ∀ n ∈ ns, ∃ us, Derives (.expression n) us := by
  induction h with
  | nil => nofun
  | cons hn _ ih => exact List.forall_mem_cons.2 ⟨⟨_, hn⟩, ih⟩

/-- Nodes that the grammar derives are as many as their sizes say. -/
theorem length_subtermsAll_of_derives {ns : List Node}
    (h : ∀ n ∈ ns, ∃ us, Derives (.expression n) us) :
    (Node.subtermsAll ns).length = Node.sizeAll ns := by
  apply Node.length_subtermsAll
  intro n hn
  obtain ⟨us, hus⟩ := h n hn
  exact Node.Proper.length_subterms hus.proper

end Grammar

end ElixirTerms
