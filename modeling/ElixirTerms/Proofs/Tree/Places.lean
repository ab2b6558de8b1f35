/-
# Places in a program

Equal nodes may occur in a program more than once, so a node is told by its place: the indices that
lead from the program to an expression, to a child of it, and so on.  In lexicographic order a place
comes before the places inside it, and these before the places of later siblings.  The rank of a
place is the number of places before it (`rank_lt_rank`, `exists_rank_eq`).
-/
import Mathlib
import ElixirTerms.Proofs.Tree.Size

namespace ElixirTerms

/-- The children of a node, or the expressions of a program, with their roles. -/
abbrev Forest := List (Role × Node)

/-- The indices on the way from a program to one of its nodes; the empty place is the program's. -/
abbrev Place := List Nat

namespace Forest

/-- The nodes of a forest, each before the nodes inside it. -/
def nodes (cs : Forest) : List Node := Node.subtermsAll (cs.map (·.2))

/-- The children at a place, if there is such a place below those at hand. -/
def below? : Forest → Place → Option Forest
  | cs, [] => some cs
  | cs, i :: p => cs[i]?.bind fun c => below? c.2.children p

/-- The number of nodes before the child at an index. -/
def before (cs : Forest) (i : Nat) : Nat := (nodes (cs.take i)).length

/-- The number of places before a place. -/
def rank : Forest → Place → Nat
  | _, [] => 0
  | cs, i :: p => 1 + before cs i + cs[i]?.elim 0 fun c => rank c.2.children p

/-- Every forest has a property that passes from the children of its nodes to the forest. -/
theorem children_induction {motive : Forest → Prop}
    (step : ∀ cs : Forest, (∀ c ∈ cs, motive c.2.children) → motive cs) (cs : Forest) :
    motive cs := by
  have hall (n : Node) : motive n.children := by
    induction n using Node.children_induction with
    | step n ih => exact step n.children fun c hc => ih c.1 c.2 hc
  exact step cs fun c _ => hall c.2

/-- Every forest has a property that passes from the children of its first node and from the rest to
the forest. -/
theorem cons_induction {motive : Forest → Prop} (nil : motive [])
    (cons : ∀ (c : Role × Node) (cs : Forest), motive c.2.children → motive cs →
      motive (c :: cs)) (cs : Forest) : motive cs := by
  induction cs using children_induction with
  | step cs ih =>
      induction cs with
      | nil => exact nil
      | cons c cs ihcs =>
          obtain ⟨hc, hcs⟩ := List.forall_mem_cons.1 ih
          exact cons c cs hc (ihcs hcs)

variable {cs ds : Forest} {c : Role × Node} {p q : Place} {i j k : Nat}

/-! ## Nodes -/

@[simp] theorem nodes_nil : nodes [] = [] := rfl

@[simp] theorem nodes_cons (c : Role × Node) (cs : Forest) :
    nodes (c :: cs) = c.2.subterms ++ nodes cs := rfl

/-- The nodes of a program are those of its expressions. -/
theorem nodes_expressions (ns : List Node) : nodes (Node.expressions ns) = Node.subtermsAll ns := by
  rw [nodes, Node.map_snd_expressions]

/-- A term consists of its node and of the nodes of its children. -/
theorem subterms_eq_nodes (n : Node) : n.subterms = n :: nodes n.children :=
  Node.subterms_eq_parts n

@[simp] theorem length_subterms (n : Node) : n.subterms.length = (nodes n.children).length + 1 := by
  rw [subterms_eq_nodes, List.length_cons]

/-- A forest has the first node, those below it, and those of the rest. -/
theorem length_nodes_cons (c : Role × Node) (cs : Forest) :
    (nodes (c :: cs)).length = (nodes c.2.children).length + 1 + (nodes cs).length := by
  rw [nodes_cons, List.length_append, length_subterms]

@[simp] theorem before_zero (cs : Forest) : before cs 0 = 0 := rfl

@[simp] theorem before_succ (c : Role × Node) (cs : Forest) (i : Nat) :
    before (c :: cs) (i + 1) = c.2.subterms.length + before cs i := by
  rw [before, List.take_succ_cons, nodes_cons, List.length_append, before]

/-- The nodes before a child and those of the child are among all nodes. -/
theorem before_add_le_length (h : cs[i]? = some c) :
    before cs i + c.2.subterms.length ≤ (nodes cs).length := by
  induction cs generalizing i with
  | nil => cases h
  | cons d cs ih =>
      rw [nodes_cons, List.length_append]
      cases i with
      | zero =>
          obtain rfl := Option.some.inj h
          rw [before_zero]
          omega
      | succ i =>
          have := ih h
          rw [before_succ]
          omega

/-- The nodes before a child and those of the child are before later children. -/
theorem before_add_le_before (h : cs[i]? = some c) (hij : i < j) :
    before cs i + c.2.subterms.length ≤ before cs j := by
  have hi : (cs.take j)[i]? = some c := by rw [List.getElem?_take, if_pos hij, h]
  have htake : (cs.take j).take i = cs.take i := by rw [List.take_take, Nat.min_eq_left hij.le]
  have hle := before_add_le_length hi
  rwa [before, htake] at hle

/-- Each node is one of those of some child. -/
theorem exists_before_le (h : k < (nodes cs).length) :
    ∃ i c, cs[i]? = some c ∧ before cs i ≤ k ∧ k < before cs i + c.2.subterms.length := by
  induction cs generalizing k with
  | nil => cases h
  | cons d cs ih =>
      rw [nodes_cons, List.length_append] at h
      by_cases hk : k < d.2.subterms.length
      · exact ⟨0, d, rfl, Nat.zero_le k, by rwa [before_zero, Nat.zero_add]⟩
      · obtain ⟨i, c, hc, hlow, hhigh⟩ :=
          ih (k := k - d.2.subterms.length) (by omega)
        refine ⟨i + 1, c, hc, ?_, ?_⟩
        all_goals
          rw [before_succ]
          omega

/-- The nodes of a child stand behind those before it. -/
theorem getElem?_nodes (h : cs[i]? = some c) (hk : k < c.2.subterms.length) :
    (nodes cs)[before cs i + k]? = c.2.subterms[k]? := by
  induction cs generalizing i with
  | nil => cases h
  | cons d cs ih =>
      rw [nodes_cons]
      cases i with
      | zero =>
          obtain rfl := Option.some.inj h
          rw [before_zero, Nat.zero_add, List.getElem?_append_left hk]
      | succ i =>
          rw [before_succ, Nat.add_assoc, List.getElem?_append_right (Nat.le_add_right _ _),
            Nat.add_sub_cancel_left, ih h]

/-! ## Places -/

@[simp] theorem below?_nil (cs : Forest) : below? cs [] = some cs := rfl

/-- A place other than the program's is a place below a child. -/
theorem below?_cons_eq_some_iff :
    below? cs (i :: p) = some ds ↔ ∃ c, cs[i]? = some c ∧ below? c.2.children p = some ds :=
  Option.bind_eq_some_iff

/-- The way to a place may be gone in two parts. -/
theorem below?_append (cs : Forest) (p q : Place) :
    below? cs (p ++ q) = (below? cs p).bind fun ds => below? ds q := by
  induction p generalizing cs with
  | nil => rfl
  | cons i p ih =>
      rw [List.cons_append, below?, below?, Option.bind_assoc]
      exact congrArg (cs[i]?.bind ·) (funext fun c => ih c.2.children)

/-- A place other than the program's is that of a child of the node at the place around it. -/
theorem exists_child_of_below? (h : below? cs q = some ds) (hq : q ≠ []) :
    ∃ p i es c, q = p ++ [i] ∧ below? cs p = some es ∧ es[i]? = some c := by
  have hsplit := List.dropLast_append_getLast hq
  rw [← hsplit, below?_append, Option.bind_eq_some_iff] at h
  obtain ⟨es, hes, hlast⟩ := h
  obtain ⟨c, hc, -⟩ := below?_cons_eq_some_iff.1 hlast
  exact ⟨_, _, es, c, hsplit.symm, hes, hc⟩

/-! ## Ranks -/

@[simp] theorem rank_nil (cs : Forest) : rank cs [] = 0 := rfl

/-- Before a place below a child are the first place, those of earlier children and those before it
below the child. -/
theorem rank_cons (h : cs[i]? = some c) (p : Place) :
    rank cs (i :: p) = 1 + before cs i + rank c.2.children p := by
  rw [rank, h]
  rfl

/-- No more places are before a place than there are nodes. -/
theorem rank_le_length (h : below? cs p = some ds) : rank cs p ≤ (nodes cs).length := by
  induction p generalizing cs with
  | nil => exact Nat.zero_le _
  | cons i p ih =>
      obtain ⟨c, hc, hp⟩ := below?_cons_eq_some_iff.1 h
      have hrank := ih hp
      have hle := before_add_le_length hc
      rw [length_subterms] at hle
      rw [rank_cons hc]
      omega

/-- The ranks of places are in the order of the places. -/
theorem rank_lt_rank {es : Forest} (hp : below? cs p = some ds) (hq : below? cs q = some es)
    (h : p < q) : rank cs p < rank cs q := by
  induction p generalizing cs q with
  | nil =>
      cases q with
      | nil => exact absurd h (lt_irrefl _)
      | cons j q =>
          obtain ⟨d, hd, -⟩ := below?_cons_eq_some_iff.1 hq
          rw [rank_nil, rank_cons hd]
          omega
  | cons i p ih =>
      cases q with
      | nil => exact absurd h (List.not_lt_nil _)
      | cons j q =>
          obtain ⟨c, hc, hp⟩ := below?_cons_eq_some_iff.1 hp
          obtain ⟨d, hd, hq⟩ := below?_cons_eq_some_iff.1 hq
          rw [rank_cons hc, rank_cons hd]
          rcases List.cons_lt_cons_iff.1 h with hij | ⟨rfl, hpq⟩
          · have hrank := rank_le_length hp
            have hle := before_add_le_before hc hij
            rw [length_subterms] at hle
            omega
          · obtain rfl := Option.some.inj (hc.symm.trans hd)
            have := ih hp hq hpq
            omega

/-- Each number up to that of the nodes is the rank of a place. -/
theorem exists_rank_eq (hk : k ≤ (nodes cs).length) :
    ∃ p ds, below? cs p = some ds ∧ rank cs p = k := by
  induction cs using children_induction generalizing k with
  | step cs ih =>
      cases k with
      | zero => exact ⟨[], cs, rfl, rfl⟩
      | succ k =>
          obtain ⟨i, c, hc, hlow, hhigh⟩ := exists_before_le hk
          rw [length_subterms] at hhigh
          obtain ⟨p, ds, hp, hrank⟩ :=
            ih c (List.mem_of_getElem? hc) (k := k - before cs i) (by omega)
          refine ⟨i :: p, ds, below?_cons_eq_some_iff.2 ⟨c, hc, hp⟩, ?_⟩
          rw [rank_cons hc, hrank]
          omega

/-- A child comes right behind as many nodes as places come before its own. -/
theorem exists_rank_eq_succ (hp : below? cs p = some ds) (hi : ds[i]? = some c) :
    ∃ k, rank cs (p ++ [i]) = k + 1 ∧ (nodes cs)[k]? = some c.2 := by
  induction p generalizing cs with
  | nil =>
      obtain rfl := Option.some.inj hp
      refine ⟨before cs i, ?_, ?_⟩
      · rw [List.nil_append, rank_cons hi, rank_nil]
        omega
      · have hfirst := getElem?_nodes (k := 0) hi (by rw [length_subterms]; omega)
        rwa [Nat.add_zero, subterms_eq_nodes, List.getElem?_cons_zero] at hfirst
  | cons j p ih =>
      obtain ⟨d, hd, hp⟩ := below?_cons_eq_some_iff.1 hp
      obtain ⟨k, hrank, hnode⟩ := ih hp
      have hk : k < (nodes d.2.children).length := (List.getElem?_eq_some_iff.1 hnode).1
      refine ⟨before cs j + (k + 1), ?_, ?_⟩
      · rw [List.cons_append, rank_cons hd, hrank]
        omega
      · rw [getElem?_nodes hd (by rw [length_subterms]; omega), subterms_eq_nodes,
          List.getElem?_cons_succ, hnode]

end Forest

end ElixirTerms
