/-
# Graphs draw the tree of the program

The graph of a program has a vertex for the program and one for each node, numbered in the order of
the places, and one edge to each of these, from the vertex of the node around it or from that of the
program.  The numbers that are given out below a vertex lie between its own and that of its next
sibling (`mem_drawForest`), so the edges of a vertex are found by going to its place.
-/
import Mathlib
import ElixirTerms.Graph.Dot
import ElixirTerms.Proofs.Tree.Places

namespace ElixirTerms

open Forest

/-! ## Names -/

/-- Different roles have different names. -/
theorem Role.name_injective : Function.Injective Role.name := by
  intro role role' h
  have hindexed (name : Text) : Function.Injective (Role.indexed name) := fun i j h =>
    Text.ofNat_injective (List.append_cancel_left (List.append_cancel_right h))
  unfold Role.name at h
  cases role <;> cases role'
  case expression.expression | argument.argument | element.element | key.key |
      entryValue.entryValue =>
    rw [hindexed _ h]
  case value.value => rfl
  all_goals simp [Role.indexed] at h

namespace Graph

/-- Different vertices have different names. -/
theorem Vertex.name_injective : Function.Injective Vertex.name := by
  intro v v' h
  unfold Vertex.name at h
  cases v <;> cases v'
  case program.program => rfl
  case node.node => rw [Text.ofNat_injective (List.cons.inj h).2]
  all_goals simp at h

/-! ## What a graph holds -/

/-- The vertex that a statement declares. -/
def Statement.declared? : Statement → Option Vertex
  | program _ => some .program
  | vertex number _ => some (.node number)
  | edge .. => none

/-- The node that a statement shows, with its number. -/
def Statement.shown? : Statement → Option (Node × Nat)
  | vertex number n => some (n, number)
  | program _ | edge .. => none

/-- The target and the role of an edge from a vertex. -/
def Statement.from? (v : Vertex) : Statement → Option (Vertex × Role)
  | program _ | vertex .. => none
  | edge source target role => if source = v then some (.node target, role) else none

/-- The source and the role of an edge to a vertex. -/
def Statement.to? (v : Vertex) : Statement → Option (Vertex × Role)
  | program _ | vertex .. => none
  | edge source target role => if .node target = v then some (source, role) else none

/-- The vertices of a graph, in the order in which they are declared. -/
def declared (graph : List Statement) : List Vertex := graph.filterMap Statement.declared?

/-- The nodes that a graph shows, with their numbers, in order. -/
def vertices (graph : List Statement) : List (Node × Nat) := graph.filterMap Statement.shown?

/-- The edges from a vertex, in order, each with its target and its role. -/
def edgesFrom (v : Vertex) (graph : List Statement) : List (Vertex × Role) :=
  graph.filterMap (Statement.from? v)

/-- The edges to a vertex, in order, each with its source and its role. -/
def edgesTo (v : Vertex) (graph : List Statement) : List (Vertex × Role) :=
  graph.filterMap (Statement.to? v)

/-! ## Drawing forests -/

/-- Draw the children of a vertex. -/
def drawForest (source : Vertex) (cs : Forest) : Drawing :=
  drawChildren source (cs.map fun c => (c.1, drawNode c.2))

variable {source v : Vertex} {cs ds : Forest} {c : Role × Node} {p : Place} {next i k target : Nat}
  {role : Role}

/-- A program is drawn as its vertex and the forest of its expressions. -/
theorem ofProgram_eq (ns : List Node) :
    ofProgram ns =
      .program ns.length :: (drawForest .program (Node.expressions ns) 0).1 := rfl

/-- A node is drawn as its vertex and the forest of its children. -/
theorem drawNode_fst (n : Node) (next : Nat) :
    (drawNode n next).1 =
      .vertex next n :: (drawForest (.node next) n.children (next + 1)).1 := by
  rw [drawNode_eq]
  rfl

/-- As many numbers are given out as there are nodes. -/
theorem drawForest_snd (source : Vertex) (cs : Forest) (next : Nat) :
    (drawForest source cs next).2 = next + (nodes cs).length := by
  induction cs using cons_induction generalizing source next with
  | nil => rfl
  | cons c cs ihc ihcs =>
      have hnode : (drawNode c.2 next).2 = next + 1 + (nodes c.2.children).length := by
        rw [drawNode_eq]
        exact ihc (.node next) (next + 1)
      show (drawForest source cs (drawNode c.2 next).2).2 = _
      rw [ihcs, hnode, length_nodes_cons]
      omega

/-- A forest is drawn node by node: the vertex, what is below it, the edge to it, and the others. -/
theorem drawForest_cons (source : Vertex) (c : Role × Node) (cs : Forest) (next : Nat) :
    (drawForest source (c :: cs) next).1 =
      .vertex next c.2 :: ((drawForest (.node next) c.2.children (next + 1)).1 ++
        .edge source next c.1 :: (drawForest source cs (next + c.2.subterms.length)).1) := by
  have hnode : (drawNode c.2 next).2 = next + c.2.subterms.length := by
    rw [drawNode_eq, length_subterms]
    refine (drawForest_snd (.node next) c.2.children (next + 1)).trans ?_
    omega
  show (drawNode c.2 next).1 ++
    .edge source next c.1 :: (drawForest source cs (drawNode c.2 next).2).1 = _
  rw [drawNode_fst, hnode, List.cons_append]

/-- What is picked out of a forest is picked out of it node by node. -/
theorem filterMap_drawForest_cons {α : Type} (f : Statement → Option α) (source : Vertex)
    (c : Role × Node) (cs : Forest) (next : Nat) :
    (drawForest source (c :: cs) next).1.filterMap f =
      (f (.vertex next c.2)).toList ++
        ((drawForest (.node next) c.2.children (next + 1)).1.filterMap f ++
          ((f (.edge source next c.1)).toList ++
            (drawForest source cs (next + c.2.subterms.length)).1.filterMap f)) := by
  rw [drawForest_cons, List.filterMap_cons, List.filterMap_append, List.filterMap_cons]
  cases f (.vertex next c.2) <;> cases f (.edge source next c.1) <;> rfl

/-- The vertices of a forest are its nodes, numbered one after the other. -/
theorem vertices_drawForest (source : Vertex) (cs : Forest) (next : Nat) :
    vertices (drawForest source cs next).1 = (nodes cs).zipIdx next := by
  induction cs using cons_induction generalizing source next with
  | nil => rfl
  | cons c cs ihc ihcs =>
      have hsplit : vertices (drawForest source (c :: cs) next).1 =
          (c.2, next) :: (vertices (drawForest (.node next) c.2.children (next + 1)).1 ++
            vertices (drawForest source cs (next + c.2.subterms.length)).1) :=
        filterMap_drawForest_cons Statement.shown? source c cs next
      rw [hsplit, ihc, ihcs, nodes_cons, List.zipIdx_append, subterms_eq_nodes, List.zipIdx_cons,
        List.cons_append]

/-- No vertex in a forest is that of a program. -/
theorem program_not_mem_drawForest (count : Nat) :
    .program count ∉ (drawForest source cs next).1 := by
  induction cs using cons_induction generalizing source next with
  | nil => exact List.not_mem_nil
  | cons c cs ihc ihcs =>
      rw [drawForest_cons, List.mem_cons, List.mem_append, List.mem_cons]
      rintro (h | h | h | h)
      · cases h
      · exact ihc h
      · cases h
      · exact ihcs h

/-- The vertices that a forest declares are those that show its nodes. -/
theorem declared_drawForest (source : Vertex) (cs : Forest) (next : Nat) :
    declared (drawForest source cs next).1 =
      (List.range' next (nodes cs).length).map .node := by
  have hdeclared : declared (drawForest source cs next).1 =
      (vertices (drawForest source cs next).1).map fun v => .node v.2 := by
    rw [declared, vertices, List.map_filterMap]
    refine List.filterMap_congr fun s hs => ?_
    cases s with
    | program count => exact absurd hs (program_not_mem_drawForest count)
    | vertex _ _ | edge _ _ _ => rfl
  rw [hdeclared, vertices_drawForest, ← List.zipIdx_map_snd, List.map_map]
  rfl

/-! ## Where edges lie -/

/-- An edge of a forest comes from the vertex around the forest or from one of those in it, and
leads to one of those in it. -/
theorem mem_drawForest (h : Statement.edge v target role ∈ (drawForest source cs next).1) :
    (v = source ∨ ∃ k, v = .node k ∧ next ≤ k ∧ k < next + (nodes cs).length) ∧
      next ≤ target ∧ target < next + (nodes cs).length := by
  induction cs using cons_induction generalizing source next with
  | nil => cases h
  | cons c cs ihc ihcs =>
      rw [drawForest_cons, List.mem_cons, List.mem_append, List.mem_cons] at h
      have hsize := length_subterms c.2
      rw [length_nodes_cons]
      rcases h with h | h | h | h
      · cases h
      · obtain ⟨rfl | ⟨k, rfl, hlow, hhigh⟩, htarget⟩ := ihc h
        · exact ⟨.inr ⟨next, rfl, by omega⟩, by omega⟩
        · exact ⟨.inr ⟨k, rfl, by omega⟩, by omega⟩
      · cases h
        exact ⟨.inl rfl, by omega⟩
      · obtain ⟨rfl | ⟨k, rfl, hlow, hhigh⟩, htarget⟩ := ihcs h
        · exact ⟨.inl rfl, by omega⟩
        · exact ⟨.inr ⟨k, rfl, by omega⟩, by omega⟩

/-- No edge comes from a vertex that is neither in a forest nor around it. -/
theorem edgesFrom_eq_nil (hsource : v ≠ source)
    (hv : ∀ k, v = .node k → k < next ∨ next + (nodes cs).length ≤ k) :
    edgesFrom v (drawForest source cs next).1 = [] := by
  rw [edgesFrom, List.filterMap_eq_nil_iff]
  intro s hs
  cases s with
  | program _ | vertex _ _ => rfl
  | edge v' target role =>
      refine if_neg ?_
      rintro rfl
      rcases (mem_drawForest hs).1 with h | ⟨k, hk, hlow, hhigh⟩
      · exact hsource h
      · have := hv k hk
        omega

/-- No edge leads to a number that is not given out. -/
theorem edgesTo_eq_nil (hk : k < next ∨ next + (nodes cs).length ≤ k) :
    edgesTo (.node k) (drawForest source cs next).1 = [] := by
  rw [edgesTo, List.filterMap_eq_nil_iff]
  intro s hs
  cases s with
  | program _ | vertex _ _ => rfl
  | edge v target role =>
      refine if_neg ?_
      intro h
      cases h
      have := (mem_drawForest hs).2
      omega

/-- The edges from a vertex in a forest, node by node. -/
theorem edgesFrom_drawForest_cons (v source : Vertex) (c : Role × Node) (cs : Forest)
    (next : Nat) :
    edgesFrom v (drawForest source (c :: cs) next).1 =
      edgesFrom v (drawForest (.node next) c.2.children (next + 1)).1 ++
        ((if source = v then some (.node next, c.1) else none).toList ++
          edgesFrom v (drawForest source cs (next + c.2.subterms.length)).1) :=
  filterMap_drawForest_cons (Statement.from? v) source c cs next

/-- The edges to a vertex in a forest, node by node. -/
theorem edgesTo_drawForest_cons (v source : Vertex) (c : Role × Node) (cs : Forest)
    (next : Nat) :
    edgesTo v (drawForest source (c :: cs) next).1 =
      edgesTo v (drawForest (.node next) c.2.children (next + 1)).1 ++
        ((if .node next = v then some (source, c.1) else none).toList ++
          edgesTo v (drawForest source cs (next + c.2.subterms.length)).1) :=
  filterMap_drawForest_cons (Statement.to? v) source c cs next

/-! ## Edges of the children -/

/-- The edges from the vertex around a forest lead to its children in order. -/
theorem edgesFrom_source (hsource : ∀ k, source = .node k → k < next) :
    edgesFrom source (drawForest source cs next).1 =
      cs.mapIdx fun i c => (.node (next + before cs i), c.1) := by
  induction cs generalizing next with
  | nil => rfl
  | cons c cs ih =>
      have hne : source ≠ .node next := fun h => Nat.lt_irrefl _ (hsource next h)
      have hbelow : edgesFrom source (drawForest (.node next) c.2.children (next + 1)).1 = [] :=
        edgesFrom_eq_nil hne fun k hk => .inl (Nat.lt_succ_of_lt (hsource k hk))
      have hrest : edgesFrom source (drawForest source cs (next + c.2.subterms.length)).1 = _ :=
        ih fun k hk => Nat.lt_of_lt_of_le (hsource k hk) (Nat.le_add_right _ _)
      rw [edgesFrom_drawForest_cons, hbelow, if_pos rfl, hrest, List.mapIdx_cons, before_zero]
      simp only [before_succ, Nat.add_assoc, Nat.add_zero, Option.toList_some, List.nil_append,
        List.singleton_append]

/-- The edges from a vertex of a forest are drawn where the child is drawn to which it belongs. -/
theorem edgesFrom_child (hc : cs[i]? = some c) (hlow : next + before cs i ≤ k)
    (hhigh : k < next + before cs i + c.2.subterms.length) (hsource : source ≠ .node k) :
    edgesFrom (.node k) (drawForest source cs next).1 =
      edgesFrom (.node k)
        (drawForest (.node (next + before cs i)) c.2.children (next + before cs i + 1)).1 := by
  induction cs generalizing i next with
  | nil => cases hc
  | cons d cs ih =>
      rw [edgesFrom_drawForest_cons, if_neg hsource, Option.toList_none, List.nil_append]
      cases i with
      | zero =>
          obtain rfl := Option.some.inj hc
          simp only [before_zero, Nat.add_zero] at hlow hhigh ⊢
          have hrest : edgesFrom (.node k)
              (drawForest source cs (next + d.2.subterms.length)).1 = [] :=
            edgesFrom_eq_nil hsource.symm fun m hm => by cases hm; exact .inl hhigh
          rw [hrest, List.append_nil]
      | succ i =>
          rw [before_succ, ← Nat.add_assoc] at hlow hhigh ⊢
          have hbelow : edgesFrom (.node k)
              (drawForest (.node next) d.2.children (next + 1)).1 = [] := by
            rw [length_subterms] at hlow
            refine edgesFrom_eq_nil (fun h => ?_) fun m hm => ?_
            · cases h
              omega
            · cases hm
              omega
          rw [hbelow, List.nil_append]
          exact ih hc hlow hhigh

/-- The edges to a vertex of a forest that is below one of its children are drawn where this child
is drawn. -/
theorem edgesTo_child (hc : cs[i]? = some c) (hlow : next + before cs i < k)
    (hhigh : k < next + before cs i + c.2.subterms.length) :
    edgesTo (.node k) (drawForest source cs next).1 =
      edgesTo (.node k)
        (drawForest (.node (next + before cs i)) c.2.children (next + before cs i + 1)).1 := by
  induction cs generalizing i next with
  | nil => cases hc
  | cons d cs ih =>
      have hne : Vertex.node next ≠ .node k := by
        intro h
        cases h
        omega
      rw [edgesTo_drawForest_cons, if_neg hne, Option.toList_none, List.nil_append]
      cases i with
      | zero =>
          obtain rfl := Option.some.inj hc
          simp only [before_zero, Nat.add_zero] at hlow hhigh ⊢
          have hrest : edgesTo (.node k)
              (drawForest source cs (next + d.2.subterms.length)).1 = [] :=
            edgesTo_eq_nil (.inl hhigh)
          rw [hrest, List.append_nil]
      | succ i =>
          rw [before_succ, ← Nat.add_assoc] at hlow hhigh ⊢
          have hbelow : edgesTo (.node k)
              (drawForest (.node next) d.2.children (next + 1)).1 = [] := by
            rw [length_subterms] at hlow
            exact edgesTo_eq_nil (.inr (by omega))
          rw [hbelow, List.nil_append]
          exact ih hc hlow hhigh

/-- One edge leads to each child of a forest, from the vertex around it. -/
theorem edgesTo_self (hc : cs[i]? = some c) :
    edgesTo (.node (next + before cs i)) (drawForest source cs next).1 = [(source, c.1)] := by
  induction cs generalizing i next with
  | nil => cases hc
  | cons d cs ih =>
      have hsize := length_subterms d.2
      rw [edgesTo_drawForest_cons]
      cases i with
      | zero =>
          obtain rfl := Option.some.inj hc
          rw [before_zero, Nat.add_zero, if_pos rfl, edgesTo_eq_nil (.inl (Nat.lt_succ_self next)),
            edgesTo_eq_nil (.inl (by omega))]
          rfl
      | succ i =>
          have hne : Vertex.node next ≠ .node (next + d.2.subterms.length + before cs i) := by
            intro h
            injection h with h
            omega
          rw [before_succ, ← Nat.add_assoc, edgesTo_eq_nil (.inr (by omega)), if_neg hne]
          exact ih hc

/-! ## Places of vertices -/

/-- The vertex of a rank, where the vertices in a forest are numbered from `next` on. -/
def vertexOf (source : Vertex) (next : Nat) : Nat → Vertex
  | 0 => source
  | k + 1 => .node (next + k)

/-- Below a child, the vertices are numbered from the number of the child on. -/
theorem vertexOf_node (k r : Nat) : vertexOf (.node k) (k + 1) r = .node (k + r) := by
  cases r with
  | zero => rfl
  | succ r => exact congrArg Vertex.node (by omega)

/-- The vertex of a place below a child. -/
theorem vertexOf_rank_cons (source : Vertex) (next : Nat) (hc : cs[i]? = some c) (p : Place) :
    vertexOf source next (rank cs (i :: p)) =
      .node (next + before cs i + rank c.2.children p) := by
  have hrank : rank cs (i :: p) = before cs i + rank c.2.children p + 1 := by
    rw [rank_cons hc]
    omega
  rw [hrank, vertexOf, Nat.add_assoc]

/-- The edges from the vertex of a place lead to the vertices of the places inside it, in order. -/
theorem edgesFrom_drawForest (hsource : ∀ k, source = .node k → k < next)
    (hp : below? cs p = some ds) :
    edgesFrom (vertexOf source next (rank cs p)) (drawForest source cs next).1 =
      ds.mapIdx fun i c => (vertexOf source next (rank cs (p ++ [i])), c.1) := by
  induction p generalizing source cs next with
  | nil =>
      obtain rfl := Option.some.inj hp
      rw [rank_nil, vertexOf, edgesFrom_source hsource, List.mapIdx_eq_mapIdx_iff]
      intro i hi
      rw [List.nil_append, vertexOf_rank_cons source next (List.getElem?_eq_getElem hi), rank_nil,
        Nat.add_zero]
  | cons j p ih =>
      obtain ⟨c, hc, hp⟩ := below?_cons_eq_some_iff.1 hp
      have hrank := rank_le_length hp
      have hsize := length_subterms c.2
      have hne : source ≠ .node (next + before cs j + rank c.2.children p) := by
        intro h
        have := hsource _ h
        omega
      have hown : ∀ k, Vertex.node (next + before cs j) = .node k → k < next + before cs j + 1 := by
        intro k hk
        cases hk
        exact Nat.lt_succ_self _
      have hbelow := ih hown hp
      rw [vertexOf_node] at hbelow
      rw [vertexOf_rank_cons source next hc, edgesFrom_child hc (by omega) (by omega) hne, hbelow]
      simp only [List.cons_append, vertexOf_rank_cons source next hc, vertexOf_node]

/-- One edge leads to the vertex of a place, from the vertex of the place around it. -/
theorem edgesTo_drawForest (hp : below? cs p = some ds) (hi : ds[i]? = some c) :
    edgesTo (vertexOf source next (rank cs (p ++ [i]))) (drawForest source cs next).1 =
      [(vertexOf source next (rank cs p), c.1)] := by
  induction p generalizing source cs next with
  | nil =>
      obtain rfl := Option.some.inj hp
      rw [List.nil_append, vertexOf_rank_cons source next hi, rank_nil, Nat.add_zero,
        edgesTo_self hi]
      rfl
  | cons j p ih =>
      obtain ⟨d, hd, hp⟩ := below?_cons_eq_some_iff.1 hp
      obtain ⟨k, hrank, hnode⟩ := exists_rank_eq_succ hp hi
      have hk : k < (nodes d.2.children).length := (List.getElem?_eq_some_iff.1 hnode).1
      have hsize := length_subterms d.2
      have hbelow : edgesTo
          (vertexOf (.node (next + before cs j)) (next + before cs j + 1)
            (rank d.2.children (p ++ [i])))
          (drawForest (.node (next + before cs j)) d.2.children (next + before cs j + 1)).1 = _ :=
        ih hp
      rw [vertexOf_node, vertexOf_node, hrank] at hbelow
      rw [List.cons_append, vertexOf_rank_cons source next hd, vertexOf_rank_cons source next hd,
        hrank, edgesTo_child hd (by omega) (by omega), hbelow]

end Graph

end ElixirTerms
