/-
# The graph of a program is its tree

What the parser returns is drawn as the tree that it is: a vertex for the program and one for each
node, in the order of the nodes, each at the end of one edge from the node around it, and the edges
from a vertex in the order of the children, with different labels (`Depicts`).  The graph as text
holds the statements that draw it, and no others (`Spells`).
-/
import ElixirTerms.Proofs.Recovery.Rounds
import ElixirTerms.Proofs.Tree.Drawing
import ElixirTerms.Report

namespace ElixirTerms

open Forest

/-! ## Roles of children -/

namespace Node

/-- The roles of nodes with their indices are different. -/
theorem nodup_map_fst_zipIdx {role : Nat → Role} (hrole : Function.Injective role)
    (ns : List Node) : ((ns.zipIdx.map fun (n, i) => (role i, n)).map (·.1)).Nodup := by
  have hroles : (ns.zipIdx.map fun (n, i) => (role i, n)).map (·.1) =
      (ns.zipIdx.map (·.2)).map role := by
    rw [List.map_map, List.map_map]
    rfl
  rw [hroles, List.zipIdx_map_snd]
  exact List.Nodup.map hrole List.nodup_range'

/-- The expressions of a program have different roles. -/
theorem nodup_roles_expressions (ns : List Node) : ((expressions ns).map (·.1)).Nodup :=
  nodup_map_fst_zipIdx (fun _ _ => Role.expression.inj) ns

/-- The children of a node have different roles. -/
theorem nodup_roles (n : Node) : (n.children.map (·.1)).Nodup := by
  cases n with
  | missing | bare _ | literal _ _ _ => exact List.nodup_nil
  | call _ _ args => exact nodup_map_fst_zipIdx (fun _ _ => Role.argument.inj) args
  | moduleAttribute _ _ _ => exact List.nodup_singleton _
  | collection _ _ es => exact nodup_map_fst_zipIdx (fun _ _ => Role.element.inj) es
  | hashMap kind keys values =>
      have hroles : ((hashMap kind keys values).children.map (·.1)) =
          (((keys.zip values).zipIdx).map (·.2)).flatMap fun i => [.key i, .entryValue i] := by
        rw [children, List.map_flatMap, List.flatMap_map]
        rfl
      rw [hroles, List.zipIdx_map_snd, List.nodup_flatMap]
      refine ⟨fun i _ => by simp, (List.nodup_range').imp fun {i j} hij => ?_⟩
      simp [Function.onFun, Ne.symm hij]

end Node

/-- The children at a place have different roles. -/
theorem Forest.nodup_roles {cs ds : Forest} {p : Place} (hcs : (cs.map (·.1)).Nodup)
    (hp : below? cs p = some ds) : (ds.map (·.1)).Nodup := by
  induction p generalizing cs with
  | nil =>
      obtain rfl := Option.some.inj hp
      exact hcs
  | cons i p ih =>
      obtain ⟨c, -, hp⟩ := below?_cons_eq_some_iff.1 hp
      exact ih (Node.nodup_roles c.2) hp

/-! ## What the parser returns -/

namespace Program

open Grammar

/-- The grammar derives what the parser returns, with errors or without. -/
theorem derives_of_returned {tokens : List Token} {ns : List Node}
    (h : parse tokens = .ok ns ∨ ns = Report.successes (parseAll tokens)) :
    ∀ n ∈ ns, ∃ us, Derives (.expression n) us := by
  rcases h with h | rfl
  · exact (derivesAll_of_parse h).forall_derives
  · intro n hn
    obtain ⟨us, -, hderives⟩ := exists_derives_of_mem_parseAll (Report.mem_successes_iff.1 hn)
    exact ⟨us, hderives⟩

end Program

namespace Graph

open Node Program

/-- The vertex of a place. -/
def vertexAt (ns : List Node) (p : Place) : Vertex :=
  vertexOf .program 0 (rank (expressions ns) p)

/-- A graph that draws the tree of a program. -/
structure Depicts (ns : List Node) (graph : List Statement) : Prop where
  /-- The vertices are that of the program and as many others as the size of the program says, which
  are numbered one after the other. -/
  declared_eq : declared graph = .program :: (List.range (sizeAll ns)).map .node
  /-- No two of them have one name. -/
  nodup_names : ((declared graph).map Vertex.name).Nodup
  /-- That of the program counts its expressions. -/
  count_eq : ∀ count, .program count ∈ graph → count = ns.length
  /-- The others show the nodes, each before the nodes inside it. -/
  vertices_eq : vertices graph = (subtermsAll ns).zipIdx
  /-- They are as many as the size of the program. -/
  length_vertices : (vertices graph).length = sizeAll ns
  /-- Edges lead from these vertices or that of the program to these vertices. -/
  edges : ∀ v target role, .edge v target role ∈ graph →
    (v = .program ∨ ∃ k < sizeAll ns, v = .node k) ∧ target < sizeAll ns
  /-- The numbers are in the order of the places. -/
  rank_lt : ∀ p q ds es, below? (expressions ns) p = some ds →
    below? (expressions ns) q = some es → p < q →
      rank (expressions ns) p < rank (expressions ns) q
  /-- Every vertex is that of a child at some place. -/
  exists_child : ∀ k < sizeAll ns, ∃ p ds i c, below? (expressions ns) p = some ds ∧
    ds[i]? = some c ∧ vertexAt ns (p ++ [i]) = .node k
  /-- The vertex of a child shows the child, and has one edge, from the vertex around it. -/
  child : ∀ p ds i c, below? (expressions ns) p = some ds → ds[i]? = some c →
    ∃ k, vertexAt ns (p ++ [i]) = .node k ∧ (vertices graph)[k]? = some (c.2, k) ∧
      edgesTo (.node k) graph = [(vertexAt ns p, c.1)]
  /-- The edges from a vertex lead to its children in order. -/
  edgesFrom_eq : ∀ p ds, below? (expressions ns) p = some ds →
    edgesFrom (vertexAt ns p) graph = ds.mapIdx fun i c => (vertexAt ns (p ++ [i]), c.1)
  /-- Their labels are different. -/
  nodup_labels : ∀ p ds, below? (expressions ns) p = some ds →
    ((edgesFrom (vertexAt ns p) graph).map (·.2.name)).Nodup

section

variable {ns : List Node} {p : Place} {ds : Forest} {c : Role × Node} {i k : Nat}

/-- The vertices of a program are its own and those of its nodes, which are numbered one after the
other. -/
theorem declared_ofProgram (ns : List Node) :
    declared (ofProgram ns) = .program :: (List.range (subtermsAll ns).length).map .node := by
  have hdeclared : declared (ofProgram ns) =
      .program :: declared (drawForest .program (expressions ns) 0).1 := rfl
  rw [hdeclared, declared_drawForest, nodes_expressions, List.range_eq_range']

/-- The vertices of a program have names of their own. -/
theorem nodup_names_ofProgram (ns : List Node) :
    ((declared (ofProgram ns)).map Vertex.name).Nodup := by
  rw [declared_ofProgram]
  refine List.Nodup.map Vertex.name_injective (List.nodup_cons.2 ⟨by simp, ?_⟩)
  exact List.Nodup.map (fun _ _ => Vertex.node.inj) List.nodup_range

/-- The vertex of a program counts its expressions. -/
theorem count_of_mem_ofProgram {count : Nat} (h : .program count ∈ ofProgram ns) :
    count = ns.length := by
  rw [ofProgram_eq, List.mem_cons] at h
  exact Statement.program.inj (h.resolve_right (program_not_mem_drawForest count))

/-- The other vertices of a program show its nodes in order. -/
theorem vertices_ofProgram (ns : List Node) :
    vertices (ofProgram ns) = (subtermsAll ns).zipIdx := by
  have hvertices : vertices (ofProgram ns) =
      vertices (drawForest .program (expressions ns) 0).1 := rfl
  rw [hvertices, vertices_drawForest, nodes_expressions]

/-- The vertex of a place is numbered by the places before it, but for the first. -/
theorem vertexAt_of_rank (h : rank (expressions ns) p = k + 1) : vertexAt ns p = .node k := by
  rw [vertexAt, h, vertexOf, Nat.zero_add]

/-- Every number of a node is that of a child at some place. -/
theorem exists_child_vertexAt (hk : k < (subtermsAll ns).length) :
    ∃ p ds i c, below? (expressions ns) p = some ds ∧ ds[i]? = some c ∧
      vertexAt ns (p ++ [i]) = .node k := by
  rw [← nodes_expressions] at hk
  obtain ⟨q, ds, hq, hrank⟩ := exists_rank_eq (Nat.succ_le_of_lt hk)
  have hne : q ≠ [] := by
    rintro rfl
    cases hrank
  obtain ⟨p, i, es, c, rfl, hp, hc⟩ := exists_child_of_below? hq hne
  exact ⟨p, es, i, c, hp, hc, vertexAt_of_rank hrank⟩

/-- The vertex of a child shows the child. -/
theorem exists_vertexAt_child (hp : below? (expressions ns) p = some ds) (hi : ds[i]? = some c) :
    ∃ k, vertexAt ns (p ++ [i]) = .node k ∧ (vertices (ofProgram ns))[k]? = some (c.2, k) := by
  obtain ⟨k, hrank, hnode⟩ := exists_rank_eq_succ hp hi
  refine ⟨k, vertexAt_of_rank hrank, ?_⟩
  rw [nodes_expressions] at hnode
  rw [vertices_ofProgram, List.getElem?_zipIdx, hnode, Option.map_some, Nat.zero_add]

/-- The edges from the vertex of a place lead to its children in order. -/
theorem edgesFrom_ofProgram (hp : below? (expressions ns) p = some ds) :
    edgesFrom (vertexAt ns p) (ofProgram ns) =
      ds.mapIdx fun i c => (vertexAt ns (p ++ [i]), c.1) :=
  edgesFrom_drawForest nofun hp

/-- The edges from a vertex have different labels. -/
theorem nodup_labels_ofProgram (hp : below? (expressions ns) p = some ds) :
    ((edgesFrom (vertexAt ns p) (ofProgram ns)).map (·.2.name)).Nodup := by
  have hlabels : (edgesFrom (vertexAt ns p) (ofProgram ns)).map (·.2.name) =
      (ds.map (·.1)).map Role.name := by
    conv_rhs => rw [← List.zipIdx_map_fst 0 ds, List.map_map, List.map_map]
    rw [edgesFrom_ofProgram hp, List.mapIdx_eq_zipIdx_map, List.map_map]
    rfl
  rw [hlabels]
  exact List.Nodup.map Role.name_injective
    (Forest.nodup_roles (nodup_roles_expressions ns) hp)

/-- Edges join vertices of the graph. -/
theorem mem_ofProgram {v : Vertex} {target : Nat} {role : Role}
    (h : .edge v target role ∈ ofProgram ns) :
    (v = .program ∨ ∃ k < (subtermsAll ns).length, v = .node k) ∧
      target < (subtermsAll ns).length := by
  rw [ofProgram_eq, List.mem_cons] at h
  obtain ⟨hv, -, htarget⟩ := mem_drawForest (h.resolve_left nofun)
  rw [nodes_expressions, Nat.zero_add] at hv htarget
  refine ⟨hv.imp_right ?_, htarget⟩
  rintro ⟨k, rfl, -, hk⟩
  exact ⟨k, hk, rfl⟩

/-- A program with as many nodes as its size says is drawn as its tree. -/
theorem depicts_ofProgram (h : (subtermsAll ns).length = sizeAll ns) :
    Depicts ns (ofProgram ns) where
  declared_eq := h ▸ declared_ofProgram ns
  nodup_names := nodup_names_ofProgram ns
  count_eq _ := count_of_mem_ofProgram
  vertices_eq := vertices_ofProgram ns
  length_vertices := by rw [vertices_ofProgram, List.length_zipIdx, h]
  edges _ _ _ hedge := h ▸ mem_ofProgram hedge
  rank_lt _ _ _ _ := rank_lt_rank
  exists_child _ hk := exists_child_vertexAt (h ▸ hk)
  child p ds i c hp hi := by
    obtain ⟨k, hvertex, hshown⟩ := exists_vertexAt_child hp hi
    refine ⟨k, hvertex, hshown, ?_⟩
    rw [← hvertex]
    exact edgesTo_drawForest hp hi
  edgesFrom_eq _ _ := edgesFrom_ofProgram
  nodup_labels _ _ := nodup_labels_ofProgram

end

/-! ## Graphs as text -/

/-- The line of a statement: a vertex by its name and an edge by those of both its ends, each with
its label.  The label of an edge stands between quotes, unless it is a plain word. -/
inductive Statement.Written : Statement → Text → Prop where
  | program (count : Nat) :
      Written (.program count)
        ("program [label=\"program (" ++ Text.ofNat count ++ ")\" shape=box style=rounded]")
  | vertex (number : Nat) (n : Node) :
      Written (.vertex number n)
        ("n" ++ Text.ofNat number ++ " [label=" ++ label n ++ " shape=plaintext]")
  | edge {source : Vertex} {target : Nat} {role : Role} {shown : Text} :
      (∀ c ∈ role.name, c.isAlpha) ∧ shown = role.name ∨ shown = "\"" ++ role.name ++ "\"" →
      Written (.edge source target role)
        (source.name ++ " -> " ++ (Vertex.node target).name ++ " [label=" ++ shown ++ "]")

/-- A text that holds the statements of a graph in order, each on a line of its own, and no other
statements. -/
def Spells (text : Text) (graph : List Statement) : Prop :=
  ∃ lines, List.Forall₂ Statement.Written graph lines ∧
    text = "digraph \x7b\n\tgraph [rankdir=TB]\n" ++
      lines.flatMap (fun line => '\t' :: line ++ ['\n']) ++ "\x7d\n"

/-- Statements are written as they are to be. -/
theorem Statement.written_dot (s : Statement) : s.Written s.dot := by
  cases s with
  | program count => exact .program count
  | vertex number n => exact .vertex number n
  | edge source target role =>
      refine .edge ?_
      rw [dotName]
      split_ifs with hplain
      · exact .inl ⟨List.all_eq_true.1 hplain, rfl⟩
      · exact .inr rfl

/-- The graph of a program in the dot language spells what draws the program. -/
theorem spells_dot (ns : List Node) : Spells (dot ns) (ofProgram ns) := by
  refine ⟨(ofProgram ns).map Statement.dot, ?_, ?_⟩
  · rw [List.forall₂_map_right_iff, List.forall₂_same]
    exact fun s _ => s.written_dot
  · rw [List.flatMap_map]
    rfl

/-- A program whose nodes the grammar derives has a graph in the dot language. -/
theorem dot?_of_derives {ns : List Node}
    (h : ∀ n ∈ ns, ∃ us, Grammar.Derives (.expression n) us) : dot? ns = .ok (dot ns) := by
  have hfault : ns.findSome? sourceFault? = none := by
    rw [List.findSome?_eq_none_iff]
    intro n hn
    obtain ⟨us, hus⟩ := h n hn
    exact hus.sourced
  rw [dot?, hfault]
  rfl

/-- **The graph of a program is its tree.**  What the parser returns, be it that it stops at errors
or goes on after them, has a graph in the dot language.  This spells some statements and no others;
and these declare a vertex for the program and one for each node, in the order of the nodes, and
join them by the edges of the tree. -/
theorem depicts_of_returned {tokens : List Token} {ns : List Node}
    (h : parse tokens = .ok ns ∨ ns = Report.successes (parseAll tokens)) :
    dot? ns = .ok (dot ns) ∧ Spells (dot ns) (ofProgram ns) ∧ Depicts ns (ofProgram ns) := by
  have hderives := derives_of_returned h
  exact ⟨dot?_of_derives hderives, spells_dot ns,
    depicts_ofProgram (Grammar.length_subtermsAll_of_derives hderives)⟩

/-- A map in a call is drawn as the four nodes that it makes: the call, the map, its key and its
value. -/
theorem depicts_of_call :
    ∃ ns, parseText "f.(%\x7ba: 1\x7d)" = .ok ns ∧ sizeAll ns = 4 ∧ dot? ns = .ok (dot ns) ∧
      Spells (dot ns) (ofProgram ns) ∧ Depicts ns (ofProgram ns) := by
  have h : parseText "f.(%\x7ba: 1\x7d)" = .ok [.call .anonCall ⟨.identifier, ['f'], ⟨1, 1⟩⟩
      [.hashMap .hashMap [.literal .atom .atom ⟨.atom, [':', 'a'], ⟨1, 6⟩⟩]
        [.literal .number .number ⟨.number, ['1'], ⟨1, 9⟩⟩]]] := by cbv
  exact ⟨_, h, by cbv, depicts_of_returned (.inl h)⟩

end Graph

end ElixirTerms
