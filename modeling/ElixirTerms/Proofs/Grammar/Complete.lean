/-
# What the grammar derives is read

A phrase is read from its tokens, whatever stands after them, if there is room for its nesting; if
there is none, the reading ends because the nesting is too deep and for no other reason.
-/
import ElixirTerms.Proofs.Grammar.Nesting
import ElixirTerms.Proofs.Grammar.Rows

namespace ElixirTerms

/-! ## Elements -/

namespace Expression

/-- The way to read the elements of brackets with room for what is inside the expression. -/
def elementWithin (room : Nat) : Element :=
  match room with
  | inner + 2 => whole (expression inner)
  | _ => fun _ => .error .nestingTooDeep

/-- One reader is made of those with less room. -/
theorem expression_succ (room : Nat) :
    expression (room + 1) = term (expression room) (elementWithin room) := by
  match room with
  | 0 => rfl
  | 1 => rfl
  | inner + 2 => rfl

/-- Reading all parts gives all values if each part is within the limits, else the error. -/
theorem mapM_eq_ite {β : Type} {f : List Token → Except ParseError β} {within : β → Prop}
    [DecidablePred within] {e : ParseError} {parts : List (List Token × β)}
    (h : ∀ part ∈ parts, f part.1 = if within part.2 then .ok part.2 else .error e) :
    (parts.map (·.1)).mapM f =
      if ∀ part ∈ parts, within part.2 then .ok (parts.map (·.2)) else .error e := by
  induction parts with
  | nil => simp [pure, Except.pure]
  | cons part parts ih =>
      have hpart := h part List.mem_cons_self
      have hparts := ih fun q hq => h q (List.mem_cons_of_mem _ hq)
      rw [List.map_cons, List.mapM_cons, hpart, hparts]
      by_cases hw : within part.2
      · by_cases hall : ∀ q ∈ parts, within q.2
        · have hboth : ∀ q ∈ part :: parts, within q.2 := List.forall_mem_cons.2 ⟨hw, hall⟩
          rw [if_pos hw, if_pos hall, if_pos hboth]
          rfl
        · have hnot : ¬ ∀ q ∈ part :: parts, within q.2 :=
            fun hq => hall fun q hmem => hq q (List.mem_cons_of_mem _ hmem)
          rw [if_pos hw, if_neg hall, if_neg hnot]
          rfl
      · have hnot : ¬ ∀ q ∈ part :: parts, within q.2 := fun hq => hw (hq _ List.mem_cons_self)
        rw [if_neg hw, if_neg hnot]
        rfl

end Expression

/-! ## Phrases -/

namespace Grammar

open Expression Segment

/-- The phrase is read from the tokens if there is room for it; else the nesting is too deep. -/
def Read : Phrase → List Token → Prop
  | .expression n, ts => ∀ room last rest, ∃ left, expression room last (ts ++ rest) =
      if n.nesting ≤ room then .done n rest else .fail .nestingTooDeep left
  | .entry k v, ts => ∀ room, mapEntry (elementWithin room) ts =
      if k.nesting + 2 ≤ room ∧ v.nesting + 2 ≤ room then .ok (k, v) else .error .nestingTooDeep

/-- Without any room nothing is read. -/
theorem read_of_succ {n : Node} {ts : List Token}
    (h : ∀ room last rest, ∃ left, term (expression room) (elementWithin room) last (ts ++ rest) =
      if n.nesting ≤ room + 1 then .done n rest else .fail .nestingTooDeep left) :
    Read (.expression n) ts := by
  intro room last rest
  cases room with
  | zero =>
      -- every expression needs some room
      have := n.nesting_pos
      exact ⟨ts ++ rest, by rw [if_neg (by omega)]; rfl⟩
  | succ room =>
      rw [expression_succ]
      exact h room last rest

/-- An element that is read as an expression is read as a whole. -/
theorem Read.element {n : Node} {ts : List Token} (h : Read (.expression n) ts) (room : Nat) :
    elementWithin room ts = if n.nesting + 2 ≤ room then .ok n else .error .nestingTooDeep := by
  match room with
  | 0 => rw [if_neg (by omega)]; rfl
  | 1 => rw [if_neg (by omega)]; rfl
  | inner + 2 =>
      obtain ⟨left, hread⟩ := h inner ts.getLast? []
      rw [List.append_nil] at hread
      simp only [elementWithin, whole, hread, Nat.add_le_add_iff_right]
      split_ifs <;> rfl

/-- The contents of brackets are read as what is made of the segments that commas have joined. -/
theorem enclosed_of_commaJoined {closer : Text} {closing : Token}
    (hc : closing.isDelimiter closer = true) (hclosing : IsClosing closer)
    {segments : List (List Token)} {ts : List Token} (h : CommaJoined segments ts)
    (hall : ∀ s ∈ segments, s ≠ [] ∧ Closed s)
    (make : List (List Token) → Except ParseError Node) (last : Option Token)
    (rest : List Token) :
    enclosed closer make last (ts ++ closing :: rest) =
      match make segments with
      | .ok n => .done n rest
      | .error e => .fail e rest := by
  rw [enclosed, row_of_commaJoined hc hclosing h hall]
  cases hmake : make segments <;> simp [Reading.build, hmake]

/-- The parts of a row of phrases are closed and not empty. -/
theorem closed_parts {α : Type} {parts : List (List Token × α)} (phrase : α → Phrase)
    (h : ∀ part ∈ parts, Derives (phrase part.2) part.1) :
    ∀ s ∈ parts.map (·.1), s ≠ [] ∧ Closed s :=
  List.forall_mem_map.2 fun part hpart => ⟨(h part hpart).ne_nil, (h part hpart).closed⟩

/-- A row of phrases between brackets is read as the node that is made of their values, if the
limits of all of them together are those of the node. -/
theorem enclosed_parts {β : Type} (phrase : β → Phrase) (make : List β → Node)
    (within : β → Prop) [DecidablePred within] {f : List Token → Except ParseError β}
    {closer : Text} {closing : Token} (hc : closing.isDelimiter closer = true)
    (hclosing : IsClosing closer) {parts : List (List Token × β)} {ts : List Token}
    (h : CommaJoined (parts.map (·.1)) ts)
    (hderives : ∀ part ∈ parts, Derives (phrase part.2) part.1)
    (hread : ∀ part ∈ parts,
      f part.1 = if within part.2 then .ok part.2 else .error .nestingTooDeep)
    {room : Nat}
    (hmake : (make (parts.map (·.2))).nesting ≤ room ↔ ∀ part ∈ parts, within part.2)
    (last : Option Token) (rest : List Token) :
    ∃ left, enclosed closer (fun segments => (segments.mapM f).map make) last
        (ts ++ closing :: rest) =
      if (make (parts.map (·.2))).nesting ≤ room then .done (make (parts.map (·.2))) rest
      else .fail .nestingTooDeep left := by
  refine ⟨rest, ?_⟩
  rw [enclosed_of_commaJoined hc hclosing h (closed_parts phrase hderives), mapM_eq_ite hread]
  by_cases hall : ∀ part ∈ parts, within part.2
  · rw [if_pos hall, if_pos (hmake.2 hall)]
    rfl
  · rw [if_neg hall, if_neg (mt hmake.1 hall)]
    rfl

/-- The elements of brackets need three less room than the brackets. -/
theorem forall_nesting_iff {α : Type} {parts : List α} {value : α → Node} {room : Nat} :
    (1 ≤ room + 1 ∧ ∀ part ∈ parts, (value part).nesting + 3 ≤ room + 1) ↔
      ∀ part ∈ parts, (value part).nesting + 2 ≤ room := by
  simp

/-- A row of expressions between brackets is read as the node that is made of them, if there is
three more room for the node than for each of them. -/
theorem enclosed_elements {make : List Node → Node}
    (hmake : ∀ ns room, (make ns).nesting ≤ room ↔ 1 ≤ room ∧ ∀ n ∈ ns, n.nesting + 3 ≤ room)
    {closer : Text} {closing : Token} (hc : closing.isDelimiter closer = true)
    (hclosing : IsClosing closer) {parts : List (List Token × Node)} {ts : List Token}
    (hjoined : CommaJoined (parts.map (·.1)) ts)
    (hparts : ∀ part ∈ parts, Derives (.expression part.2) part.1)
    (hread : ∀ part ∈ parts, Read (.expression part.2) part.1) (room : Nat)
    (last : Option Token) (rest : List Token) :
    ∃ left, enclosed closer (fun segments => (segments.mapM (elementWithin room)).map make) last
        (ts ++ closing :: rest) =
      if (make (parts.map (·.2))).nesting ≤ room + 1 then .done (make (parts.map (·.2))) rest
      else .fail .nestingTooDeep left := by
  have hwithin : (make (parts.map (·.2))).nesting ≤ room + 1 ↔
      ∀ part ∈ parts, part.2.nesting + 2 ≤ room := by
    rw [hmake, List.forall_mem_map]
    exact forall_nesting_iff
  exact enclosed_parts .expression make (·.nesting + 2 ≤ room) hc hclosing hjoined hparts
    (fun part hpart => (hread part hpart).element room) hwithin last rest

/-! ## Entries -/

/-- No expression with an arrow after it looks like a keyword with a colon. -/
theorem mapEntry_arrow (element : Element) {k : Node} {arrow : Token} {ts : List Token}
    (us : List Token) (hk : Derives (.expression k) ts)
    (harrow : arrow.isOperator ['=', '>'] = true) :
    ∃ first, mapEntry element (ts ++ arrow :: us) =
      arrowEntry element first (ts ++ arrow :: us) := by
  -- either the first token is no name or the second is no colon
  simp only [Token.isOperator, decide_eq_true_eq] at harrow
  cases hk with
  | @moduleAttribute sign name v ts hsign hname hv =>
      refine ⟨sign, ?_⟩
      have hnot : ¬ (sign.isKeywordKey && name.isOperator [':']) = true := by
        simp [Token.isKeywordKey, hsign]
      rw [List.cons_append, List.cons_append, mapEntry, if_neg hnot]
  | @call identifier dot opening closing parts ts hi hd hdot ho hc hparts hjoined =>
      refine ⟨identifier, ?_⟩
      have hnot : ¬ (identifier.isKeywordKey && dot.isOperator [':']) = true := by
        simp [Token.isOperator, hd]
      rw [List.cons_append, List.cons_append, mapEntry, if_neg hnot]
  | @literal t form kind h =>
      refine ⟨t, ?_⟩
      have hnot : ¬ (t.isKeywordKey && arrow.isOperator [':']) = true := by
        simp [Token.isOperator, harrow.2]
      rw [List.singleton_append, mapEntry, if_neg hnot]
  | @collection shape opening closing parts ts ho hc hparts hjoined =>
      refine ⟨opening, ?_⟩
      simp only [Token.isDelimiter, decide_eq_true_eq] at ho
      have hnot : ∀ t : Token, ¬ (opening.isKeywordKey && t.isOperator [':']) = true := by
        simp [Token.isKeywordKey, ho.1]
      cases ts <;> rw [List.cons_append] <;>
        simp only [List.nil_append, List.cons_append, mapEntry, if_neg (hnot _)]
  | @hashMap sign opening closing parts ts hs ho hc hparts hjoined =>
      refine ⟨sign, ?_⟩
      simp only [Token.isDelimiter, decide_eq_true_eq] at hs
      have hnot : ¬ (sign.isKeywordKey && opening.isOperator [':']) = true := by
        simp [Token.isKeywordKey, hs.1]
      rw [List.cons_append, List.cons_append, mapEntry, if_neg hnot]

/-- The arrow of an entry is found after the key. -/
theorem topLevelIndex?_arrow {k : Node} {arrow : Token} {ts us : List Token}
    (hk : Derives (.expression k) ts) (harrow : arrow.isOperator ['=', '>'] = true) :
    topLevelIndex? (·.isOperator ['=', '>']) 0 (ts ++ arrow :: us) = some ts.length := by
  have hoperator : ∀ t : Token, t.isOperator ['=', '>'] = true → t.kind = .operator := by
    intro t ht
    simp only [Token.isOperator, decide_eq_true_eq] at ht
    exact ht.1
  have hkind := hoperator arrow harrow
  rw [hk.passed hoperator, topLevelIndex?, if_pos ⟨by simp [hkind], rfl, harrow⟩]
  simp

/-- An entry with an arrow is read as its key and its value. -/
theorem arrowEntry_eq {element : Element} {k : Node} {first arrow : Token} {ts us : List Token}
    (hk : Derives (.expression k) ts) (harrow : arrow.isOperator ['=', '>'] = true)
    (hus : us ≠ []) :
    arrowEntry element first (ts ++ arrow :: us) =
      (do return (← element ts, ← element us)) := by
  have htake : (ts ++ arrow :: us).take ts.length = ts := by simp
  have hdrop : (ts ++ arrow :: us).drop (ts.length + 1) = us := by
    rw [← List.drop_drop]
    simp
  rw [arrowEntry, topLevelIndex?_arrow hk harrow]
  simp only [htake, hdrop]
  rw [if_neg (by simp [hk.ne_nil, hus])]

/-! ## Every phrase is read -/

/-- An attribute is read if its value is. -/
theorem read_moduleAttribute {sign name : Token} {v : Node} {ts : List Token}
    (hsign : sign.kind = .atSign) (hname : name.kind = .identifier)
    (hv : Read (.expression v) ts) :
    Read (.expression (.moduleAttribute .moduleAttribute name v)) (sign :: name :: ts) := by
  refine read_of_succ ?_
  intro room last rest
  obtain ⟨left, hread⟩ := hv room last rest
  refine ⟨left, ?_⟩
  simp only [List.cons_append, term, hsign, Expression.moduleAttribute, hname, if_true, hread,
    Node.nesting_moduleAttribute, Nat.add_le_add_iff_right]
  split_ifs <;> rfl

/-- A literal is read from its token. -/
theorem read_literal {t : Token} {form : Node.Form} {kind : Node.Kind}
    (h : IsLiteral t.kind form kind) : Read (.expression (.literal form kind t)) [t] := by
  refine read_of_succ ?_
  intro room last rest
  refine ⟨[], ?_⟩
  rw [if_pos (by simp), List.singleton_append, term]
  generalize t.kind = k at h
  cases h <;> rfl

/-- A call is read if its arguments are. -/
theorem read_call {identifier dot opening closing : Token} {parts : List (List Token × Node)}
    {ts : List Token} (hidentifier : identifier.kind = .identifier) (hkind : dot.kind = .dot)
    (hdot : dot.lexeme = ['.']) (ho : opening.isDelimiter ['('] = true)
    (hc : closing.isDelimiter [')'] = true) (hjoined : CommaJoined (parts.map (·.1)) ts)
    (hparts : ∀ part ∈ parts, Derives (.expression part.2) part.1)
    (hread : ∀ part ∈ parts, Read (.expression part.2) part.1) :
    Read (.expression (.call .anonCall identifier (parts.map (·.2))))
      (identifier :: dot :: opening :: (ts ++ [closing])) := by
  refine read_of_succ ?_
  intro room last rest
  have hcallDot : isCallDot dot = true := by simp [isCallDot, hkind, hdot]
  obtain ⟨left, henclosed⟩ := enclosed_elements
    (Node.nesting_call_le_iff .anonCall identifier) hc (Or.inl rfl) hjoined hparts hread room last
    rest
  refine ⟨left, ?_⟩
  rw [← henclosed]
  simp [term, hidentifier, identified, hcallDot, Expression.call, ho]

/-- A collection is read if its elements are. -/
theorem read_collection {shape : Node.Shape} {opening closing : Token}
    {parts : List (List Token × Node)} {ts : List Token}
    (ho : opening.isDelimiter (opener shape) = true)
    (hc : closing.isDelimiter (closer shape) = true) (hjoined : CommaJoined (parts.map (·.1)) ts)
    (hparts : ∀ part ∈ parts, Derives (.expression part.2) part.1)
    (hread : ∀ part ∈ parts, Read (.expression part.2) part.1) :
    Read (.expression (.collection shape shape.kind (parts.map (·.2))))
      (opening :: (ts ++ [closing])) := by
  refine read_of_succ ?_
  intro room last rest
  obtain ⟨left, henclosed⟩ := enclosed_elements
    (Node.nesting_collection_le_iff shape shape.kind) hc (isClosing_closer shape) hjoined hparts
    hread room last rest
  refine ⟨left, ?_⟩
  rw [← henclosed]
  simp only [Token.isDelimiter, decide_eq_true_eq] at ho
  cases shape <;> simp [term, ho, delimited, elements, opener, closer]

/-- A map is read if its entries are. -/
theorem read_hashMap {sign opening closing : Token} {parts : List (List Token × Node × Node)}
    {ts : List Token} (hs : sign.isDelimiter ['%'] = true)
    (ho : opening.isDelimiter ['\x7b'] = true) (hc : closing.isDelimiter ['\x7d'] = true)
    (hjoined : CommaJoined (parts.map (·.1)) ts)
    (hparts : ∀ part ∈ parts, Derives (.entry part.2.1 part.2.2) part.1)
    (hread : ∀ part ∈ parts, Read (.entry part.2.1 part.2.2) part.1) :
    Read (.expression (.hashMap .hashMap (parts.map (·.2.1)) (parts.map (·.2.2))))
      (sign :: opening :: (ts ++ [closing])) := by
  refine read_of_succ ?_
  intro room last rest
  have hwithin : (mapOfEntries (parts.map (·.2))).nesting ≤ room + 1 ↔
      ∀ part ∈ parts, part.2.1.nesting + 2 ≤ room ∧ part.2.2.nesting + 2 ≤ room := by
    rw [mapOfEntries, Node.nesting_hashMap_le_iff, List.forall_mem_map]
    simp
  -- the grammar keeps keys and values apart, the reader makes the map of its entries
  have hmaps : Node.hashMap .hashMap (parts.map (·.2.1)) (parts.map (·.2.2)) =
      mapOfEntries (parts.map (·.2)) := by
    simp [mapOfEntries]
  obtain ⟨left, henclosed⟩ := enclosed_parts (fun e => .entry e.1 e.2) mapOfEntries
    (fun e => e.1.nesting + 2 ≤ room ∧ e.2.nesting + 2 ≤ room) hc (Or.inr (Or.inr rfl)) hjoined
    hparts (fun part hpart => hread part hpart room) hwithin last rest
  refine ⟨left, ?_⟩
  rw [hmaps, ← henclosed]
  simp only [Token.isDelimiter, decide_eq_true_eq] at hs
  simp [term, hs, delimited, Expression.hashMap, ho]

/-- A keyword with a colon is read if its value is. -/
theorem read_keyword {name colon : Token} {v : Node} {ts : List Token} (hname : IsKey name)
    (hcolon : colon.isOperator [':'] = true) (hts : ts ≠ []) (hv : Read (.expression v) ts) :
    Read (.entry (keywordKey name) v) (name :: colon :: ts) := by
  intro room
  have hkey : (name.isKeywordKey && colon.isOperator [':']) = true := by
    rw [(isKeywordKey_iff name).2 hname, hcolon]
    rfl
  -- the key is a literal, so it needs no more room than the value
  have hwithin : (1 + 2 ≤ room ∧ v.nesting + 2 ≤ room) ↔ v.nesting + 2 ≤ room := by
    have := v.nesting_pos
    omega
  rw [mapEntry, if_pos hkey, if_neg hts, hv.element room, keywordKey]
  simp only [Node.nesting_literal, hwithin]
  split_ifs <;> rfl

/-- An entry with an arrow is read if its key and its value are. -/
theorem read_arrow {k v : Node} {arrow : Token} {ts us : List Token}
    (harrow : arrow.isOperator ['=', '>'] = true) (hk : Derives (.expression k) ts)
    (hus : us ≠ []) (hkey : Read (.expression k) ts) (hvalue : Read (.expression v) us) :
    Read (.entry k v) (ts ++ arrow :: us) := by
  intro room
  obtain ⟨first, hfirst⟩ := mapEntry_arrow (elementWithin room) us hk harrow
  rw [hfirst, arrowEntry_eq hk harrow hus, hkey.element room, hvalue.element room]
  -- the key is read first, and then the value
  by_cases hkw : k.nesting + 2 ≤ room
  · by_cases hvw : v.nesting + 2 ≤ room
    · rw [if_pos hkw, if_pos hvw, if_pos ⟨hkw, hvw⟩]
      rfl
    · have hboth : ¬ (k.nesting + 2 ≤ room ∧ v.nesting + 2 ≤ room) := fun h => hvw h.2
      rw [if_pos hkw, if_neg hvw, if_neg hboth]
      rfl
  · have hboth : ¬ (k.nesting + 2 ≤ room ∧ v.nesting + 2 ≤ room) := fun h => hkw h.1
    rw [if_neg hkw, if_neg hboth]
    rfl

/-- What the grammar derives is read. -/
theorem Derives.read {φ : Phrase} {ts : List Token} (h : Derives φ ts) : Read φ ts := by
  induction h with
  | moduleAttribute hsign hname _ ih => exact read_moduleAttribute hsign hname ih
  | call hidentifier hkind hdot ho hc hparts hjoined ih =>
      exact read_call hidentifier hkind hdot ho hc hjoined hparts ih
  | literal h => exact read_literal h
  | collection ho hc hparts hjoined ih => exact read_collection ho hc hjoined hparts ih
  | hashMap hs ho hc hparts hjoined ih => exact read_hashMap hs ho hc hjoined hparts ih
  | keyword hname hcolon hv ih => exact read_keyword hname hcolon hv.ne_nil ih
  | arrow hk harrow hv ihk ihv => exact read_arrow harrow hk hv.ne_nil ihk ihv

end Grammar

end ElixirTerms
