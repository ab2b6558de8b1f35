/-
# What is read is derived

Whatever expression is read from the head of a list of tokens, the grammar derives it from exactly
the tokens that were taken, and there was room for it.
-/
import ElixirTerms.Proofs.Grammar.Complete

namespace ElixirTerms

namespace Grammar

open Expression Segment

/-! ## Parts -/

/-- A segment that is read as a whole is read to its end. -/
theorem read_of_whole {read : Reader Node} {segment : List Token} {n : Node}
    (h : whole read segment = .ok n) : read segment.getLast? segment = .done n [] := by
  unfold whole at h
  split at h
  · rename_i hread
    cases h
    exact hread
  · cases h
  · cases h

/-- Values that were read from all segments belong to one segment each. -/
theorem parts_of_mapM {β : Type} {f : List Token → Except ParseError β}
    {segments : List (List Token)} {values : List β} (h : segments.mapM f = .ok values) :
    ∃ parts : List (List Token × β), segments = parts.map (·.1) ∧ values = parts.map (·.2) ∧
      ∀ part ∈ parts, f part.1 = .ok part.2 := by
  induction segments generalizing values with
  | nil =>
      cases h
      exact ⟨[], rfl, rfl, by simp⟩
  | cons segment segments ih =>
      rw [List.mapM_cons] at h
      obtain ⟨value, hf, h⟩ := bind_eq_ok_iff.1 h
      obtain ⟨others, hrest, h⟩ := bind_eq_ok_iff.1 h
      obtain ⟨parts, rfl, rfl, hparts⟩ := ih hrest
      rw [← pure_eq_ok_iff.1 h]
      exact ⟨(segment, value) :: parts, rfl, rfl, List.forall_mem_cons.2 ⟨hf, hparts⟩⟩

/-- A node that was read from brackets was made of closed segments that commas have joined. -/
theorem commaJoined_of_enclosed {closer : Text} {make : List (List Token) → Except ParseError Node}
    {last : Option Token} {ts rest : List Token} {n : Node}
    (h : enclosed closer make last ts = .done n rest) :
    ∃ segments us closing, ts = us ++ closing :: rest ∧ closing.isDelimiter closer = true ∧
      CommaJoined segments us ∧ make segments = .ok n := by
  obtain ⟨segments, hrow, hmake⟩ := Reading.build_eq_done_iff.1 h
  obtain ⟨us, closing, hts, hc, hjoined, -⟩ := commaJoined_of_row hrow
  exact ⟨segments, us, closing, hts, hc, hjoined, hmake⟩

/-- A node that was read from brackets part by part is made of the values of its parts. -/
theorem parts_of_enclosed {β : Type} {f : List Token → Except ParseError β} {make : List β → Node}
    {closer : Text} {last : Option Token} {ts rest : List Token} {n : Node}
    (h : enclosed closer (fun segments => (segments.mapM f).map make) last ts = .done n rest) :
    ∃ (parts : List (List Token × β)) (us : List Token) (closing : Token),
      ts = us ++ closing :: rest ∧ closing.isDelimiter closer = true ∧
      CommaJoined (parts.map (·.1)) us ∧ (∀ part ∈ parts, f part.1 = .ok part.2) ∧
      n = make (parts.map (·.2)) := by
  obtain ⟨segments, us, closing, hts, hc, hjoined, hmake⟩ := commaJoined_of_enclosed h
  obtain ⟨values, hmapM, rfl⟩ := map_eq_ok_iff.1 hmake
  obtain ⟨parts, rfl, rfl, hparts⟩ := parts_of_mapM hmapM
  exact ⟨parts, us, closing, hts, hc, hjoined, hparts, rfl⟩

/-! ## Entries -/

/-- What is read as an entry with an arrow is a key, the arrow and a value. -/
theorem split_of_arrowEntry {element : Element} {first : Token} {segment : List Token} {k v : Node}
    (h : arrowEntry element first segment = .ok (k, v)) :
    ∃ ts arrow us, segment = ts ++ arrow :: us ∧ arrow.isOperator ['=', '>'] = true ∧
      element ts = .ok k ∧ element us = .ok v := by
  unfold arrowEntry at h
  split at h
  · cases h
  · rename_i i hi
    obtain ⟨arrow, hsplit, harrow⟩ := split_of_topLevelIndex? hi
    dsimp only at h
    split_ifs at h
    obtain ⟨k', hk, h⟩ := bind_eq_ok_iff.1 h
    obtain ⟨v', hv, h⟩ := bind_eq_ok_iff.1 h
    cases pure_eq_ok_iff.1 h
    exact ⟨_, arrow, _, hsplit, harrow, hk, hv⟩

/-- What is read as an entry is an entry, if what is read as an element is an expression. -/
theorem derives_of_mapEntry {element : Element} (within : Node → Prop)
    (helement : ∀ segment n, element segment = .ok n → Derives (.expression n) segment ∧ within n)
    (hkey : ∀ name v, within v → within (keywordKey name)) {segment : List Token} {k v : Node}
    (h : mapEntry element segment = .ok (k, v)) :
    Derives (.entry k v) segment ∧ within k ∧ within v := by
  -- all that does not start like a keyword is read as an entry with an arrow
  have harrow : ∀ first, arrowEntry element first segment = .ok (k, v) →
      Derives (.entry k v) segment ∧ within k ∧ within v := by
    intro first hentry
    obtain ⟨ts, arrow, us, rfl, harrow, hk, hv⟩ := split_of_arrowEntry hentry
    have hk' := helement ts k hk
    have hv' := helement us v hv
    exact ⟨.arrow hk'.1 harrow hv'.1, hk'.2, hv'.2⟩
  unfold mapEntry at h
  split at h
  · cases h
  · exact harrow _ h
  · rename_i name colon value
    split_ifs at h with hcolon
    · obtain ⟨v', hv, hentry⟩ := map_eq_ok_iff.1 h
      cases hentry
      obtain ⟨hname, hcolon⟩ := Bool.and_eq_true_iff.1 hcolon
      obtain ⟨hderives, hwithin⟩ := helement value v hv
      exact ⟨.ofKeywordKey ((isKeywordKey_iff name).1 hname) hcolon hderives, hkey name v hwithin,
        hwithin⟩
    · exact harrow name h

/-! ## Expressions -/

/-- An expression that fits some room stands at the head of the tokens, before the rest. -/
def Stands (room : Nat) (ts : List Token) (n : Node) (rest : List Token) : Prop :=
  ∃ taken, ts = taken ++ rest ∧ Derives (.expression n) taken ∧ n.nesting ≤ room

/-- What is read with some room stands there. -/
def Sound (room : Nat) : Prop :=
  ∀ last ts n rest, expression room last ts = .done n rest → Stands room ts n rest

section

variable {room : Nat} {last : Option Token} {rest : List Token} {n : Node}

/-- An element that was read is derived. -/
theorem derives_of_elementWithin (hsound : ∀ inner < room + 1, Sound inner)
    {segment : List Token} (h : elementWithin room segment = .ok n) :
    Derives (.expression n) segment ∧ n.nesting + 2 ≤ room := by
  match room with
  | 0 => cases h
  | 1 => cases h
  | inner + 2 =>
      obtain ⟨taken, hsegment, hderives, hnesting⟩ :=
        hsound inner (by omega) _ _ _ _ (read_of_whole h)
      rw [List.append_nil] at hsegment
      rw [hsegment]
      exact ⟨hderives, by omega⟩

/-- An entry that was read is derived. -/
theorem derives_of_entryWithin (hsound : ∀ inner < room + 1, Sound inner)
    {segment : List Token} {k v : Node}
    (h : mapEntry (elementWithin room) segment = .ok (k, v)) :
    Derives (.entry k v) segment ∧ k.nesting + 2 ≤ room ∧ v.nesting + 2 ≤ room := by
  refine derives_of_mapEntry (·.nesting + 2 ≤ room)
    (fun segment n => derives_of_elementWithin hsound) ?_ h
  intro name v hv
  have := v.nesting_pos
  rw [keywordKey, Node.nesting_literal]
  omega

/-- An attribute that was read stands there. -/
theorem stands_of_moduleAttribute (hsound : Sound room) {sign : Token} {ts : List Token}
    (hsign : sign.kind = .atSign)
    (h : Expression.moduleAttribute (expression room) last (sign :: ts) = .done n rest) :
    Stands (room + 1) (sign :: ts) n rest := by
  match ts with
  | [] => cases h
  | name :: ts =>
      rw [Expression.moduleAttribute] at h
      split_ifs at h with hname
      obtain ⟨v, hv, rfl⟩ := Reading.map_eq_done_iff.1 h
      obtain ⟨taken, rfl, hderives, hnesting⟩ := hsound _ _ _ _ hv
      refine ⟨sign :: name :: taken, rfl, .moduleAttribute hsign hname hderives, ?_⟩
      rw [Node.nesting_moduleAttribute]
      omega

/-- A call that was read stands there. -/
theorem stands_of_identified (hsound : ∀ inner < room + 1, Sound inner) {identifier : Token}
    {ts : List Token} (hi : identifier.kind = .identifier)
    (h : identified (elementWithin room) last (identifier :: ts) = .done n rest) :
    Stands (room + 1) (identifier :: ts) n rest := by
  rw [identified] at h
  split_ifs at h with hdot
  rcases ts with _ | ⟨dot, _ | ⟨opening, ts⟩⟩
  · cases hdot
  · cases h
  · rw [Expression.call] at h
    split_ifs at h with ho
    obtain ⟨parts, us, closing, rfl, hc, hjoined, hparts, rfl⟩ := parts_of_enclosed h
    simp only [List.head?_cons, Option.any_some, isCallDot, decide_eq_true_eq] at hdot
    have hderives := fun part hpart => derives_of_elementWithin hsound (hparts part hpart)
    refine ⟨identifier :: dot :: opening :: (us ++ [closing]), by simp, ?_, ?_⟩
    · exact .call hi hdot.1 hdot.2 ho hc (fun part hpart => (hderives part hpart).1) hjoined
    · rw [Node.nesting_call_le_iff, List.forall_mem_map, forall_nesting_iff]
      exact fun part hpart => (hderives part hpart).2

/-- A list or a tuple that was read stands there. -/
theorem stands_of_elements (hsound : ∀ inner < room + 1, Sound inner) (shape : Node.Shape)
    {opening : Token} {ts : List Token} (ho : opening.isDelimiter (opener shape) = true)
    (h : elements shape (closer shape) (elementWithin room) last ts = .done n rest) :
    Stands (room + 1) (opening :: ts) n rest := by
  obtain ⟨parts, us, closing, rfl, hc, hjoined, hparts, rfl⟩ := parts_of_enclosed h
  have hderives := fun part hpart => derives_of_elementWithin hsound (hparts part hpart)
  refine ⟨opening :: (us ++ [closing]), by simp, ?_, ?_⟩
  · exact .collection ho hc (fun part hpart => (hderives part hpart).1) hjoined
  · rw [Node.nesting_collection_le_iff, List.forall_mem_map, forall_nesting_iff]
    exact fun part hpart => (hderives part hpart).2

/-- A map that was read stands there. -/
theorem stands_of_hashMap (hsound : ∀ inner < room + 1, Sound inner) {sign : Token}
    {ts : List Token} (hs : sign.isDelimiter ['%'] = true)
    (h : Expression.hashMap (elementWithin room) last (sign :: ts) = .done n rest) :
    Stands (room + 1) (sign :: ts) n rest := by
  match ts with
  | [] => cases h
  | opening :: ts =>
      rw [Expression.hashMap] at h
      split_ifs at h with ho
      obtain ⟨parts, us, closing, rfl, hc, hjoined, hparts, rfl⟩ := parts_of_enclosed h
      have hderives := fun part hpart => derives_of_entryWithin hsound (hparts part hpart)
      have hmaps : mapOfEntries (parts.map (·.2)) =
          .hashMap .hashMap (parts.map (·.2.1)) (parts.map (·.2.2)) := by
        simp [mapOfEntries]
      refine ⟨sign :: opening :: (us ++ [closing]), by simp, ?_, ?_⟩
      · rw [hmaps]
        exact .hashMap hs ho hc (fun part hpart => (hderives part hpart).1) hjoined
      · rw [mapOfEntries, Node.nesting_hashMap_le_iff, List.forall_mem_map]
        simpa using fun part hpart => (hderives part hpart).2

/-- What starts with a delimiter and was read stands there. -/
theorem stands_of_delimited (hsound : ∀ inner < room + 1, Sound inner) {t : Token}
    {ts : List Token} (ht : t.kind = .delimiter)
    (h : delimited (elementWithin room) last (t :: ts) = .done n rest) :
    Stands (room + 1) (t :: ts) n rest := by
  have hdelimiter : ∀ lexeme, t.lexeme = lexeme → t.isDelimiter lexeme = true := by
    intro lexeme hlexeme
    simp [Token.isDelimiter, ht, hlexeme]
  rw [delimited] at h
  split_ifs at h with hlist htuple hmap
  · exact stands_of_elements hsound .list (hdelimiter _ hlist) h
  · exact stands_of_elements hsound .tuple (hdelimiter _ htuple) h
  · exact stands_of_hashMap hsound (hdelimiter _ hmap) h

end

/-- Whatever is read stands there. -/
theorem sound (room : Nat) : Sound room := by
  -- elements of brackets have three less room, so the induction is over all smaller rooms
  induction room using Nat.strongRecOn with
  | ind room ih =>
      intro last ts n rest h
      match room with
      | 0 => cases h
      | room + 1 =>
          rw [expression_succ] at h
          match ts with
          | [] => cases h
          | t :: ts =>
              cases ht : t.kind
              all_goals simp only [term, ht, literalForm?] at h
              case atSign => exact stands_of_moduleAttribute (ih room (by omega)) ht h
              case identifier => exact stands_of_identified ih ht h
              case delimiter => exact stands_of_delimited ih ht h
              case number | boolean | atom | string | charlist =>
                cases h
                exact ⟨[t], rfl, .literal (by rw [ht]; constructor), by simp⟩
              all_goals cases h

end Grammar

end ElixirTerms
