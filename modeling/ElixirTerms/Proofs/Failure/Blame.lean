/-
# What errors blame

Reading fails only in the ways that are documented, and unless the nesting is too deep the error
names one of the tokens that were read.  A reader knows the last token of its list, so it has a
token to name even where the tokens have run out; and a segment always holds a token, so the readers
of segments find one too (`enclosed_blames`).
-/
import ElixirTerms.Proofs.Grammar.Sound

namespace ElixirTerms

/-! ## Answers that are errors -/

section

variable {α β : Type} {answer : Except ParseError α} {e : ParseError}

/-- Changing an answer fails as giving it does. -/
theorem map_eq_error_iff {f : α → β} : answer.map f = .error e ↔ answer = .error e := by
  cases answer <;> simp [Except.map]

/-- Of two steps that fail, either the first does, or it gives an answer with which the second
does. -/
theorem bind_eq_error_iff {f : α → Except ParseError β} :
    (answer >>= f) = .error e ↔
      answer = .error e ∨ ∃ a, answer = .ok a ∧ f a = .error e := by
  cases answer <;> simp [bind, Except.bind]

/-- A step that does nothing does not fail. -/
theorem pure_ne_error (a : α) : (pure a : Except ParseError α) ≠ .error e := nofun

/-- An error among things that are read one after the other is that of one of them. -/
theorem exists_of_mapM_error {f : α → Except ParseError β} {as : List α}
    (h : as.mapM f = .error e) : ∃ a ∈ as, f a = .error e := by
  induction as with
  | nil => cases h
  | cons a as ih =>
      rw [List.mapM_cons] at h
      rcases bind_eq_error_iff.1 h with hfirst | ⟨b, -, h⟩
      · exact ⟨a, List.mem_cons_self, hfirst⟩
      rcases bind_eq_error_iff.1 h with hothers | ⟨bs, -, h⟩
      · obtain ⟨other, hmem, hother⟩ := ih hothers
        exact ⟨other, List.mem_cons_of_mem _ hmem, hother⟩
      · exact absurd h (pure_ne_error _)

namespace Reading

/-- A reading whose value is changed fails as it did. -/
theorem map_eq_fail_iff {f : α → β} {r : Reading α} {rest : List Token} :
    r.map f = .fail e rest ↔ r = .fail e rest := by
  cases r <;> simp [map]

/-- Building something fails if the value cannot be read, or if nothing can be built from it. -/
theorem build_eq_fail_iff {f : α → Except ParseError β} {r : Reading α} {rest : List Token} :
    r.build f = .fail e rest ↔
      r = .fail e rest ∨ ∃ a, r = .done a rest ∧ f a = .error e := by
  cases r with
  | fail e' us => simp [build]
  | done a us =>
      cases hf : f a with
      | ok b => simp [build, hf]
      | error e' =>
          simp only [build, hf, fail.injEq, reduceCtorEq, done.injEq, false_or]
          constructor
          · rintro ⟨rfl, rfl⟩
            exact ⟨a, ⟨rfl, rfl⟩, hf⟩
          · rintro ⟨_, ⟨rfl, rfl⟩, hb⟩
            rw [hf] at hb
            exact ⟨Except.error.inj hb, rfl⟩

end Reading

end

/-! ## Documented errors -/

/-- The documented ways to fail on some tokens; all but the last name one of the tokens. -/
inductive ParseError.Blames (all : List Token) : ParseError → Prop where
  | unexpectedEnd {t : Token} (missing : Missing) : t ∈ all → Blames all (.unexpectedEnd missing t)
  | unrecognized {t : Token} (expected : Expected) : t ∈ all → Blames all (.unrecognized expected t)
  | emptyScan {t : Token} : t ∈ all → Blames all (.emptyScan t)
  | nestingTooDeep : Blames all .nestingTooDeep

/-- What blames a token of a part of a list blames a token of the list. -/
theorem ParseError.Blames.mono {us ts : List Token} {e : ParseError} (h : e.Blames us)
    (hsub : us ⊆ ts) : e.Blames ts := by
  cases h with
  | unexpectedEnd missing ht => exact .unexpectedEnd missing (hsub ht)
  | unrecognized expected ht => exact .unrecognized expected (hsub ht)
  | emptyScan ht => exact .emptyScan (hsub ht)
  | nestingTooDeep => exact .nestingTooDeep

/-- If reading has failed, the error blames one of some tokens. -/
def Reading.Blames {α : Type} (all : List Token) : Reading α → Prop
  | done _ _ => True
  | fail e _ => e.Blames all

theorem Reading.Blames.map {α β : Type} {all : List Token} {r : Reading α} (h : r.Blames all)
    (f : α → β) : (r.map f).Blames all := by
  cases r <;> exact h

theorem Reading.Blames.build {α β : Type} {all : List Token} {r : Reading α} (h : r.Blames all)
    {f : α → Except ParseError β}
    (hf : ∀ a rest, r = done a rest → ∀ e, f a = .error e → e.Blames all) :
    (r.build f).Blames all := by
  cases r with
  | fail e rest => exact h
  | done a rest =>
      cases hfa : f a with
      | ok b =>
          rw [Reading.build, hfa]
          trivial
      | error e =>
          rw [Reading.build, hfa]
          exact hf a rest rfl e hfa

/-- A reader that has one of some tokens for the last and is given some of them blames one of
them. -/
def Reader.Blames {α : Type} (read : Reader α) : Prop :=
  ∀ ⦃all ts : List Token⦄ ⦃last : Token⦄, last ∈ all → ts ⊆ all → (read last ts).Blames all

/-- A reader of segments blames a token of the segment if that holds one. -/
def Expression.ElementBlames {β : Type} (read : List Token → Except ParseError β) : Prop :=
  ∀ segment, segment ≠ [] → ∀ e, read segment = .error e → e.Blames segment

variable {all : List Token} {last : Token}

/-! ## Segments -/

namespace Segment

/-- A row that is read from within a segment on fails with a documented error. -/
theorem rowFrom_blames (closer : Text) (hlast : last ∈ all) (depth : Nat) (taken : List Token)
    {ts : List Token} (hts : ts ⊆ all) : (rowFrom closer last depth taken ts).Blames all := by
  induction ts generalizing depth taken with
  | nil =>
      unfold rowFrom
      split
      · exact .emptyScan hlast
      · exact .unexpectedEnd .current hlast
  | cons t rest ih =>
      obtain ⟨ht, hrest⟩ := List.cons_subset.1 hts
      unfold rowFrom
      split
      · exact ih _ _ hrest
      split
      · exact .emptyScan ht
      split
      · exact (ih _ _ hrest).map _
      split
      · trivial
      · exact .unrecognized _ ht

/-- The contents of brackets are cut into segments, or there is a documented error. -/
theorem row_blames (closer : Text) : Reader.Blames (row closer) := by
  intro all ts last hlast hts
  unfold row
  split
  · exact .unexpectedEnd .next hlast
  · split
    · trivial
    · exact rowFrom_blames closer hlast 0 [] hts

/-- The segments that the contents of brackets are cut into hold tokens of these contents. -/
theorem segments_of_row {closer : Text} {last : Option Token} {ts rest : List Token}
    {segments : List (List Token)} (h : row closer last ts = .done segments rest) :
    ∀ s ∈ segments, s ≠ [] ∧ s ⊆ ts := by
  obtain ⟨us, closing, rfl, -, hjoined, hall⟩ := commaJoined_of_row h
  intro s hs
  exact ⟨(hall s hs).1, fun t ht => List.mem_append_left _ (hjoined.mem_of_mem hs ht)⟩

end Segment

namespace Expression

open Segment

/-! ## Elements -/

/-- The last token of a run is there if the run holds a token, and it is one of the run. -/
theorem exists_getLast? {ts : List Token} (h : ts ≠ []) :
    ∃ t ∈ ts, ts.getLast? = some t :=
  ⟨ts.getLast h, List.getLast_mem h, List.getLast?_eq_some_getLast h⟩

/-- A segment that is no expression, or more than one, is blamed on one of its tokens. -/
theorem whole_blames {read : Reader Node} (h : read.Blames) (hadvances : read.Advances) :
    ElementBlames (whole read) := by
  intro segment hne e he
  obtain ⟨t, ht, hlast⟩ := exists_getLast? hne
  have hblames := h ht (List.Subset.refl segment)
  have hsuffix := hadvances segment.getLast? segment
  unfold whole at he
  rw [hlast] at he hsuffix
  split at he
  · cases he
  · -- a token was left, and what is left is an end of the segment
    rename_i n u us hread
    rw [hread] at hsuffix
    cases he
    exact .unrecognized _ (hsuffix.1.subset List.mem_cons_self)
  · rename_i e' rest hread
    rw [hread] at hblames
    cases he
    exact hblames

/-- An element for which there is no room is blamed on nothing. -/
theorem nestingTooDeep_blames :
    ElementBlames fun _ => (.error .nestingTooDeep : Except _ Node) := by
  intro segment _ e he
  cases he
  exact .nestingTooDeep

/-- An error in one of several segments is blamed on a token of that segment. -/
theorem mapM_blames {β : Type} {read : List Token → Except ParseError β} (h : ElementBlames read)
    {segments : List (List Token)} (hsegments : ∀ s ∈ segments, s ≠ [] ∧ s ⊆ all) {e : ParseError}
    (he : segments.mapM read = .error e) : e.Blames all := by
  obtain ⟨segment, hmem, hread⟩ := exists_of_mapM_error he
  obtain ⟨hne, hsub⟩ := hsegments segment hmem
  exact (h segment hne e hread).mono hsub

/-- **Brackets.**  An error in brackets is blamed on a token if errors in their segments are. -/
theorem enclosed_blames {β : Type} {read : List Token → Except ParseError β}
    (h : ElementBlames read) (closer : Text) (make : List β → Node) :
    Reader.Blames (enclosed closer fun segments => (segments.mapM read).map make) := by
  intro all ts last hlast hts
  refine (row_blames closer hlast hts).build ?_
  intro segments rest hrow e he
  refine mapM_blames h ?_ (map_eq_error_iff.1 he)
  intro s hs
  obtain ⟨hne, hsub⟩ := segments_of_row hrow s hs
  exact ⟨hne, List.Subset.trans hsub hts⟩

/-! ## Entries -/

/-- An entry with an arrow is blamed on a token of its segment. -/
theorem arrowEntry_blames {element : Element} (h : ElementBlames element) {first : Token}
    {segment : List Token} (hfirst : first ∈ segment) {e : ParseError}
    (he : arrowEntry element first segment = .error e) : e.Blames segment := by
  unfold arrowEntry at he
  split at he
  · cases he
    exact .unrecognized _ hfirst
  · rename_i i hi
    -- an arrow was found at the index, so a token stands there
    obtain ⟨arrow, hsplit, -⟩ := split_of_topLevelIndex? hi
    have hlt : i < segment.length := by
      have hlength := congrArg List.length hsplit
      simp only [List.length_append, List.length_take, List.length_cons,
        List.length_drop] at hlength
      omega
    dsimp only at he
    split_ifs at he with hempty
    · rw [List.getElem?_eq_getElem hlt] at he
      cases he
      exact .emptyScan (List.getElem_mem hlt)
    · obtain ⟨hkey, hvalue⟩ := not_or.1 hempty
      rcases bind_eq_error_iff.1 he with hk | ⟨k, -, he⟩
      · exact (h _ hkey e hk).mono (List.take_subset i segment)
      rcases bind_eq_error_iff.1 he with hv | ⟨v, -, he⟩
      · exact (h _ hvalue e hv).mono (List.drop_subset (i + 1) segment)
      · exact absurd he (pure_ne_error _)

/-- **Entries.**  An entry of a map is blamed on a token of its segment. -/
theorem mapEntry_blames {element : Element} (h : ElementBlames element) :
    ElementBlames (mapEntry element) := by
  intro segment hne e he
  unfold mapEntry at he
  split at he
  · exact absurd rfl hne
  · exact arrowEntry_blames h List.mem_cons_self he
  · rename_i first second value
    split_ifs at he with hkeyword hvalue
    · cases he
      exact .emptyScan (List.mem_cons_of_mem first List.mem_cons_self)
    · exact (h value hvalue e (map_eq_error_iff.1 he)).mono
        (List.subset_append_right [first, second] value)
    · exact arrowEntry_blames h List.mem_cons_self he

/-! ## Expressions -/

variable {value : Reader Node} {element : Element}

/-- A module attribute is blamed on its name, or its value is on a token. -/
theorem moduleAttribute_blames (h : value.Blames) : Reader.Blames (moduleAttribute value) := by
  intro all ts last hlast hts
  unfold moduleAttribute
  split
  · rename_i sign name rest
    split
    · exact (h hlast (List.Subset.trans (List.subset_append_right [sign, name] rest) hts)).map _
    · exact .unrecognized _ (hts (List.mem_cons_of_mem sign List.mem_cons_self))
  · exact .unexpectedEnd .current hlast

/-- A call is blamed on what stands in place of its parenthesis, or an argument is on a token. -/
theorem call_blames (h : ElementBlames element) : Reader.Blames (call element) := by
  intro all ts last hlast hts
  unfold call
  split
  · rename_i identifier dot opening rest
    have hrest : rest ⊆ all :=
      List.Subset.trans (List.subset_append_right [identifier, dot, opening] rest) hts
    split
    · exact enclosed_blames h _ _ hlast hrest
    · exact .unrecognized _ (hts (by simp))
  · exact .unexpectedEnd .current hlast

/-- What starts with an identifier is blamed on a token. -/
theorem identified_blames (h : ElementBlames element) : Reader.Blames (identified element) := by
  intro all ts last hlast hts
  unfold identified
  split
  · exact .unexpectedEnd .next hlast
  · split
    · exact call_blames h hlast hts
    · exact .unrecognized _ (hts List.mem_cons_self)

/-- A map is blamed on what stands in place of its brace, or an entry is on a token. -/
theorem hashMap_blames (h : ElementBlames element) : Reader.Blames (hashMap element) := by
  intro all ts last hlast hts
  unfold hashMap
  split
  · rename_i sign opening rest
    split
    · exact enclosed_blames (mapEntry_blames h) _ _ hlast
        (List.Subset.trans (List.subset_append_right [sign, opening] rest) hts)
    · exact .unrecognized _ (hts (List.mem_cons_of_mem sign List.mem_cons_self))
  · exact .unexpectedEnd .current hlast

/-- What starts with a delimiter is blamed on a token. -/
theorem delimited_blames (h : ElementBlames element) : Reader.Blames (delimited element) := by
  intro all ts last hlast hts
  unfold delimited
  split
  · exact .unexpectedEnd .next hlast
  · obtain ⟨ht, hrest⟩ := List.cons_subset.1 hts
    split
    · exact enclosed_blames h _ _ hlast hrest
    split
    · exact enclosed_blames h _ _ hlast hrest
    split
    · exact hashMap_blames h hlast hts
    · exact .unrecognized _ ht

/-- **One step.**  An expression is blamed on a token if its parts are. -/
theorem term_blames (hvalue : value.Blames) (helement : ElementBlames element) :
    Reader.Blames (term value element) := by
  intro all ts last hlast hts
  unfold term
  split
  · exact .unexpectedEnd .next hlast
  · split
    · exact moduleAttribute_blames hvalue hlast hts
    · exact identified_blames helement hlast hts
    · exact delimited_blames helement hlast hts
    · split
      · trivial
      · exact .unrecognized _ (hts List.mem_cons_self)

/-- **At any depth.**  Whatever room there is for nesting, an expression is blamed on a token. -/
theorem expression_blames (room : Nat) : Reader.Blames (expression room) := by
  -- elements of brackets have three less room, so the induction is over all smaller rooms
  induction room using Nat.strongRecOn with
  | ind room ih =>
      match room with
      | 0 => exact fun _ _ _ _ _ => .nestingTooDeep
      | room + 1 =>
          rw [expression_succ]
          refine term_blames (ih room (Nat.lt_succ_self room)) ?_
          unfold elementWithin
          split
          · rename_i inner
            exact whole_blames (ih inner (by omega)) (expression_advances inner)
          · exact nestingTooDeep_blames

end Expression

end ElixirTerms
