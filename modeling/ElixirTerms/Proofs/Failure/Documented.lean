/-
# Reading fails as documented

Whatever tokens a program is made of, reading it gives expressions or one of the documented errors,
and so does every round of reading with recovery.  Places in a list that are not there are never
asked for: no reader looks at a segment that holds nothing (`term_congr`), and no look ahead goes
before the start of the list (`peek_natCast`).
-/
import ElixirTerms.Proofs.Failure.Blame
import ElixirTerms.Proofs.Recovery.FirstError

namespace ElixirTerms

/-! ## Segments that hold nothing -/

namespace Expression

open Segment

variable {β : Type} {read read' : List Token → Except ParseError β} {element element' : Element}

/-- Reading several segments looks only at these. -/
theorem mapM_congr {segments : List (List Token)} (h : ∀ s ∈ segments, read s = read' s) :
    segments.mapM read = segments.mapM read' := by
  induction segments with
  | nil => rfl
  | cons segment segments ih =>
      obtain ⟨hsegment, hothers⟩ := List.forall_mem_cons.1 h
      rw [List.mapM_cons, List.mapM_cons, hsegment, ih hothers]

/-- Reading the contents of brackets never comes to a segment that holds nothing. -/
theorem enclosed_congr (h : ∀ s, s ≠ [] → read s = read' s) (closer : Text)
    (make : List β → Node) :
    enclosed closer (fun segments => (segments.mapM read).map make) =
      enclosed closer fun segments => (segments.mapM read').map make := by
  funext last ts
  unfold enclosed
  cases hrow : row closer last ts with
  | fail e rest => rfl
  | done segments rest =>
      have hmapM : segments.mapM read = segments.mapM read' :=
        mapM_congr fun s hs => h s (segments_of_row hrow s hs).1
      rw [Reading.build, Reading.build, hmapM]

/-- Reading an entry never comes to a key or a value that holds nothing. -/
theorem mapEntry_congr (h : ∀ s, s ≠ [] → element s = element' s) (segment : List Token) :
    mapEntry element segment = mapEntry element' segment := by
  have harrow : ∀ first, arrowEntry element first segment = arrowEntry element' first segment := by
    intro first
    unfold arrowEntry
    split
    · rfl
    · dsimp only
      split_ifs with hempty
      · rfl
      · rw [h _ (not_or.1 hempty).1, h _ (not_or.1 hempty).2]
  unfold mapEntry
  split
  · rfl
  · exact harrow _
  · split_ifs with hkeyword hvalue
    · rfl
    · rw [h _ hvalue]
    · exact harrow _

/-- Reading a call never comes to an argument that holds nothing. -/
theorem call_congr (h : ∀ s, s ≠ [] → element s = element' s) : call element = call element' := by
  funext last ts
  unfold call
  split
  · rw [enclosed_congr h]
  · rfl

/-- Reading a map never comes to an entry that holds nothing. -/
theorem hashMap_congr (h : ∀ s, s ≠ [] → element s = element' s) :
    hashMap element = hashMap element' := by
  funext last ts
  unfold hashMap
  split
  · rw [enclosed_congr fun s _ => mapEntry_congr h s]
  · rfl

/-- **No reader looks at a segment that holds nothing**, whatever such a segment would be answered
with. -/
theorem term_congr (h : ∀ s, s ≠ [] → element s = element' s) (value : Reader Node) :
    term value element = term value element' := by
  funext last ts
  unfold term identified delimited elements
  simp only [call_congr h, hashMap_congr h, enclosed_congr h]

end Expression

/-! ## Looks ahead -/

namespace Cursor

/-- A look ahead finds the token there, or the tokens have run out. -/
theorem peek_natCast (cursor : Cursor) (offset : Nat) :
    cursor.peek offset =
      match cursor.tokens[cursor.pos + offset]? with
      | some t => .ok t
      | none => .error (.unexpectedEnd .next cursor.last?) := by
  rw [peek, ← Int.natCast_add, Cell.ofIndex_natCast]
  cases cursor.tokens[cursor.pos + offset]? <;> rfl

/-- A look ahead for a token that may not be there finds it or nothing. -/
theorem peek?_natCast (cursor : Cursor) (offset : Nat) :
    cursor.peek? offset = .ok cursor.tokens[cursor.pos + offset]? := by
  rw [peek?, ← Int.natCast_add, Cell.ofIndex_natCast]
  cases cursor.tokens[cursor.pos + offset]? <;> rfl

end Cursor

/-! ## Programs -/

namespace Program

open Expression

/-- Where a round gives an error, it arose at an end of the tokens. -/
theorem Rounds.top_of_error {last : Option Token} {ts : List Token}
    {pieces : List (List Token × Except ParseError Node)} (h : Rounds last pieces ts) :
    ∀ piece ∈ pieces, ∀ e, piece.2 = .error e →
      ∃ us rest, us <:+ ts ∧ top last us = .fail e rest := by
  induction h with
  | done => exact List.forall_mem_nil _
  | @expression taken rest n pieces _ _ ih =>
      refine List.forall_mem_cons.2 ⟨nofun, ?_⟩
      intro piece hpiece e he
      obtain ⟨us, left, hsuffix, hfail⟩ := ih piece hpiece e he
      exact ⟨us, left, hsuffix.trans (List.suffix_append taken rest), hfail⟩
  | @error taken rest e pieces htop _ _ ih =>
      refine List.forall_mem_cons.2 ⟨?_, ?_⟩
      · intro e' he
        cases he
        exact ⟨taken ++ rest, rest, List.suffix_refl _, htop⟩
      · intro piece hpiece e' he
        obtain ⟨us, left, hsuffix, hfail⟩ := ih piece hpiece e' he
        exact ⟨us, left, hsuffix.trans (List.suffix_append taken rest), hfail⟩
  | @skip t rest e pieces htop _ ih =>
      refine List.forall_mem_cons.2 ⟨?_, ?_⟩
      · intro e' he
        cases he
        exact ⟨t :: rest, t :: rest, List.suffix_refl _, htop⟩
      · intro piece hpiece e' he
        obtain ⟨us, left, hsuffix, hfail⟩ := ih piece hpiece e' he
        exact ⟨us, left, hsuffix.trans (List.suffix_cons t rest), hfail⟩

/-- **A whole run.**  Reading with recovery gives expressions and documented errors. -/
theorem results_blames {ts : List Token} {e : ParseError} (he : .error e ∈ results ts.getLast? ts) :
    e.Blames ts := by
  have hne : ts ≠ [] := by
    rintro rfl
    rw [results_nil] at he
    cases he
  obtain ⟨last, hmem, hlast⟩ := exists_getLast? hne
  obtain ⟨pieces, hrounds, hresults⟩ := exists_rounds ts.getLast? ts
  rw [hresults] at he
  obtain ⟨piece, hpiece, he⟩ := List.mem_map.1 he
  obtain ⟨us, rest, hsuffix, htop⟩ := hrounds.top_of_error piece hpiece e he
  have hblames := expression_blames (nestingLimit + 1) hmem hsuffix.subset
  rw [hlast, top] at htop
  rwa [htop] at hblames

/-- Reading that stops at the first error stops at one that reading with recovery gives. -/
theorem mem_results_of_expressions {last : Option Token} {ts rest : List Token} {e : ParseError}
    (h : expressions last ts = .fail e rest) : .error e ∈ results last ts := by
  obtain ⟨ns, us, hleads, hus, htop⟩ := leads_of_expressions_fail h
  obtain ⟨later, hlater⟩ := exists_results_of_fail hus htop
  rw [hleads.results_eq, hlater]
  exact List.mem_append_right _ List.mem_cons_self

/-- **Reading fails only in the documented way.**  Any tokens, in whatever way they were made, are
read as some expressions or there is one of the documented errors; with recovery there are
expressions and documented errors.  Unless the nesting is too deep an error names one of the
significant tokens, as it stands in the list.  No reader at any depth looks at a segment that holds
nothing, and no look at a token ahead asks for one before the start of the list. -/
theorem parse_errors_blame (tokens : List Token) :
    ((∃ ns, parse tokens = .ok ns) ∨
      ∃ e, parse tokens = .error e ∧ e.Blames (significant tokens)) ∧
    (∀ result ∈ parseAll tokens, (∃ n, result = .ok n) ∨
      ∃ e, result = .error e ∧ e.Blames (significant tokens)) ∧
    (∀ (room : Nat) (element : Element), (∀ s, s ≠ [] → elementWithin room s = element s) →
      expression (room + 1) = term (expression room) element) ∧
    (∀ (cursor : Cursor) (offset : Nat),
      cursor.peek offset ≠ .error .outOfRange ∧ ∃ t?, cursor.peek? offset = .ok t?) := by
  refine ⟨?_, ?_, ?_, ?_⟩
  · cases hread : expressions (significant tokens).getLast? (significant tokens) with
    | done ns rest => exact .inl ⟨ns, congrArg Reading.outcome hread⟩
    | fail e rest =>
        exact .inr ⟨e, congrArg Reading.outcome hread,
          results_blames (mem_results_of_expressions hread)⟩
  · intro result hresult
    cases result with
    | ok n => exact .inl ⟨n, rfl⟩
    | error e => exact .inr ⟨e, rfl, results_blames hresult⟩
  · intro room element helement
    rw [expression_succ]
    exact term_congr helement _
  · intro cursor offset
    refine ⟨?_, _, cursor.peek?_natCast offset⟩
    rw [cursor.peek_natCast offset]
    split <;> nofun

/-- Brackets are opened and a comma stands where an entry should, at places that no text has: the
comma is blamed as it stands.  It does not matter what segments without tokens are answered with. -/
theorem parse_errors_blame_comma :
    (∃ tokens e, tokens.map Token.kind = [.delimiter, .delimiter, .comma] ∧
      .error e ∈ parseAll tokens ∧ e = .emptyScan (some ⟨.comma, "]", ⟨-2, 7⟩⟩) ∧
      e.Blames tokens) ∧
    expression 6 = term (expression 5) fun s =>
      if s = [] then .error .outOfRange else elementWithin 5 s := by
  have hresults : parseAll [⟨.delimiter, "%", ⟨3, -1⟩⟩, ⟨.delimiter, "\x7b", ⟨0, 0⟩⟩,
      ⟨.comma, "]", ⟨-2, 7⟩⟩] =
        [.error (.emptyScan (some ⟨.comma, "]", ⟨-2, 7⟩⟩)),
          .error (.unrecognized .expression ⟨.comma, "]", ⟨-2, 7⟩⟩)] := by cbv
  have hmem := hresults ▸ List.mem_cons_self
  obtain ⟨-, hall, hnonempty, -⟩ := parse_errors_blame [⟨.delimiter, "%", ⟨3, -1⟩⟩,
    ⟨.delimiter, "\x7b", ⟨0, 0⟩⟩, ⟨.comma, "]", ⟨-2, 7⟩⟩]
  refine ⟨?_, hnonempty 5 _ fun s hs => (if_neg hs).symm⟩
  rcases hall _ hmem with ⟨n, hn⟩ | ⟨e, he, hblames⟩
  · cases hn
  · cases he
    exact ⟨_, _, rfl, hmem, rfl, hblames⟩

end Program

end ElixirTerms
