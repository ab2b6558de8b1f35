/-
# Cursors go forward

A cursor may be asked for anything wherever it stands, also for a construct that does not start
there, and after errors that have left it within an expression.  It keeps its tokens and moves to an
end of those that are left before it (`exists_rest_of_perform`), so it never goes back and never
leaves its list.  Reading with recovery, which moves the cursor by itself, moves it round by round
(`recovers_results`).
-/
import ElixirTerms.Proofs.Failure.Blame
import ElixirTerms.Proofs.Recovery.FirstError

namespace ElixirTerms

open Expression

/-! ## What readers leave -/

section

variable {α : Type}

/-- What is left by a reading that advances is an end of the tokens. -/
theorem Reading.Advances.rest_suffix {ts : List Token} {r : Reading α} (h : r.Advances ts) :
    r.rest <:+ ts := by
  cases r with
  | done a rest => exact h.1
  | fail e rest => exact h

/-- The reader leaves all tokens where it fails. -/
def Reader.FailsInPlace (read : Reader α) : Prop :=
  ∀ ⦃last ts e rest⦄, read last ts = .fail e rest → rest = ts

end

namespace Reader

theorem next_advances : Reader.Advances next := by
  intro last ts
  cases ts with
  | nil => exact List.suffix_refl []
  | cons t rest => exact ⟨List.suffix_cons t rest, Nat.lt_succ_self _⟩

theorem next_failsInPlace : FailsInPlace next := by
  intro last ts e rest h
  cases ts with
  | nil =>
      cases h
      rfl
  | cons t rest => cases h

theorem delimiter_advances (lexeme : Text) : Reader.Advances (delimiter lexeme) := by
  intro last ts
  cases ts with
  | nil => exact List.suffix_refl []
  | cons t rest =>
      show ((if t.isDelimiter lexeme then .done t rest
        else .fail (.unrecognized (.delimiter lexeme) t) rest : Reading Token)).Advances (t :: rest)
      split
      · exact ⟨List.suffix_cons t rest, Nat.lt_succ_self _⟩
      · exact List.suffix_cons t rest

theorem takeWhile_advances (p : Token → Bool) : Reader.Advances (takeWhile p) := by
  intro last ts
  unfold takeWhile
  split
  · exact List.suffix_refl ts
  · rename_i hne
    have hsplit := List.takeWhile_append_dropWhile (p := p) (l := ts)
    have hpos := List.length_pos_iff.2 hne
    refine ⟨⟨_, hsplit⟩, ?_⟩
    have hlength := congrArg List.length hsplit
    rw [List.length_append] at hlength
    omega

theorem takeWhile_failsInPlace (p : Token → Bool) : FailsInPlace (takeWhile p) := by
  intro last ts e rest h
  unfold takeWhile at h
  split at h
  · cases h
    rfl
  · cases h

end Reader

/-- A segment that holds nothing ends where it starts. -/
theorem Segment.segment_failsInPlace : Reader.FailsInPlace segment := by
  intro last ts e rest h
  have happ := cut_append 0 ts
  unfold segment at h
  split at h
  · rename_i us hcut
    cases h
    rw [hcut] at happ
    exact happ
  · cases h

namespace Program

/-- What is left after expressions one after the other is an end of the tokens. -/
theorem Leads.suffix {last : Option Token} {ns : List Node} {ts rest : List Token}
    (h : Leads last ns ts rest) : rest <:+ ts := by
  induction h with
  | none ts => exact List.suffix_refl ts
  | @next n ns ts us rest htop _ ih =>
      have hadvances := top_advances last ts
      rw [htop] at hadvances
      exact ih.trans hadvances.1

/-- What is left after a program, or after the first error in it, is an end of the tokens. -/
theorem expressions_suffix (last : Option Token) (ts : List Token) :
    (expressions last ts).rest <:+ ts := by
  cases hread : expressions last ts with
  | done ns rest =>
      obtain ⟨rfl, -⟩ := Grammar.derivesAll_of_expressions hread
      exact List.nil_suffix
  | fail e rest =>
      obtain ⟨ns, us, hleads, -, htop⟩ := leads_of_expressions_fail hread
      have hadvances := top_advances last us
      rw [htop] at hadvances
      exact hadvances.rest_suffix.trans hleads.suffix

end Program

namespace Cursor

variable {cursor later : Cursor}

/-! ## Moving -/

/-- The cursor stands within its tokens, or at their end. -/
def Within (cursor : Cursor) : Prop := cursor.pos ≤ cursor.tokens.length

/-- The second cursor is over the same tokens, and does not stand before the first. -/
structure Onward (cursor later : Cursor) : Prop where
  tokens_eq : later.tokens = cursor.tokens
  pos_le : cursor.pos ≤ later.pos
  within : later.Within

/-- A cursor that stays where it is goes on. -/
theorem Onward.refl (h : cursor.Within) : Onward cursor cursor := ⟨rfl, Nat.le_refl _, h⟩

/-- A cursor that goes on and on goes on. -/
theorem Onward.trans {mid : Cursor} (h : Onward cursor mid) (h' : Onward mid later) :
    Onward cursor later :=
  ⟨h'.tokens_eq.trans h.tokens_eq, Nat.le_trans h.pos_le h'.pos_le, h'.within⟩

/-- There are as many tokens left before a cursor as there are after the consumed ones. -/
theorem length_rest (cursor : Cursor) : cursor.rest.length = cursor.tokens.length - cursor.pos :=
  List.length_drop

/-- A cursor stands before the tokens that are left before it. -/
theorem moveTo_rest (h : cursor.Within) : cursor.moveTo cursor.rest = cursor := by
  have hle : cursor.pos ≤ cursor.tokens.length := h
  have hpos : cursor.tokens.length - cursor.rest.length = cursor.pos := by
    rw [length_rest]
    omega
  rw [moveTo, hpos]

/-- A cursor that moves to an end of the tokens that are left before it goes on. -/
theorem onward_moveTo (h : cursor.Within) {rest : List Token} (hrest : rest <:+ cursor.rest) :
    Onward cursor (cursor.moveTo rest) := by
  have hle : cursor.pos ≤ cursor.tokens.length := h
  have hlength := hrest.length_le
  rw [length_rest] at hlength
  refine ⟨rfl, ?_, Nat.sub_le _ _⟩
  show cursor.pos ≤ cursor.tokens.length - rest.length
  omega

/-- A cursor that moves over some of the tokens that are left before it goes ahead. -/
theorem pos_lt_moveTo {rest : List Token} (hrest : rest.length < cursor.rest.length) :
    cursor.pos < (cursor.moveTo rest).pos := by
  rw [length_rest] at hrest
  show cursor.pos < cursor.tokens.length - rest.length
  omega

/-- A reader that leaves all tokens where it fails leaves the cursor there. -/
theorem run_of_error {α : Type} {read : Reader α} (hread : read.FailsInPlace) (h : cursor.Within)
    {e : ParseError} (he : (cursor.run read).1 = .error e) : (cursor.run read).2 = cursor := by
  unfold run at he ⊢
  cases hreading : read cursor.last? cursor.rest with
  | done a rest =>
      rw [hreading] at he
      cases he
  | fail e' rest =>
      rw [hread hreading]
      exact moveTo_rest h

/-! ## Calls -/

/-- **One step.**  Whatever a cursor is asked for, it keeps its tokens and moves to an end of those
that are left before it. -/
theorem exists_rest_of_perform (h : cursor.Within) (request : Call) :
    ∃ rest, rest <:+ cursor.rest ∧ (cursor.perform request).2 = cursor.moveTo rest := by
  have hstays : ∃ rest, rest <:+ cursor.rest ∧ cursor = cursor.moveTo rest :=
    ⟨cursor.rest, List.suffix_refl _, (moveTo_rest h).symm⟩
  cases request with
  | next =>
      by_cases hrest : cursor.rest = []
      · rw [perform, next?, if_pos ((isDone_iff cursor).2 hrest)]
        exact hstays
      · rw [perform_next hrest]
        exact ⟨_, (top_advances _ _).rest_suffix, rfl⟩
  | expressions => exact ⟨_, Program.expressions_suffix _ _, rfl⟩
  | results => exact ⟨[], List.nil_suffix, rfl⟩
  | expression => exact ⟨_, (top_advances _ _).rest_suffix, rfl⟩
  | moduleAttribute =>
      exact ⟨_, (moduleAttribute_advances (expression_advances _) _ _).rest_suffix, rfl⟩
  | identified => exact ⟨_, (identified_advances _ _ _).rest_suffix, rfl⟩
  | call => exact ⟨_, (call_advances _ _ _).rest_suffix, rfl⟩
  | delimited => exact ⟨_, (delimited_advances _ _ _).rest_suffix, rfl⟩
  | hashMap => exact ⟨_, (hashMap_advances _ _ _).rest_suffix, rfl⟩
  | advance => exact ⟨_, (Reader.next_advances _ _).rest_suffix, rfl⟩
  | delimiter lexeme => exact ⟨_, (Reader.delimiter_advances lexeme _ _).rest_suffix, rfl⟩
  | takeWhile p => exact ⟨_, (Reader.takeWhile_advances p _ _).rest_suffix, rfl⟩
  | segment => exact ⟨_, (Segment.segment_advances _ _).rest_suffix, rfl⟩
  | row closer => exact ⟨_, (Segment.row_advances closer _ _).rest_suffix, rfl⟩
  | peek offset | peekOptional offset | isDone | last | element run | mapEntry run | tokens =>
      exact hstays

/-- The cursor after some calls. -/
def after (cursor : Cursor) : List Call → Cursor
  | [] => cursor
  | request :: requests => (cursor.perform request).2.after requests

/-- **A whole run.**  Whatever a cursor is asked for, it goes on. -/
theorem onward_after (h : cursor.Within) (requests : List Call) :
    Onward cursor (cursor.after requests) := by
  induction requests generalizing cursor with
  | nil => exact .refl h
  | cons request requests ih =>
      obtain ⟨rest, hrest, hperform⟩ := exists_rest_of_perform h request
      have hstep := onward_moveTo h hrest
      rw [after, hperform]
      exact hstep.trans (ih hstep.within)

/-- An expression that is read moves the cursor ahead. -/
theorem pos_lt_of_expression {a : Answer} (ha : (cursor.perform .expression).1 = .ok a) :
    cursor.pos < (cursor.perform .expression).2.pos := by
  have hadvances := top_advances cursor.last? cursor.rest
  apply pos_lt_moveTo
  cases htop : top cursor.last? cursor.rest with
  | done n rest =>
      rw [htop] at hadvances
      exact hadvances.2
  | fail e rest =>
      rw [perform, run, htop] at ha
      cases ha

/-! ## Reading with recovery -/

/-- Reading with recovery, round by round: an expression is asked for, and where that has failed and
consumed nothing one token is skipped. -/
inductive Recovers : Cursor → List (Except ParseError Node) → Cursor → Prop where
  | done {cursor : Cursor} : cursor.isDone = true → Recovers cursor [] cursor
  | expression {cursor mid later : Cursor} {n : Node} {rs : List (Except ParseError Node)} :
      cursor.isDone = false → cursor.perform .expression = (.ok (.node n), mid) →
      Recovers mid rs later → Recovers cursor (.ok n :: rs) later
  | error {cursor mid later : Cursor} {e : ParseError} {rs : List (Except ParseError Node)} :
      cursor.isDone = false → cursor.perform .expression = (.error e, mid) →
      cursor.pos < mid.pos → Recovers mid rs later → Recovers cursor (.error e :: rs) later
  | skip {cursor later : Cursor} {e : ParseError} {rs : List (Except ParseError Node)} :
      cursor.isDone = false → cursor.perform .expression = (.error e, cursor) →
      Recovers { cursor with pos := cursor.pos + 1 } rs later →
      Recovers cursor (.error e :: rs) later

/-- A cursor is not done while tokens are left before it. -/
theorem isDone_eq_false {t : Token} {us : List Token} (h : cursor.rest = t :: us) :
    cursor.isDone = false := by
  rw [← Bool.not_eq_true, isDone_iff, h]
  exact List.cons_ne_nil t us

/-- Behind the next token the other tokens are left. -/
theorem rest_skip {t : Token} {us : List Token} (h : cursor.rest = t :: us) :
    ({ cursor with pos := cursor.pos + 1 } : Cursor).rest = us := by
  show cursor.tokens.drop (cursor.pos + 1) = us
  rw [← List.drop_drop, ← rest, h]
  rfl

/-- Behind some of the tokens that are left before it, a cursor stands within its tokens, the others
are left, and reading with recovery gives what they are. -/
theorem results_moveTo (h : cursor.Within) {taken us : List Token}
    (hrest : cursor.rest = taken ++ us) :
    (cursor.moveTo us).Within ∧ (cursor.moveTo us).rest = us ∧
      (cursor.moveTo us).results = (Program.results cursor.last? us, cursor.moveTo []) := by
  have hsuffix : us <:+ cursor.rest := hrest ▸ List.suffix_append taken us
  have hus := rest_moveTo (hsuffix.trans cursor.rest_suffix)
  refine ⟨(onward_moveTo h hsuffix).within, hus, ?_⟩
  rw [results, hus]
  rfl

/-- A cursor that is asked for all results that are left goes round by round to the end of its
tokens. -/
theorem recovers_results {cursor : Cursor} (h : cursor.Within) :
    Recovers cursor cursor.results.1 cursor.results.2 := by
  match hrest : cursor.rest with
  | [] =>
      have hstays : cursor.moveTo [] = cursor := hrest ▸ moveTo_rest h
      rw [results, hrest, Program.results_nil, hstays]
      exact .done ((isDone_iff cursor).2 hrest)
  | t :: us =>
      have hopen := isDone_eq_false hrest
      have hperform : cursor.perform .expression =
          ((top cursor.last? (t :: us)).outcome.map .node,
            cursor.moveTo (top cursor.last? (t :: us)).rest) := by
        rw [← hrest]
        rfl
      rw [results, hrest]
      -- each round leaves fewer tokens, so the induction is on what is left
      rcases Program.top_cases cursor.last? t us with ⟨taken, n, rest, hsplit, htop⟩ |
        ⟨taken, e, rest, hsplit, htaken, htop⟩ | ⟨e, htop⟩
      · have hshorter := Program.length_lt_of_append hsplit (Program.ne_nil_of_top htop)
        obtain ⟨hwithin, hleft, hresults⟩ := results_moveTo h (hrest.trans hsplit)
        have ih := recovers_results hwithin
        rw [hresults] at ih
        rw [hsplit, htop] at hperform
        rw [hsplit, Program.results_of_done htop]
        exact .expression hopen hperform ih
      · have hshorter := Program.length_lt_of_append hsplit htaken
        obtain ⟨hwithin, hleft, hresults⟩ := results_moveTo h (hrest.trans hsplit)
        have ih := recovers_results hwithin
        rw [hresults] at ih
        rw [hsplit, htop] at hperform
        rw [hsplit, Program.results_of_fail htop htaken]
        exact .error hopen hperform (pos_lt_moveTo (hrest ▸ hshorter)) ih
      · have hleft := rest_skip hrest
        have hwithin : ({ cursor with pos := cursor.pos + 1 } : Cursor).Within := by
          have hlength := length_rest cursor
          rw [hrest, List.length_cons] at hlength
          show cursor.pos + 1 ≤ cursor.tokens.length
          omega
        have ih := recovers_results hwithin
        rw [results, hleft] at ih
        have hstays : cursor.moveTo (t :: us) = cursor := hrest ▸ moveTo_rest h
        rw [htop] at hperform
        rw [Program.results_of_stuck htop]
        exact .skip hopen (hperform.trans (congrArg _ hstays)) ih
termination_by cursor.rest.length
decreasing_by
  · rw [hleft, hrest]
    exact hshorter
  · rw [hleft, hrest]
    exact hshorter
  · rw [hleft, hrest]
    exact Nat.lt_succ_self us.length

/-! ## Any calls -/

/-- **A cursor goes forward under any calls.**  After any calls in any order, wherever they were made
and whether they succeeded, a cursor is over the significant tokens that it was made for, and stands
within them or at their end.  Whatever it is asked for next, it does not go back.  An expression that
is read moves it ahead.  A token, a run of tokens or a segment that cannot be read leaves it where it
was; and looking at a token, or reading a run of tokens that is given, never moves it.  Reading with
recovery moves it as asking for one expression after the other does, and over one token where that
has failed and consumed nothing. -/
theorem onward_of_calls (tokens : List Token) (requests : List Call) {cursor : Cursor}
    (h : (ofTokens tokens).after requests = cursor) :
    cursor.tokens = Program.significant tokens ∧
    (0 ≤ cursor.pos ∧ cursor.pos ≤ cursor.tokens.length) ∧
    (∀ later, cursor.pos ≤ (cursor.after later).pos) ∧
    (∀ a, (cursor.perform .expression).1 = .ok a →
      cursor.pos < (cursor.perform .expression).2.pos) ∧
    (∀ request, request = .advance ∨ request = .segment ∨ (∃ p, request = .takeWhile p) →
      ∀ e, (cursor.perform request).1 = .error e → (cursor.perform request).2 = cursor) ∧
    (∀ offset run, (cursor.perform (.peek offset)).2 = cursor ∧
      (cursor.perform (.peekOptional offset)).2 = cursor ∧
      (cursor.perform (.element run)).2 = cursor ∧ (cursor.perform (.mapEntry run)).2 = cursor) ∧
    ∃ rs later, cursor.perform .results = (.ok (.results rs), later) ∧ Recovers cursor rs later := by
  have honward : Onward (ofTokens tokens) cursor := h ▸ onward_after (Nat.zero_le _) requests
  have hwithin := honward.within
  refine ⟨honward.tokens_eq, ⟨Nat.zero_le _, hwithin⟩, ?_, ?_, ?_, ?_, ?_⟩
  · intro later
    exact (onward_after hwithin later).pos_le
  · intro a ha
    exact pos_lt_of_expression ha
  · rintro request (rfl | rfl | ⟨p, rfl⟩) e he
    · exact run_of_error Reader.next_failsInPlace hwithin (map_eq_error_iff.1 he)
    · exact run_of_error Segment.segment_failsInPlace hwithin (map_eq_error_iff.1 he)
    · exact run_of_error (Reader.takeWhile_failsInPlace p) hwithin (map_eq_error_iff.1 he)
  · intro offset run
    exact ⟨rfl, rfl, rfl, rfl⟩
  · exact ⟨_, _, rfl, recovers_results hwithin⟩

/-- A list that a brace would close leaves the cursor behind the brace; there an atom is read, which
moves it ahead, and a run of no tokens is refused, which does not. -/
theorem onward_behind_brace :
    ∃ cursor, (ofTokens [⟨.delimiter, "[", ⟨1, 1⟩⟩, ⟨.number, "1", ⟨1, 2⟩⟩,
        ⟨.delimiter, "\x7d", ⟨1, 3⟩⟩, ⟨.atom, ":a", ⟨1, 5⟩⟩]).after [.expression] = cursor ∧
      cursor.pos = 3 ∧
      (∃ a, (cursor.perform .expression).1 = .ok a ∧
        cursor.pos < (cursor.perform .expression).2.pos) ∧
      ∃ e, (cursor.perform (.takeWhile fun _ => false)).1 = .error e ∧
        (cursor.perform (.takeWhile fun _ => false)).2 = cursor := by
  obtain ⟨-, -, -, hahead, hstays, -⟩ := onward_of_calls
    [⟨.delimiter, "[", ⟨1, 1⟩⟩, ⟨.number, "1", ⟨1, 2⟩⟩, ⟨.delimiter, "\x7d", ⟨1, 3⟩⟩,
      ⟨.atom, ":a", ⟨1, 5⟩⟩] [.expression] rfl
  exact ⟨_, rfl, rfl, ⟨_, rfl, hahead _ rfl⟩, _, rfl, hstays _ (.inr (.inr ⟨_, rfl⟩)) _ rfl⟩

end Cursor

end ElixirTerms
