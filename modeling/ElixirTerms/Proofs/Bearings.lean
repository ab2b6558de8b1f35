/-
# Scanners keep their bearings

A scanner may be asked for anything at any place, also where no token starts and beyond the end of
its text.  All that it does is made of three moves: it passes a character, it marks the place where
it stands, or it is done with its text (`moves_perform`).  Each of them keeps its account of where
it stands and of where the mark is (`Moves.bearings`), so any calls in any order do.
-/
import ElixirTerms.Proofs.Draining

namespace ElixirTerms

/-! ## Places in a text -/

namespace Text

/-- The place behind some number of characters of a text: a line for each newline among them, and a
column for each character after the last newline.  Beyond the end of the text the columns go on. -/
def positionAt (text : Text) (i : Nat) : Position :=
  ⟨1 + (text.take i).count '\n', 1 + i - lineStart (text.take i)⟩

/-- A text begins at the start. -/
theorem positionAt_zero (text : Text) : text.positionAt 0 = .start := rfl

/-- A character of the text moves the place by that character. -/
theorem positionAt_succ {text : Text} {i : Nat} {c : Char} (h : text[i]? = some c) :
    text.positionAt (i + 1) = (text.positionAt i).next c := by
  have htake : text.take (i + 1) = text.take i ++ [c] := by
    rw [List.take_add_one, h]
    rfl
  have hlength : (text.take i).length = i := by
    obtain ⟨hlt, -⟩ := List.getElem?_eq_some_iff.1 h
    rw [List.length_take]
    omega
  unfold positionAt Position.next
  rw [htake]
  by_cases hc : c = '\n'
  · subst hc
    rw [if_pos rfl, lineStart_concat_newline, hlength, List.count_append,
      List.count_singleton_self, Position.mk.injEq]
    dsimp only
    omega
  · have hcount : [c].count '\n' = 0 := List.count_eq_zero.2 (by simpa using Ne.symm hc)
    rw [if_neg hc, lineStart_concat hc, List.count_append, hcount, Position.mk.injEq]
    dsimp only
    omega

/-- Beyond the end of the text the place moves by a column. -/
theorem positionAt_succ_of_none {text : Text} {i : Nat} (h : text[i]? = none) :
    text.positionAt (i + 1) =
      ⟨(text.positionAt i).line, (text.positionAt i).column + 1⟩ := by
  have hlength : text.length ≤ i := List.getElem?_eq_none_iff.1 h
  unfold positionAt
  rw [List.take_of_length_le hlength, List.take_of_length_le (Nat.le_succ_of_le hlength),
    Position.mk.injEq]
  dsimp only
  omega

end Text

namespace Scanner

/-! ## Bearings -/

/-- A scanner over a text has its bearings: it stands where it says, it knows the line and the
column of this place, and the mark, which is not ahead of it, with its line and column. -/
structure Bearings (text : Text) (sc : Scanner) : Prop where
  text_eq : sc.text = text
  consistent : sc.Consistent
  position_eq : sc.position = text.positionAt sc.pos
  start_le : sc.start ≤ sc.pos
  startPosition_eq : sc.startPosition = text.positionAt sc.start

variable {text : Text} {sc later : Scanner}

/-- A scanner at the start of a text has its bearings. -/
theorem bearings_ofText (text : Text) : (ofText text).Bearings text :=
  ⟨rfl, rfl, rfl, Nat.le_refl 0, rfl⟩

/-- The next character of a scanner is the one at its place in the text, if there is one. -/
theorem Bearings.current?_eq (h : sc.Bearings text) : sc.current? = text[sc.pos]? := by
  rw [current?, ← h.consistent, h.text_eq, List.head?_drop]

/-- A scanner makes the token that lies between the mark and its place. -/
theorem Bearings.token_eq (h : sc.Bearings text) (kind : Token.Kind) :
    sc.token kind = ⟨kind, text.slice sc.start sc.pos, text.positionAt sc.start⟩ := by
  rw [token, h.text_eq, h.startPosition_eq]

/-! ## Three moves -/

/-- The scanner is done with its text. -/
def finish (sc : Scanner) : Scanner := { sc with finished := true }

/-- The second scanner comes of the first by moves: passing a character, marking a place, and being
done. -/
inductive Moves : Scanner → Scanner → Prop where
  | none (sc : Scanner) : Moves sc sc
  | advance {sc later : Scanner} : Moves sc.advance later → Moves sc later
  | mark {sc later : Scanner} : Moves sc.mark later → Moves sc later
  | finish {sc later : Scanner} : Moves sc.finish later → Moves sc later

/-- Passing a character keeps the bearings, also beyond the end of the text. -/
theorem Bearings.advance (h : sc.Bearings text) : sc.advance.Bearings text := by
  have hcurrent := h.current?_eq
  refine ⟨by rw [advance_text, h.text_eq], consistent_advanceBy h.consistent 1, ?_, ?_, ?_⟩
  · rw [advance_pos]
    unfold Scanner.advance
    split
    · rename_i c s hrest
      rw [current?, hrest] at hcurrent
      rw [Text.positionAt_succ hcurrent.symm, ← h.position_eq]
    · rename_i hrest
      rw [current?, hrest] at hcurrent
      rw [Text.positionAt_succ_of_none hcurrent.symm, ← h.position_eq]
  · rw [advance_start, advance_pos]
    exact Nat.le_succ_of_le h.start_le
  · rw [advance_start, advance_startPosition, h.startPosition_eq]

/-- Marking a place keeps the bearings. -/
theorem Bearings.mark (h : sc.Bearings text) : sc.mark.Bearings text :=
  ⟨h.text_eq, h.consistent, h.position_eq, Nat.le_refl _, h.position_eq⟩

/-- Being done keeps the bearings. -/
theorem Bearings.finish (h : sc.Bearings text) : sc.finish.Bearings text :=
  ⟨h.text_eq, h.consistent, h.position_eq, h.start_le, h.startPosition_eq⟩

/-- **Moves keep the bearings.** -/
theorem Moves.bearings (h : Moves sc later) (hsc : sc.Bearings text) : later.Bearings text := by
  induction h with
  | none sc => exact hsc
  | advance _ ih => exact ih hsc.advance
  | mark _ ih => exact ih hsc.mark
  | finish _ ih => exact ih hsc.finish

/-- Moves go forward, and a scanner that is done stays so. -/
theorem Moves.onward (h : Moves sc later) :
    sc.pos ≤ later.pos ∧ (sc.finished = true → later.finished = true) := by
  induction h with
  | none sc => exact ⟨Nat.le_refl _, id⟩
  | @advance sc later _ ih =>
      rw [advance_pos, advance_finished] at ih
      exact ⟨by omega, ih.2⟩
  | mark _ ih => exact ih
  | finish _ ih => exact ⟨ih.1, fun _ => ih.2 rfl⟩

/-- Moves can be made one after the other. -/
theorem Moves.trans {mid : Scanner} (h : Moves sc mid) (h' : Moves mid later) :
    Moves sc later := by
  induction h with
  | none sc => exact h'
  | advance _ ih => exact .advance (ih h')
  | mark _ ih => exact .mark (ih h')
  | finish _ ih => exact .finish (ih h')

/-! ## Calls -/

/-- A scanner that has come of another by moves makes one more of them. -/
theorem invariant_moves (sc : Scanner) : Invariant (Moves sc) where
  advance later h := h.trans (.advance (.none later.advance))
  mark later h := h.trans (.mark (.none later.mark))
  finish later _ h := h.trans (.finish (.none later.finish))

/-- **One step.**  All that a scanner does when it is asked for anything is made of moves. -/
theorem moves_perform (sc : Scanner) (call : Call) : Moves sc (sc.perform call).2 :=
  (invariant_moves sc).perform (.none sc) call

/-- **A whole run.**  All that a scanner does is made of moves. -/
theorem moves_after (sc : Scanner) (calls : List Call) : Moves sc (sc.after calls) :=
  (invariant_moves sc).after (.none sc) calls

/-- Asking for one token after the other is made of moves. -/
theorem moves_polls (n : Nat) (sc : Scanner) : Moves sc (sc.after (List.replicate n .poll)) :=
  moves_after sc _

/-- The next token lies between the mark and the place of the scanner after it. -/
theorem token_of_next? {t : Token} (h : sc.next? = (some t, later)) : t = later.token t.kind := by
  unfold next? at h
  split at h
  · cases h
  · dsimp only at h
    split at h
    · cases h
      rfl
    · cases h
      rfl

/-- Draining is asking for one token after the other, until there are no more. -/
theorem exists_polls_drain (sc : Scanner) :
    ∃ n, sc.drain =
      (sc.handedOut (List.replicate n .poll), sc.after (List.replicate n .poll)) := by
  cases hopen : sc.finished with
  | true => exact ⟨0, drain_of_finished hopen⟩
  | false =>
      obtain ⟨t, later, hnext⟩ := exists_next? hopen
      have hshorter := fuel_next?_lt hnext
      obtain ⟨n, hdrain⟩ := exists_polls_drain later
      have hpoll : sc.perform .poll = (.token t, later) := by
        rw [perform, hnext]
        rfl
      refine ⟨n + 1, ?_⟩
      rw [drain_of_next? hnext, hdrain, List.replicate_succ, handedOut_cons, after, hpoll]
      rfl
termination_by sc.fuel

/-! ## Tokens -/

/-- A token that a scanner answers with lies between the mark and the place of the scanner after
it. -/
theorem token_of_perform {call : Call} {t : Token} (h : (sc.perform call).1 = .token t) :
    t = (sc.perform call).2.token t.kind := by
  cases call with
  | next =>
      rw [perform] at h ⊢
      split at h
      · rename_i u after hnext
        cases h
        exact token_of_next? hnext
      · cases h
  | poll =>
      rcases hnext : sc.next? with ⟨_ | u, after⟩
      · rw [perform, hnext] at h
        cases h
      · rw [perform, hnext] at h ⊢
        cases h
        exact token_of_next? hnext
  | drain | advance | isDone | mark | consumeWhile p => cases h
  | peek offset =>
      rw [perform] at h
      cases hcell : sc.peek offset <;> rw [hcell] at h <;> cases h
  | token kind | comment | codepoint | word =>
      cases h
      rfl
  | quoted quote kind | heredoc quote kind =>
      -- a quote of one character and any other are read in different ways, both by passing
      rcases quote with _ | ⟨q, _ | ⟨q', quote⟩⟩ <;> cases h <;> rfl
  | atom =>
      rw [perform, atom?] at h ⊢
      split at h
      · cases h
        rfl
      · cases h

/-- Each token that is handed out when a scanner is asked for one after the other lies between the
mark and the place of the scanner after some of these calls. -/
theorem token_of_mem_polls {n : Nat} {t : Token}
    (ht : t ∈ sc.handedOut (List.replicate n .poll)) :
    ∃ m ≤ n, t = (sc.after (List.replicate m .poll)).token t.kind := by
  induction n generalizing sc with
  | zero => cases ht
  | succ n ih =>
      rw [List.replicate_succ, handedOut_cons, List.mem_append] at ht
      rcases ht with ht | ht
      · refine ⟨1, by omega, ?_⟩
        show t = (sc.perform .poll).2.token t.kind
        apply token_of_perform
        rcases hnext : sc.next? with ⟨_ | u, later⟩
        · rw [perform, hnext] at ht
          cases ht
        · rw [perform, hnext] at ht ⊢
          rw [List.mem_singleton.1 ht]
          rfl
      · obtain ⟨m, hm, htoken⟩ := ih ht
        exact ⟨m + 1, by omega, htoken⟩

/-! ## Any calls -/

/-- **A scanner keeps its bearings under any calls.**  After any calls in any order, wherever they
were made, the next character of a scanner is the one at its place in the text, if there is one; it
stands on a line for every newline behind it, besides the first line, and in a column for every
character behind the last newline, besides the first column; and the mark is not ahead of it and
bears its own line and column.  Whatever calls come next, it does not go back, and it stays finished
once it is.  A token that it answers a call with is the text from the mark up to its place, and
stands where the mark is; all tokens that are left are what it answers with, call by call, when it is
asked for one after the other. -/
theorem bearings_of_calls (text : Text) (calls : List Call) {sc : Scanner}
    (h : (ofText text).after calls = sc) :
    sc.current? = text[sc.pos]? ∧
    sc.position = text.positionAt sc.pos ∧
    (sc.start ≤ sc.pos ∧ sc.startPosition = text.positionAt sc.start) ∧
    (∀ later, sc.pos ≤ (sc.after later).pos ∧
      (sc.finished = true → (sc.after later).finished = true)) ∧
    (∀ call t, (sc.perform call).1 = .token t →
      t.lexeme = text.slice (sc.perform call).2.start (sc.perform call).2.pos ∧
        t.position = text.positionAt (sc.perform call).2.start) ∧
    ∃ n, sc.perform .drain =
        (.tokens (sc.handedOut (List.replicate n .poll)), sc.after (List.replicate n .poll)) ∧
      ∀ t ∈ sc.handedOut (List.replicate n .poll), ∃ m ≤ n,
        t.lexeme = text.slice (sc.after (List.replicate m .poll)).start
          (sc.after (List.replicate m .poll)).pos ∧
        t.position = text.positionAt (sc.after (List.replicate m .poll)).start := by
  have hsc : sc.Bearings text := h ▸ (moves_after _ calls).bearings (bearings_ofText text)
  refine ⟨hsc.current?_eq, hsc.position_eq, ⟨hsc.start_le, hsc.startPosition_eq⟩, ?_, ?_, ?_⟩
  · intro later
    exact (moves_after sc later).onward
  · intro call t hanswer
    have hafter := (moves_perform sc call).bearings hsc
    rw [token_of_perform hanswer, hafter.token_eq]
    exact ⟨rfl, rfl⟩
  · obtain ⟨n, hdrain⟩ := exists_polls_drain sc
    refine ⟨n, by rw [perform, hdrain]; rfl, ?_⟩
    intro t ht
    obtain ⟨m, hm, htoken⟩ := token_of_mem_polls ht
    have hafter := (moves_polls m sc).bearings hsc
    refine ⟨m, hm, ?_⟩
    rw [htoken, hafter.token_eq]
    exact ⟨rfl, rfl⟩

/-- A scanner that has come to the end of a quote that nothing closes, has passed two characters more
and has marked the place between them stands in the third column behind the newline, and makes a
token of nothing in the second; and one that has been drained in the middle of this text stays
finished. -/
theorem bearings_beyond_text :
    (∃ sc, (ofText "\"\n").after [.quoted ['"'] .string, .advance, .mark, .advance] = sc ∧
      sc.current? = none ∧ sc.position = ⟨2, 3⟩ ∧
      (sc.perform (.token .illegal)).1 = .token ⟨.illegal, [], ⟨2, 2⟩⟩ ∧
      (⟨2, 2⟩ : Position) = Text.positionAt "\"\n" (sc.perform (.token .illegal)).2.start) ∧
    ∃ sc, (ofText "\"\n").after [.advance, .drain] = sc ∧ sc.finished = true ∧
      (sc.after [.mark, .advance, .drain]).finished = true := by
  refine ⟨⟨_, rfl, ?_⟩, _, rfl, ?_⟩
  · obtain ⟨hcurrent, hposition, -, -, htoken, -⟩ := bearings_of_calls "\"\n"
      [.quoted ['"'] .string, .advance, .mark, .advance] rfl
    exact ⟨hcurrent, hposition, rfl, (htoken (.token .illegal) _ rfl).2⟩
  · have hfinished : ((ofText "\"\n").after [.advance, .drain]).finished = true := finished_drain _
    obtain ⟨-, -, -, honward, -⟩ := bearings_of_calls "\"\n" [.advance, .drain] rfl
    exact ⟨hfinished, (honward _).2 hfinished⟩

end Scanner

end ElixirTerms
