/-
# Splitting is the inverse of joining

A cursor that is asked for the contents of brackets hands out segments and stands behind a closing
bracket if and only if the tokens up to there are these segments, joined by commas, and that bracket
(`row_iff_closes`).  So there is at most one way to split what is left; and where there is none, the
scan fails.
-/
import ElixirTerms.Proofs.Grammar.Balance
import ElixirTerms.Proofs.Grammar.Rows
import ElixirTerms.Proofs.Recovery.FirstError

namespace ElixirTerms

open Grammar Segment

/-! ## How a scan fails -/

namespace Segment

/-- The errors of a scan for segments: the tokens run out, a token stands where it cannot, or a
segment is empty. -/
inductive ScanError : ParseError → Prop where
  | unexpectedEnd (missing : ParseError.Missing) (last : Option Token) :
      ScanError (.unexpectedEnd missing last)
  | unrecognized (expected : ParseError.Expected) (t : Token) :
      ScanError (.unrecognized expected t)
  | emptyScan (t : Option Token) : ScanError (.emptyScan t)

variable {closer : Text} {last : Option Token} {ts rest : List Token} {e : ParseError}

/-- **One token after the other.**  A row that is not read to its end from within a segment fails
with an error of a scan. -/
theorem scanError_of_rowFrom {depth : Nat} {taken : List Token}
    (h : rowFrom closer last depth taken ts = .fail e rest) : ScanError e := by
  induction ts generalizing depth taken with
  | nil =>
      rw [rowFrom] at h
      cases h
      split
      · exact .emptyScan last
      · exact .unexpectedEnd .current last
  | cons t ts ih =>
      rw [rowFrom] at h
      split at h
      · exact ih h
      · split_ifs at h
        · cases h
          exact .emptyScan t
        · -- behind a comma the row goes on, and its error is that of what follows
          cases hlater : rowFrom closer last 0 [] ts with
          | done segments us =>
              rw [hlater] at h
              cases h
          | fail e' us =>
              rw [hlater] at h
              cases h
              exact ih hlater
        · cases h
          exact .unrecognized _ t

/-- The contents of brackets that are not read fail with an error of a scan. -/
theorem scanError_of_row (h : row closer last ts = .fail e rest) : ScanError e := by
  cases ts with
  | nil =>
      cases h
      exact .unexpectedEnd .next last
  | cons t ts =>
      rw [row] at h
      split_ifs at h
      exact scanError_of_rowFrom h

end Segment

/-! ## Splits -/

namespace Cursor

variable {cursor : Cursor} {closer : Text} {segments : List (List Token)} {place : Nat}

/-- The tokens from a cursor up to a place. -/
def upTo (cursor : Cursor) (place : Nat) : List Token := cursor.rest.take (place - cursor.pos)

/-- The tokens from a cursor up to a place are some segments that commas join, and behind them a
closing delimiter.  No segment is empty, and each has as many closing brackets as opening ones, at
no point more of them, and no comma where it has as many. -/
structure Closes (cursor : Cursor) (closer : Text) (segments : List (List Token)) (place : Nat) :
    Prop where
  place_le : place ≤ cursor.tokens.length
  joined : ∃ ts closing, cursor.upTo place = ts ++ [closing] ∧ CommaJoined segments ts ∧
    closing.isDelimiter closer = true
  balanced : ∀ segment ∈ segments, segment ≠ [] ∧ Balanced segment

/-- The tokens that are left are those up to a place and those behind it. -/
theorem upTo_append_drop (h : cursor.pos ≤ place) :
    cursor.upTo place ++ cursor.tokens.drop place = cursor.rest := by
  have hdrop : cursor.tokens.drop place = cursor.rest.drop (place - cursor.pos) := by
    rw [rest, List.drop_drop, Nat.add_sub_cancel' h]
  rw [hdrop, upTo, List.take_append_drop]

/-- A place up to which there is a token lies behind the cursor. -/
theorem pos_le_of_upTo_ne_nil (h : cursor.upTo place ≠ []) : cursor.pos ≤ place := by
  by_contra hlt
  have hzero : place - cursor.pos = 0 := by omega
  rw [upTo, hzero] at h
  exact h rfl

/-- What is read from a split: its segments, with the tokens behind its place left. -/
theorem Closes.row_eq (h : cursor.Closes closer segments place) (hclosing : IsClosing closer) :
    row closer cursor.last? cursor.rest = .done segments (cursor.tokens.drop place) := by
  obtain ⟨ts, closing, hsplit, hjoined, hc⟩ := h.joined
  have hle : cursor.pos ≤ place := pos_le_of_upTo_ne_nil (by rw [hsplit]; simp)
  have hrest : cursor.rest = ts ++ closing :: cursor.tokens.drop place := by
    rw [← upTo_append_drop hle, hsplit, List.append_assoc]
    rfl
  rw [hrest]
  refine row_of_commaJoined hc hclosing hjoined ?_ _ _
  intro segment hsegment
  obtain ⟨hne, hbalanced⟩ := h.balanced segment hsegment
  exact ⟨hne, (closed_iff_balanced segment).2 hbalanced⟩

/-- What is read is a split, up to the place where the cursor then stands. -/
theorem closes_of_row {us : List Token}
    (h : row closer cursor.last? cursor.rest = .done segments us) :
    cursor.Closes closer segments (cursor.moveTo us).pos := by
  obtain ⟨ts, closing, hrest, hc, hjoined, hclosed⟩ := commaJoined_of_row h
  have hlength := congrArg List.length hrest
  rw [rest, List.length_drop, List.length_append, List.length_cons] at hlength
  refine ⟨Nat.sub_le _ _, ⟨ts, closing, ?_, hjoined, hc⟩, ?_⟩
  · have hcount : (cursor.moveTo us).pos - cursor.pos = (ts ++ [closing]).length := by
      rw [List.length_append, List.length_singleton]
      show cursor.tokens.length - us.length - cursor.pos = ts.length + 1
      omega
    have hsplit : cursor.rest = (ts ++ [closing]) ++ us := by
      rw [hrest, List.append_assoc]
      rfl
    rw [upTo, hcount, hsplit, List.take_left]
  · intro segment hsegment
    obtain ⟨hne, hclosed⟩ := hclosed segment hsegment
    exact ⟨hne, (closed_iff_balanced segment).1 hclosed⟩

/-- A cursor that is asked for the contents of brackets reads them and moves behind them. -/
theorem perform_row (cursor : Cursor) (closer : Text) :
    cursor.perform (.row closer) =
      ((row closer cursor.last? cursor.rest).outcome.map .segments,
        cursor.moveTo (row closer cursor.last? cursor.rest).rest) := rfl

/-- A cursor hands out segments and moves to a place if and only if these split the tokens up to
there. -/
theorem perform_row_eq_ok_iff (hclosing : IsClosing closer) :
    cursor.perform (.row closer) = (.ok (.segments segments), { cursor with pos := place }) ↔
      cursor.Closes closer segments place := by
  constructor
  · intro h
    rw [perform_row] at h
    cases hrow : row closer cursor.last? cursor.rest with
    | fail e us =>
        rw [hrow] at h
        cases h
    | done segments' us =>
        rw [hrow, Prod.mk.injEq] at h
        obtain ⟨hanswer, hmoved⟩ := h
        cases hanswer
        have hplace : (cursor.moveTo us).pos = place := congrArg pos hmoved
        exact hplace ▸ closes_of_row hrow
  · intro h
    have hplace : cursor.moveTo (cursor.tokens.drop place) = { cursor with pos := place } := by
      rw [moveTo, List.length_drop, Nat.sub_sub_self h.place_le]
    rw [perform_row, h.row_eq hclosing]
    exact congrArg (Prod.mk _) hplace

/-- There is at most one way to split the tokens that are left. -/
theorem Closes.unique {segments' : List (List Token)} {place' : Nat}
    (h : cursor.Closes closer segments place) (h' : cursor.Closes closer segments' place')
    (hclosing : IsClosing closer) : segments = segments' ∧ place = place' := by
  have hrow := (perform_row_eq_ok_iff hclosing).2 h
  rw [(perform_row_eq_ok_iff hclosing).2 h', Prod.mk.injEq] at hrow
  obtain ⟨hanswer, hmoved⟩ := hrow
  cases hanswer
  exact ⟨rfl, (congrArg pos hmoved).symm⟩

/-- **Splitting is the inverse of joining.**  Wherever a cursor stands and whatever is left before
it, it hands out segments for a closing bracket and moves to a place if and only if the tokens up to
there are these segments, joined by commas, and the bracket; no segment is empty, and each is
balanced.  There is at most one such split.  Where there is none, the scan fails. -/
theorem row_iff_closes (cursor : Cursor) {closer : Text} (hclosing : IsClosing closer) :
    (∀ segments place,
      cursor.perform (.row closer) = (.ok (.segments segments), { cursor with pos := place }) ↔
        cursor.Closes closer segments place) ∧
    (∀ segments segments' place place', cursor.Closes closer segments place →
      cursor.Closes closer segments' place' → segments = segments' ∧ place = place') ∧
    ((¬ ∃ segments place, cursor.Closes closer segments place) →
      ∃ e later, cursor.perform (.row closer) = (.error e, later) ∧ ScanError e) := by
  refine ⟨fun segments place => perform_row_eq_ok_iff hclosing,
    fun segments segments' place place' h h' => h.unique h' hclosing, fun hnone => ?_⟩
  rw [perform_row]
  cases hrow : row closer cursor.last? cursor.rest with
  | done segments us => exact absurd ⟨segments, _, closes_of_row hrow⟩ hnone
  | fail e us => exact ⟨e, _, rfl, scanError_of_row hrow⟩

/-- Behind the bracket of a list, three segments are handed out, the second of which ends in a
bracket of another kind than it starts with, and the cursor stands behind the list. -/
theorem row_iff_closes_in_list :
    ∃ tokens segments, tokens = Program.significant (Token.lex "[1, \x7b2, 3], 4] :b") ∧
      segments.map List.length = [1, 5, 1] ∧ IsClosing [']'] ∧
      (⟨tokens, 1⟩ : Cursor).Closes [']'] segments 11 ∧
      (⟨tokens, 1⟩ : Cursor).perform (.row [']']) = (.ok (.segments segments), ⟨tokens, 11⟩) := by
  have hclosing : IsClosing [']'] := .inr (.inl rfl)
  have hcloses : (⟨Program.significant (Token.lex "[1, \x7b2, 3], 4] :b"), 1⟩ : Cursor).Closes [']']
      [[⟨.number, "1", ⟨1, 2⟩⟩],
        [⟨.delimiter, "\x7b", ⟨1, 5⟩⟩, ⟨.number, "2", ⟨1, 6⟩⟩, ⟨.comma, ",", ⟨1, 7⟩⟩,
          ⟨.number, "3", ⟨1, 9⟩⟩, ⟨.delimiter, "]", ⟨1, 10⟩⟩],
        [⟨.number, "4", ⟨1, 13⟩⟩]] 11 := by
    refine ⟨by cbv, ?_, ?_⟩
    · refine ⟨_, ⟨.delimiter, "]", ⟨1, 14⟩⟩, ?_, @CommaJoined.more _ _ ⟨.comma, ",", ⟨1, 3⟩⟩ _ rfl
        (by simp) (@CommaJoined.more _ _ ⟨.comma, ",", ⟨1, 11⟩⟩ _ rfl (by simp) (.one _)),
        by decide⟩
      cbv
    · simp only [← closed_iff_balanced, Closed]
      decide
  exact ⟨_, _, rfl, rfl, hclosing, hcloses, ((row_iff_closes _ hclosing).1 _ _).2 hcloses⟩

end Cursor

end ElixirTerms
