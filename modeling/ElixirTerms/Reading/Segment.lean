/-
# Segments

The contents of brackets are first cut into segments, the runs of tokens between commas, and only
then read.  A counter of open brackets, which does not tell their kinds apart, decides which commas
and which closing brackets belong to the segment itself.
-/
import ElixirTerms.Reading.Basic

namespace ElixirTerms

namespace Token

/-- An opening bracket. -/
def isOpener (t : Token) : Bool :=
  t.kind = .delimiter ∧ (t.lexeme = ['('] ∨ t.lexeme = ['['] ∨ t.lexeme = ['\x7b'])

/-- A closing bracket. -/
def isCloser (t : Token) : Bool :=
  t.kind = .delimiter ∧ (t.lexeme = [')'] ∨ t.lexeme = [']'] ∨ t.lexeme = ['\x7d'])

end Token

namespace Segment

/-- The number of open brackets after a token, or nothing if the token ends the segment: a comma
or a closing bracket while no bracket is open. -/
def depthAfter (depth : Nat) (t : Token) : Option Nat :=
  if t.isOpener then some (depth + 1)
  else if t.isCloser then if depth = 0 then none else some (depth - 1)
  else if t.kind = .comma ∧ depth = 0 then none
  else some depth

/-- The segment at the head of a list of tokens, and the tokens after it. -/
def cut : Nat → List Token → List Token × List Token
  | _, [] => ([], [])
  | depth, t :: ts =>
    match depthAfter depth t with
    | none => ([], t :: ts)
    | some depth' =>
      let (segment, rest) := cut depth' ts
      (t :: segment, rest)

/-- A segment and the tokens after it are the tokens it was cut from. -/
theorem cut_append (depth : Nat) (ts : List Token) :
    (cut depth ts).1 ++ (cut depth ts).2 = ts := by
  induction ts generalizing depth with
  | nil => rfl
  | cons t ts ih =>
    unfold cut
    split
    · rfl
    · rename_i depth' _
      simp [ih depth']

/-- Read one segment, which has to hold a token. -/
def segment : Reader (List Token) := fun last ts =>
  match cut 0 ts with
  | ([], rest) => .fail (.emptyScan (rest.head?.or last)) rest
  | (taken, rest) => .done taken rest

theorem segment_advances : Reader.Advances segment := by
  intro last ts
  have happ := cut_append 0 ts
  unfold segment
  split
  · rename_i rest hcut
    rw [hcut] at happ
    exact ⟨[], happ⟩
  · rename_i taken rest hne hcut
    simp only [hcut] at happ
    refine ⟨⟨taken, happ⟩, ?_⟩
    have := List.length_pos_iff.2 hne
    rw [← happ, List.length_append]
    omega

/-- Read on in a row of segments separated by commas, up to and including a closing delimiter,
with `depth` brackets open in the segment of which `taken` has been read. -/
def rowFrom (closer : Text) (last : Option Token) :
    (depth : Nat) → (taken : List Token) → List Token → Reading (List (List Token))
  | _, taken, [] =>
    .fail (if taken = [] then .emptyScan last else .unexpectedEnd .current last) []
  | depth, taken, t :: rest =>
    match depthAfter depth t with
    | some depth' => rowFrom closer last depth' (taken ++ [t]) rest
    | none =>
      if taken = [] then .fail (.emptyScan t) (t :: rest)
      else if t.kind = .comma then (rowFrom closer last 0 [] rest).map (taken :: ·)
      else if t.isDelimiter closer then .done [taken] rest
      else .fail (.unrecognized (.separator closer) t) rest

/-- Read the contents of brackets: nothing or a row of segments, and the closing delimiter. -/
def row (closer : Text) : Reader (List (List Token))
  | last, [] => .fail (.unexpectedEnd .next last) []
  | last, t :: rest =>
    if t.isDelimiter closer then .done [] rest else rowFrom closer last 0 [] (t :: rest)

theorem rowFrom_advances (closer : Text) (last : Option Token) (depth : Nat)
    (taken ts : List Token) : (rowFrom closer last depth taken ts).Advances ts := by
  induction ts generalizing depth taken with
  | nil => exact List.nil_suffix
  | cons t rest ih =>
    have hrest := List.suffix_cons t rest
    unfold rowFrom
    split
    · exact (ih _ _).of_suffix hrest
    split
    · exact List.suffix_refl _
    split
    · exact ((ih _ _).of_suffix hrest).map _
    split
    · exact ⟨hrest, Nat.lt_succ_self _⟩
    · exact hrest

theorem row_advances (closer : Text) : Reader.Advances (row closer) := by
  intro last ts
  unfold row
  split
  · exact List.nil_suffix
  · split
    · exact ⟨List.suffix_cons _ _, Nat.lt_succ_self _⟩
    · exact rowFrom_advances closer last 0 [] _

/-! ## Looking outside the brackets -/

/-- The number of open brackets after a token; more may be closed than were opened. -/
def balanceAfter (depth : Int) (t : Token) : Int :=
  if t.isOpener then depth + 1 else if t.isCloser then depth - 1 else depth

/-- The index of the first token with a property, among the tokens that are no delimiters and
stand where as many brackets have been closed as opened. -/
def topLevelIndex? (p : Token → Bool) : Int → List Token → Option Nat
  | _, [] => none
  | depth, t :: ts =>
    if t.kind ≠ .delimiter ∧ depth = 0 ∧ p t then some 0
    else (topLevelIndex? p (balanceAfter depth t) ts).map (· + 1)

end Segment

end ElixirTerms
