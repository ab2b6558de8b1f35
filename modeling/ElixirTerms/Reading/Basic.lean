/-
# Readings

A reader takes something off the head of a list of tokens.  It answers with what it has read or
with an error, and in both cases with the tokens that are left.  It also knows the last token of
the whole list, which an error names when the tokens run out.
-/
import ElixirTerms.Reading.Error

namespace ElixirTerms

/-- What comes of reading tokens: a value or an error, and the tokens that are left. -/
inductive Reading (α : Type) where
  | done (value : α) (rest : List Token)
  | fail (error : ParseError) (rest : List Token)

namespace Reading

variable {α β : Type}

/-- The tokens that are left. -/
def rest : Reading α → List Token
  | done _ rest | fail _ rest => rest

/-- The value or the error. -/
def outcome : Reading α → Except ParseError α
  | done a _ => .ok a
  | fail e _ => .error e

/-- Change the value. -/
def map (f : α → β) : Reading α → Reading β
  | done a rest => done (f a) rest
  | fail e rest => fail e rest

/-- Build something from the value, which may fail after all the tokens have been taken. -/
def build (f : α → Except ParseError β) : Reading α → Reading β
  | done a rest =>
    match f a with
    | .ok b => done b rest
    | .error e => fail e rest
  | fail e rest => fail e rest

/-- The tokens left are an end of the tokens given, and a value has cost at least one token. -/
def Advances (ts : List Token) : Reading α → Prop
  | done _ rest => rest <:+ ts ∧ rest.length < ts.length
  | fail _ rest => rest <:+ ts

theorem Advances.map {ts : List Token} {r : Reading α} (h : r.Advances ts) (f : α → β) :
    (r.map f).Advances ts := by
  cases r <;> exact h

theorem Advances.build {ts : List Token} {r : Reading α} (h : r.Advances ts)
    (f : α → Except ParseError β) : (r.build f).Advances ts := by
  cases r with
  | fail e rest => exact h
  | done a rest =>
    cases hf : f a with
    | ok b => simp only [Reading.build, hf]; exact h
    | error e => simp only [Reading.build, hf]; exact h.1

/-- Reading on from a later token advances from an earlier one. -/
theorem Advances.of_suffix {ts us : List Token} {r : Reading α} (h : r.Advances us)
    (hus : us <:+ ts) : r.Advances ts := by
  cases r with
  | done a rest => exact ⟨h.1.trans hus, Nat.lt_of_lt_of_le h.2 hus.length_le⟩
  | fail e rest => exact List.IsSuffix.trans h hus

end Reading

/-- A way to read a value off a list of tokens, given the last token of the whole list. -/
abbrev Reader (α : Type) := Option Token → List Token → Reading α

namespace Reader

variable {α : Type}

/-- The reader leaves an end of the tokens, and a value has cost at least one token. -/
def Advances (read : Reader α) : Prop := ∀ last ts, (read last ts).Advances ts

/-! ## Single tokens -/

/-- Take the next token. -/
def next : Reader Token
  | last, [] => .fail (.unexpectedEnd .current last) []
  | _, t :: rest => .done t rest

/-- Take the next token, which has to be a given delimiter. -/
def delimiter (lexeme : Text) : Reader Token
  | last, [] => .fail (.unexpectedEnd .current last) []
  | _, t :: rest =>
    if t.isDelimiter lexeme then .done t rest else .fail (.unrecognized (.delimiter lexeme) t) rest

/-- Take the run of tokens with a property; there has to be at least one. -/
def takeWhile (p : Token → Bool) : Reader (List Token) := fun last ts =>
  match ts.takeWhile p with
  | [] => .fail (.emptyScan (ts.head?.or last)) ts
  | taken => .done taken (ts.dropWhile p)

end Reader

end ElixirTerms
