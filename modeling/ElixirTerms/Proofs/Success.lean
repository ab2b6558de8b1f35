/-
# What success says of its steps

A reading that is made of others succeeds only if these do, one after the other.  The lemmas here
take a success apart into the successes of its steps; what a failing step would have answered is
never looked at.
-/
import ElixirTerms.Reading.Basic

namespace ElixirTerms

variable {α β : Type}

/-! ## Answers -/

/-- An answer that was changed was one before. -/
theorem map_eq_ok_iff {f : α → β} {answer : Except ParseError α} {b : β} :
    answer.map f = .ok b ↔ ∃ a, answer = .ok a ∧ f a = b := by
  cases answer <;> simp [Except.map]

/-- Of two steps that give an answer the first gives one to the second. -/
theorem bind_eq_ok_iff {f : α → Except ParseError β} {answer : Except ParseError α} {b : β} :
    (answer >>= f) = .ok b ↔ ∃ a, answer = .ok a ∧ f a = .ok b := by
  cases answer <;> simp [bind, Except.bind]

/-- The answer of a single step is its value. -/
theorem pure_eq_ok_iff {a b : α} : (pure a : Except ParseError α) = .ok b ↔ a = b := by
  simp [pure, Except.pure]

/-! ## Readings -/

namespace Reading

/-- A value that was changed was read before. -/
theorem map_eq_done_iff {f : α → β} {r : Reading α} {b : β} {rest : List Token} :
    r.map f = .done b rest ↔ ∃ a, r = .done a rest ∧ f a = b := by
  cases r with
  | done a us =>
      simp only [map, done.injEq]
      constructor
      · rintro ⟨hb, hrest⟩
        exact ⟨a, ⟨rfl, hrest⟩, hb⟩
      · rintro ⟨_, ⟨rfl, hrest⟩, hb⟩
        exact ⟨hb, hrest⟩
  | fail e us => simp [map]

/-- What was built from a value was built after the value had been read. -/
theorem build_eq_done_iff {f : α → Except ParseError β} {r : Reading α} {b : β}
    {rest : List Token} : r.build f = .done b rest ↔ ∃ a, r = .done a rest ∧ f a = .ok b := by
  cases r with
  | done a us =>
      cases hf : f a with
      | ok b' =>
          simp only [build, hf, done.injEq]
          constructor
          · rintro ⟨rfl, rfl⟩
            exact ⟨a, ⟨rfl, rfl⟩, hf⟩
          · rintro ⟨_, ⟨rfl, rfl⟩, hb⟩
            rw [hf] at hb
            exact ⟨Except.ok.inj hb, rfl⟩
      | error e =>
          simp only [build, hf, reduceCtorEq, done.injEq, false_iff]
          rintro ⟨_, ⟨rfl, rfl⟩, hb⟩
          rw [hf] at hb
          cases hb
  | fail e us => simp [build]

/-- A reading with an answer has read it. -/
theorem outcome_eq_ok_iff {r : Reading α} {a : α} :
    r.outcome = .ok a ↔ ∃ rest, r = .done a rest := by
  cases r <;> simp [outcome]

end Reading

end ElixirTerms
