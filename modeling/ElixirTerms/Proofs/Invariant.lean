/-
# What a scanner keeps

All that a scanner does is made of three moves: it passes a character, it marks the place where it
stands, or it is done where nothing is left.  A property that each of them keeps is kept whatever
the scanner is asked for (`Invariant.perform`).
-/
import ElixirTerms.Proofs.Lossless
import ElixirTerms.Scanner.Call

namespace ElixirTerms.Scanner

/-- A property of scanners that each of the three moves keeps. -/
structure Invariant (p : Scanner → Prop) : Prop where
  advance : ∀ sc : Scanner, p sc → p sc.advance
  mark : ∀ sc : Scanner, p sc → p sc.mark
  finish : ∀ sc : Scanner, sc.rest = [] → p sc → p { sc with finished := true }

namespace Invariant

variable {p : Scanner → Prop} {sc : Scanner}

/-- Passing a number of characters keeps what passing one keeps. -/
theorem advanceBy (h : Invariant p) (hsc : p sc) (n : Nat) : p (Scanner.advanceBy n sc) := by
  induction n generalizing sc with
  | zero => exact hsc
  | succ n ih => exact ih (h.advance sc hsc)

/-- Handing out the next token marks its place, and passes it or is done. -/
theorem next? (h : Invariant p) (hsc : p sc) : p sc.next?.2 := by
  have hmarked := h.mark sc hsc
  unfold Scanner.next?
  split
  · exact hsc
  · dsimp only
    split
    · exact h.finish sc.mark ‹_› hmarked
    · exact h.advanceBy hmarked _

/-- Draining hands out one token after the other. -/
theorem drain (h : Invariant p) {sc : Scanner} (hsc : p sc) : p sc.drain.2 := by
  have hstep := h.next? hsc
  match hnext : sc.next? with
  | (none, later) =>
      have hdrain : sc.drain = ([], later) := by
        rw [Scanner.drain]
        split <;> simp_all
      rw [hnext] at hstep
      rwa [hdrain]
  | (some t, later) =>
      have hshorter := fuel_next?_lt hnext
      rw [hnext] at hstep
      rw [drain_of_next? hnext]
      exact h.drain hstep
termination_by sc.fuel

/-- **One step.**  Whatever a scanner is asked for keeps what the three moves keep. -/
theorem perform (h : Invariant p) (hsc : p sc) (call : Call) : p (sc.perform call).2 := by
  cases call with
  | next =>
      have hnext := h.next? hsc
      rw [Scanner.perform]
      split <;> simp_all
  | poll => exact h.next? hsc
  | drain => exact h.drain hsc
  | advance => exact h.advance sc hsc
  | mark => exact h.mark sc hsc
  | isDone | peek offset | token kind => exact hsc
  | consumeWhile q => exact h.advanceBy hsc _
  | comment | codepoint | word => exact h.advanceBy hsc _
  | quoted quote kind | heredoc quote kind =>
      -- a quote of one character and any other are read in different ways, both by passing
      rcases quote with _ | ⟨c, _ | ⟨d, quote⟩⟩ <;> exact h.advanceBy hsc _
  | atom =>
      show p sc.atom?.2
      unfold atom?
      split
      · exact h.advanceBy hsc _
      · exact hsc

/-- **A whole run.**  The scanners after the calls of a run have what the three moves keep. -/
theorem of_mem_run (h : Invariant p) (hsc : p sc) {calls : List Call} {step : Answer × Scanner}
    (hstep : step ∈ sc.run calls) : p step.2 := by
  induction calls generalizing sc with
  | nil => cases hstep
  | cons call calls ih =>
      have hcall := h.perform hsc call
      rcases List.mem_cons.1 hstep with rfl | hstep
      · exact hcall
      · exact ih hcall hstep

end Invariant

end ElixirTerms.Scanner
