/-
# Programs

A program is a row of expressions.  `parse` reads all of them and stops at the first error;
`parseAll` goes on after an error at the first token that has not been consumed, and past it if
nothing has been.
-/
import ElixirTerms.Reading.Expression.Progress
import ElixirTerms.Token.Lex

namespace ElixirTerms.Program

/-- The tokens that the grammar sees. -/
def significant (ts : List Token) : List Token := ts.filter Token.isSignificant

theorem isSignificant_of_mem {ts : List Token} {t : Token} (h : t ∈ significant ts) :
    t.isSignificant = true := (List.mem_filter.1 h).2

/-- Nothing is taken from tokens that the grammar sees. -/
theorem significant_of_forall {ts : List Token} (h : ∀ t ∈ ts, t.isSignificant = true) :
    significant ts = ts := List.filter_eq_self.2 h

/-- Read expressions until the tokens run out. -/
def expressions (last : Option Token) (ts : List Token) : Reading (List Node) :=
  match ts with
  | [] => .done [] []
  | t :: us =>
    match _h : Expression.top last (t :: us) with
    | .fail e rest => .fail e rest
    | .done n rest => (expressions last rest).map (n :: ·)
termination_by ts.length
decreasing_by exact Expression.length_rest_lt_of_top ‹_›

/-- Where reading goes on after an error that left `rest` of the tokens `t :: us`. -/
def resume (us rest : List Token) : List Token := if rest.length ≤ us.length then rest else us

theorem length_resume_le (us rest : List Token) : (resume us rest).length ≤ us.length := by
  unfold resume
  split
  · assumption
  · exact Nat.le_refl _

/-- Read expressions, and go on after errors. -/
def results (last : Option Token) (ts : List Token) : List (Except ParseError Node) :=
  match ts with
  | [] => []
  | t :: us =>
    match _h : Expression.top last (t :: us) with
    | .fail e rest => .error e :: results last (resume us rest)
    | .done n rest => .ok n :: results last rest
termination_by ts.length
decreasing_by
  · exact Nat.lt_succ_of_le (length_resume_le us rest)
  · exact Expression.length_rest_lt_of_top ‹_›

theorem expressions_cons (last : Option Token) (t : Token) (us : List Token) :
    expressions last (t :: us) =
      match Expression.top last (t :: us) with
      | .fail e rest => .fail e rest
      | .done n rest => (expressions last rest).map (n :: ·) := by
  rw [expressions]
  split <;> simp_all

theorem results_cons (last : Option Token) (t : Token) (us : List Token) :
    results last (t :: us) =
      match Expression.top last (t :: us) with
      | .fail e rest => .error e :: results last (resume us rest)
      | .done n rest => .ok n :: results last rest := by
  rw [results]
  split <;> simp_all

/-- The expressions of a list of tokens, or the first error. -/
def parse (tokens : List Token) : Except ParseError (List Node) :=
  let ts := significant tokens
  (expressions ts.getLast? ts).outcome

/-- The expressions and the errors of a list of tokens, in order. -/
def parseAll (tokens : List Token) : List (Except ParseError Node) :=
  let ts := significant tokens
  results ts.getLast? ts

/-- The expressions of a text, or the first error. -/
def parseText (text : Text) : Except ParseError (List Node) := parse (Token.lex text)

end ElixirTerms.Program
