/-
# Reading up to the first error

Reading that stops at the first error and reading with recovery do the same up to that error: both
give the expressions that a cursor hands out when it is asked for one after the other.
-/
import ElixirTerms.Cursor.Call
import ElixirTerms.Proofs.Recovery.Rounds

namespace ElixirTerms

open Expression Grammar

/-! ## Expressions one after the other -/

namespace Program

/-- Expressions that are read one after the other off the head of some tokens, and the tokens after
them. -/
inductive Leads (last : Option Token) : List Node → List Token → List Token → Prop where
  | none (ts : List Token) : Leads last [] ts ts
  | next {n : Node} {ns : List Node} {ts us rest : List Token} :
      top last ts = .done n us → Leads last ns us rest → Leads last (n :: ns) ts rest

/-- Reading that comes to its end has read expressions one after the other up to there. -/
theorem leads_of_expressions_done {last : Option Token} {ns : List Node} {ts rest : List Token}
    (h : expressions last ts = .done ns rest) : Leads last ns ts [] := by
  match ts with
  | [] =>
      rw [expressions] at h
      cases h
      exact .none []
  | t :: us =>
      cases htop : top last (t :: us) with
      | fail e r =>
          rw [expressions_of_fail (List.cons_ne_nil t us) htop] at h
          cases h
      | done n r =>
          have hshorter := length_rest_lt_of_top htop
          rw [expressions_of_done htop] at h
          obtain ⟨ns', hns, rfl⟩ := Reading.map_eq_done_iff.1 h
          exact .next htop (leads_of_expressions_done hns)
termination_by ts.length
decreasing_by exact hshorter

/-- Reading that fails has read expressions one after the other up to where the error arose. -/
theorem leads_of_expressions_fail {last : Option Token} {ts rest : List Token} {e : ParseError}
    (h : expressions last ts = .fail e rest) :
    ∃ ns us, Leads last ns ts us ∧ us ≠ [] ∧ top last us = .fail e rest := by
  match ts with
  | [] =>
      rw [expressions] at h
      cases h
  | t :: us =>
      cases htop : top last (t :: us) with
      | fail e' r =>
          rw [expressions_of_fail (List.cons_ne_nil t us) htop] at h
          cases h
          exact ⟨[], t :: us, .none _, List.cons_ne_nil t us, htop⟩
      | done n r =>
          have hshorter := length_rest_lt_of_top htop
          rw [expressions_of_done htop] at h
          cases hrest : expressions last r with
          | done ns' r' =>
              rw [hrest] at h
              cases h
          | fail e' r' =>
              rw [hrest] at h
              cases h
              obtain ⟨ns', us', hns, hus, hfail⟩ := leads_of_expressions_fail hrest
              exact ⟨n :: ns', us', .next htop hns, hus, hfail⟩
termination_by ts.length
decreasing_by exact hshorter

section

variable {last : Option Token} {ns : List Node} {ts rest : List Token} {e : ParseError}

/-- Reading with recovery gives the expressions at the head of the tokens before all else. -/
theorem Leads.results_eq (h : Leads last ns ts rest) :
    results last ts = ns.map .ok ++ results last rest := by
  induction h with
  | none ts => rfl
  | next htop _ ih => rw [results_of_done htop, ih, List.map_cons, List.cons_append]

/-- Reading with recovery gives an error where one arises first. -/
theorem exists_results_of_fail (hts : ts ≠ []) (h : top last ts = .fail e rest) :
    ∃ later, results last ts = .error e :: later := by
  cases ts with
  | nil => exact absurd rfl hts
  | cons t us =>
      rw [results_cons, h]
      exact ⟨_, rfl⟩

end

end Program

/-! ## Cursors -/

namespace Cursor

open Program

/-- What is left before a cursor is an end of its tokens. -/
theorem rest_suffix (cursor : Cursor) : cursor.rest <:+ cursor.tokens :=
  List.drop_suffix _ _

/-- A cursor that has moved to an end of its tokens stands before that end. -/
theorem rest_moveTo {cursor : Cursor} {rest : List Token} (h : rest <:+ cursor.tokens) :
    (cursor.moveTo rest).rest = rest :=
  (List.suffix_iff_eq_drop.1 h).symm

/-- A cursor is done when no tokens are left before it. -/
theorem isDone_iff (cursor : Cursor) : cursor.isDone = true ↔ cursor.rest = [] := by
  rw [isDone, decide_eq_true_eq, rest, List.drop_eq_nil_iff]

/-- A cursor before some tokens is asked for the next expression. -/
theorem perform_next {cursor : Cursor} (h : cursor.rest ≠ []) :
    cursor.perform .next =
      ((top cursor.last? cursor.rest).outcome.map .node,
        cursor.moveTo (top cursor.last? cursor.rest).rest) := by
  rw [perform, next?, if_neg (mt (isDone_iff cursor).1 h), run]
  cases top cursor.last? cursor.rest <;> rfl

/-- A cursor that is asked for one expression after the other hands out those at the head of its
tokens, and then answers as a cursor behind them. -/
theorem exists_runCalls_of_leads {last : Option Token} {ns : List Node} {ts rest : List Token}
    (h : Leads last ns ts rest) (cursor : Cursor) (hlast : cursor.last? = last)
    (hts : cursor.rest = ts) (calls : List Call) :
    ∃ behind : Cursor, behind.last? = last ∧ behind.rest = rest ∧
      (cursor.runCalls (List.replicate ns.length .next ++ calls)).map Prod.fst =
        ns.map (fun n => .ok (.node n)) ++ (behind.runCalls calls).map Prod.fst := by
  induction h generalizing cursor with
  | none ts => exact ⟨cursor, hlast, hts, rfl⟩
  | @next n ns ts us rest htop _ ih =>
      -- an expression has cost a token, so the cursor was not done
      have hne : cursor.rest ≠ [] := by
        intro hnil
        have hshorter := length_rest_lt_of_top htop
        rw [← hts, hnil] at hshorter
        exact absurd hshorter (Nat.not_lt_zero _)
      have hadvances := top_advances last ts
      rw [htop] at hadvances
      have hsuffix : us <:+ cursor.tokens := hadvances.1.trans (hts ▸ cursor.rest_suffix)
      have hstep := perform_next hne
      rw [hlast, hts, htop] at hstep
      obtain ⟨behind, hbehind, hrest, hrun⟩ :=
        ih (cursor.moveTo us) hlast (rest_moveTo hsuffix)
      refine ⟨behind, hbehind, hrest, ?_⟩
      rw [List.length_cons, List.replicate_succ, List.cons_append, runCalls, hstep]
      exact congrArg (.ok (.node n) :: ·) hrun

end Cursor

/-! ## Agreement up to the first error -/

namespace Program

section

variable {tokens us rest : List Token} {ns : List Node} {e : ParseError}

/-- Where there is no error, reading with recovery gives the expressions. -/
theorem parseAll_of_parse (h : parse tokens = .ok ns) : parseAll tokens = ns.map .ok := by
  obtain ⟨rest, hread⟩ := Reading.outcome_eq_ok_iff.1 h
  have hresults := (leads_of_expressions_done hread).results_eq
  rwa [results_nil, List.append_nil] at hresults

/-- Where parsing ends with an error, this arises behind expressions at the head of the tokens. -/
theorem exists_leads_of_error (h : parse tokens = .error e) :
    ∃ ns us rest, Leads (significant tokens).getLast? ns (significant tokens) us ∧ us ≠ [] ∧
      top (significant tokens).getLast? us = .fail e rest := by
  cases hread : expressions (significant tokens).getLast? (significant tokens) with
  | done ns rest =>
      rw [parse, hread] at h
      cases h
  | fail e' rest =>
      rw [parse, hread] at h
      cases h
      obtain ⟨ns, us, hleads, hus, htop⟩ := leads_of_expressions_fail hread
      exact ⟨ns, us, rest, hleads, hus, htop⟩

/-- Reading with recovery gives the expressions before the first error, and then this error. -/
theorem exists_parseAll_of_leads
    (hleads : Leads (significant tokens).getLast? ns (significant tokens) us) (hus : us ≠ [])
    (htop : top (significant tokens).getLast? us = .fail e rest) :
    ∃ later : List (Except ParseError Node),
      parseAll tokens = ns.map .ok ++ .error e :: later := by
  obtain ⟨later, hlater⟩ := exists_results_of_fail hus htop
  exact ⟨later, hlater ▸ hleads.results_eq⟩

/-- A new cursor hands out the expressions before the first error, and then answers with this
error. -/
theorem runCalls_ofTokens_of_leads
    (hleads : Leads (significant tokens).getLast? ns (significant tokens) us) (hus : us ≠ [])
    (htop : top (significant tokens).getLast? us = .fail e rest) :
    ((Cursor.ofTokens tokens).runCalls (List.replicate (ns.length + 1) .next)).map Prod.fst =
      ns.map (fun n => .ok (.node n)) ++ [.error e] := by
  obtain ⟨behind, hlast, hrest, hrun⟩ := Cursor.exists_runCalls_of_leads hleads
    (Cursor.ofTokens tokens) rfl rfl [.next]
  rw [List.replicate_succ', hrun, Cursor.runCalls, Cursor.perform_next (hrest ▸ hus), hlast,
    hrest, htop]
  rfl

/-- Where parsing ends with an error, reading with recovery gives expressions and then this
error. -/
theorem exists_parseAll_of_error (h : parse tokens = .error e) :
    ∃ (ns : List Node) (later : List (Except ParseError Node)),
      parseAll tokens = ns.map .ok ++ .error e :: later := by
  obtain ⟨ns, us, rest, hleads, hus, htop⟩ := exists_leads_of_error h
  exact ⟨ns, exists_parseAll_of_leads hleads hus htop⟩

/-- Where reading with recovery meets no error, there is none. -/
theorem parse_of_parseAll (h : parseAll tokens = ns.map .ok) : parse tokens = .ok ns := by
  cases hparse : parse tokens with
  | ok ns' =>
      have hmap : ns'.map Except.ok = ns.map Except.ok := (parseAll_of_parse hparse).symm.trans h
      rw [List.map_inj_right fun n n' => Except.ok.inj] at hmap
      rw [hmap]
  | error e =>
      -- an error among the results is no expression
      obtain ⟨ns', later, hall⟩ := exists_parseAll_of_error hparse
      have hmem : (.error e : Except ParseError Node) ∈ ns.map Except.ok :=
        h ▸ hall ▸ List.mem_append_right _ List.mem_cons_self
      obtain ⟨n, -, hn⟩ := List.mem_map.1 hmem
      cases hn

end

/-- **Both ways of reading agree up to the first error.**  Tokens parse to some nodes if and only if
reading with recovery gives these nodes and no error.  If parsing ends with an error, reading with
recovery gives some nodes first and this very error next; and a new cursor that is asked for one
expression after the other hands out these nodes, and then answers with this error. -/
theorem parse_parseAll_agree (tokens : List Token) :
    (∀ ns, parse tokens = .ok ns ↔ parseAll tokens = ns.map .ok) ∧
    (∀ e, parse tokens = .error e →
      ∃ (ns : List Node) (later : List (Except ParseError Node)),
        parseAll tokens = ns.map .ok ++ .error e :: later ∧
        ((Cursor.ofTokens tokens).runCalls (List.replicate (ns.length + 1) .next)).map Prod.fst =
          ns.map (fun n => .ok (.node n)) ++ [.error e]) := by
  refine ⟨fun ns => ⟨parseAll_of_parse, parse_of_parseAll⟩, fun e he => ?_⟩
  obtain ⟨ns, us, rest, hleads, hus, htop⟩ := exists_leads_of_error he
  obtain ⟨later, hall⟩ := exists_parseAll_of_leads hleads hus htop
  exact ⟨ns, later, hall, runCalls_ofTokens_of_leads hleads hus htop⟩

/-- A number and a list are read, and then a tuple with two numbers that no comma parts is refused;
with recovery reading goes on after the tuple. -/
theorem parse_parseAll_agree_on_tuple :
    ∃ e, parse (Token.lex "1 [:a] \x7b2 3\x7d :b") = .error e ∧
      ∃ (ns : List Node) (later : List (Except ParseError Node)),
        parseAll (Token.lex "1 [:a] \x7b2 3\x7d :b") = ns.map .ok ++ .error e :: later ∧
        ((Cursor.ofTokens (Token.lex "1 [:a] \x7b2 3\x7d :b")).runCalls
          (List.replicate (ns.length + 1) .next)).map Prod.fst =
            ns.map (fun n => .ok (.node n)) ++ [.error e] := by
  obtain ⟨e, he⟩ : ∃ e, parse (Token.lex "1 [:a] \x7b2 3\x7d :b") = .error e := ⟨_, by cbv⟩
  exact ⟨e, he, (parse_parseAll_agree _).2 e he⟩

end Program

end ElixirTerms
