/-
# Rows that break off

Reading a row of segments of which only the first tokens are there fails at the end of the tokens:
behind a comma of the row itself a segment is missing, and everywhere else a segment goes on
(`row_breaksOff`).  What the segments hold does not matter.
-/
import ElixirTerms.Proofs.Grammar.Balance
import ElixirTerms.Proofs.Grammar.Rows

namespace ElixirTerms.Segment

open Grammar

/-! ## Commas at the end -/

/-- The last of some tokens is a comma. -/
def EndsInComma (us : List Token) : Prop := ∃ comma, us.getLast? = some comma ∧ comma.kind = .comma

/-- Only the later tokens matter to whether a list ends in a comma. -/
theorem endsInComma_append {us vs : List Token} (h : vs ≠ []) :
    EndsInComma (us ++ vs) ↔ EndsInComma vs := by
  obtain ⟨v, vs, rfl⟩ := List.exists_cons_of_ne_nil h
  rw [EndsInComma, EndsInComma, List.getLast?_append, List.getLast?_cons, Option.some_or]

/-- Behind a closed segment and a comma, the brackets of a row are counted as if these were not
there. -/
theorem Closed.openBrackets_append_comma {ts : List Token} {comma : Token} (h : Closed ts)
    (hcomma : comma.kind = .comma) (us : List Token) :
    openBrackets (ts ++ comma :: us) = openBrackets us := by
  rw [openBrackets_append, openBrackets_cons, h.openBrackets_eq, openBrackets_comma hcomma]
  omega

/-! ## How reading fails -/

/-- A row breaks off before a segment: it has just begun, or its last token is a comma of its
own. -/
def BeforeSegment (us : List Token) : Prop := us = [] ∨ EndsInComma us ∧ openBrackets us = 0

/-- How the reading of a row fails that breaks off. -/
inductive RowError (last : Option Token) (us : List Token) : ParseError → Prop where
  | before : BeforeSegment us → RowError last us (.emptyScan last)
  | within : ¬ BeforeSegment us → RowError last us (.unexpectedEnd .current last)

/-- A segment breaks off before none: the last token is no comma outside its brackets. -/
theorem Closed.eq_nil_of_beforeSegment {ts us : List Token} (h : Closed ts) (hus : us <+: ts)
    (hbefore : BeforeSegment us) : us = [] := by
  rcases hbefore with hnil | ⟨⟨comma, hlast, hkind⟩, hzero⟩
  · exact hnil
  · obtain ⟨before, rfl⟩ := List.getLast?_eq_some_iff.1 hlast
    obtain ⟨vs, hts⟩ := hus
    have := ((closed_iff_balanced ts).1 h).comma before comma vs (by rw [← hts]; simp) hkind
    rw [openBrackets_append, openBrackets_comma hkind] at hzero
    omega

/-- Reading a row fails where its first segment breaks off, which has shut no bracket too many. -/
theorem Closed.rowFrom_breaksOff {ts us : List Token} (h : Closed ts) (hus : us <+: ts)
    (closer : Text) (last : Option Token) :
    0 ≤ openBrackets us ∧
      ∃ e, rowFrom closer last 0 [] us = .fail e [] ∧ RowError last us e := by
  refine ⟨((closed_iff_balanced ts).1 h).nonneg us hus, ?_⟩
  have hbefore := h.eq_nil_of_beforeSegment hus
  obtain ⟨vs, rfl⟩ := hus
  rw [Closed, depthOver_append] at h
  obtain ⟨d, hd, -⟩ := Option.bind_eq_some_iff.1 h
  have hrow : rowFrom closer last 0 [] us = rowFrom closer last d us [] := by
    simpa using rowFrom_append hd [] []
  rw [rowFrom] at hrow
  by_cases hnil : us = []
  · rw [if_pos hnil] at hrow
    exact ⟨_, hrow, .before (Or.inl hnil)⟩
  · rw [if_neg hnil] at hrow
    exact ⟨_, hrow, .within fun h => hnil (hbefore h)⟩

/-- Behind a closed segment and a comma, a row breaks off as the row of the later segments does. -/
theorem RowError.cons {last : Option Token} {ts us : List Token} {comma : Token} {e : ParseError}
    (h : RowError last us e) (hts : Closed ts) (hcomma : comma.kind = .comma) :
    RowError last (ts ++ comma :: us) e := by
  have hcount := hts.openBrackets_append_comma hcomma us
  have hsame : BeforeSegment (ts ++ comma :: us) ↔ BeforeSegment us := by
    by_cases hus : us = []
    · subst hus
      refine ⟨fun _ => Or.inl rfl, fun _ => Or.inr ⟨⟨comma, by simp, hcomma⟩, ?_⟩⟩
      rw [hcount, openBrackets_nil]
    · rw [BeforeSegment, BeforeSegment, hcount, ← List.singleton_append, ← List.append_assoc,
        endsInComma_append hus]
      simp [hus]
  cases h with
  | before hbefore => exact .before (hsame.2 hbefore)
  | within hwithin => exact .within (mt hsame.1 hwithin)

/-- Reading a row of closed segments fails where it breaks off; no bracket has been shut there that
was not opened. -/
theorem rowFrom_breaksOff {segments : List (List Token)} {ts us : List Token}
    (h : CommaJoined segments ts) (hall : ∀ s ∈ segments, s ≠ [] ∧ Closed s) (hus : us <+: ts)
    (closer : Text) (last : Option Token) :
    0 ≤ openBrackets us ∧
      ∃ e, rowFrom closer last 0 [] us = .fail e [] ∧ RowError last us e := by
  induction h generalizing us with
  | none =>
      have hclosed : Closed [] := rfl
      exact hclosed.rowFrom_breaksOff hus closer last
  | one ts => exact (hall ts List.mem_cons_self).2.rowFrom_breaksOff hus closer last
  | @more ts vs comma segments hcomma _ _ ih =>
      obtain ⟨⟨hts, hclosed⟩, hall⟩ := List.forall_mem_cons.1 hall
      rcases List.prefix_or_prefix_of_prefix hus (List.prefix_append ts _) with hus' | ⟨ws, rfl⟩
      · -- the first segment breaks off
        exact hclosed.rowFrom_breaksOff hus' closer last
      cases ws with
      | nil =>
          rw [List.append_nil]
          exact hclosed.rowFrom_breaksOff (List.prefix_refl ts) closer last
      | cons w ws =>
          -- the first segment is whole
          obtain ⟨rfl, hws⟩ := List.cons_prefix_cons.1 (List.prefix_append_right_inj ts |>.1 hus)
          obtain ⟨hcount, e, hrow, herror⟩ := ih hall hws
          refine ⟨?_, e, ?_, herror.cons hclosed hcomma⟩
          · rwa [hclosed.openBrackets_append_comma hcomma]
          · rw [rowFrom_append hclosed, List.nil_append, rowFrom_comma hcomma hts, hrow]
            rfl

/-- Reading the contents of brackets fails as the row of segments in them does, if any of them is
there. -/
theorem row_breaksOff {closer : Text} (hclosing : IsClosing closer) {segments : List (List Token)}
    {ts us : List Token} (h : CommaJoined segments ts)
    (hall : ∀ s ∈ segments, s ≠ [] ∧ Closed s) (hus : us <+: ts) (hne : us ≠ [])
    (last : Option Token) : ∃ e, row closer last us = .fail e [] ∧ RowError last us e := by
  have hsegments : segments ≠ [] := by
    rintro rfl
    cases h
    exact hne (List.prefix_nil.1 hus)
  obtain ⟨t, later, rfl, ht⟩ := head_of_commaJoined h hsegments hall
  obtain ⟨-, e, hrow, herror⟩ := rowFrom_breaksOff h hall hus closer last
  cases us with
  | nil => exact absurd rfl hne
  | cons u us =>
      obtain ⟨rfl, -⟩ := List.cons_prefix_cons.1 hus
      have hnot : ¬ u.isDelimiter closer = true := by
        intro hd
        exact ht (depthAfter_closing_zero hd hclosing)
      refine ⟨e, ?_, herror⟩
      rw [row, if_neg hnot, hrow]

end ElixirTerms.Segment
