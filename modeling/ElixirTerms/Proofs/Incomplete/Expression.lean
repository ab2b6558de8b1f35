/-
# Expressions that break off

Reading an expression of which only the first tokens are there fails, and where it breaks off
decides how (`Derives.breaksOff`).  The contents of the outermost brackets are cut into segments
before any of them is read, so what the segments hold does not matter: of the places in brackets
only that behind a comma of these brackets themselves is told apart from others.
-/
import ElixirTerms.Proofs.Grammar.Brackets
import ElixirTerms.Proofs.Incomplete.Row

namespace ElixirTerms.Grammar

open Expression Segment

/-! ## How reading fails -/

/-- How the reading of an expression fails that breaks off between some tokens and others. -/
inductive BreakError (last : Option Token) (us vs : List Token) : ParseError → Prop where
  /-- Behind a comma of the outermost brackets. -/
  | separator : EndsInComma us → openBrackets us = 1 → BreakError last us vs (.emptyScan last)
  /-- Behind the identifier of a call that stands in no brackets. -/
  | callName {identifier : Token} {args : List Node} :
      us.getLast? = some identifier → openBrackets us = 0 →
      Derives (.expression (.call .anonCall identifier args)) (identifier :: vs) →
      BreakError last us vs (.unrecognized .expression identifier)
  /-- Anywhere else; what comes is not the dot of such a call. -/
  | other (missing : ParseError.Missing) :
      ¬ (EndsInComma us ∧ openBrackets us = 1) →
      ¬ (openBrackets us = 0 ∧ ∃ t, vs.head? = some t ∧ t.kind = .dot) →
      BreakError last us vs (.unexpectedEnd missing last)

/-- Reading an expression with some room fails that breaks off between some tokens and others. -/
def BreaksOff (room : Nat) (last : Option Token) (us vs : List Token) : Prop :=
  ∃ e rest, expression room last us = .fail e rest ∧ BreakError last us vs e

/-- Closed tokens before those of an expression do not change how its reading fails. -/
theorem BreakError.append {last : Option Token} {us vs : List Token} {e : ParseError}
    (h : BreakError last us vs e) {ts : List Token} (hts : openBrackets ts = 0) (hus : us ≠ []) :
    BreakError last (ts ++ us) vs e := by
  have hcount : openBrackets (ts ++ us) = openBrackets us := by
    rw [openBrackets_append]
    omega
  have hcomma : EndsInComma (ts ++ us) ↔ EndsInComma us := endsInComma_append hus
  cases h with
  | separator hends hopen => exact .separator (hcomma.2 hends) (hcount.trans hopen)
  | callName hlast hopen hcall =>
      refine .callName ?_ (hcount.trans hopen) hcall
      rw [List.getLast?_append, hlast]
      rfl
  | other missing hseparator hdot =>
      rw [← hcomma, ← hcount] at hseparator
      rw [← hcount] at hdot
      exact .other missing hseparator hdot

/-- Reading fails at the end of the tokens behind one that is no comma, if no dot comes. -/
theorem breakError_of_getLast? {last : Option Token} {us vs : List Token} {t u : Token}
    (missing : ParseError.Missing) (hlast : us.getLast? = some t) (hcomma : t.kind ≠ .comma)
    (hnext : vs.head? = some u) (hdot : u.kind ≠ .dot) :
    BreakError last us vs (.unexpectedEnd missing last) := by
  refine .other missing ?_ ?_
  · rintro ⟨⟨comma, hends, hkind⟩, -⟩
    rw [hlast] at hends
    cases hends
    exact hcomma hkind
  · rintro ⟨-, d, hd, hkind⟩
    rw [hnext] at hd
    cases hd
    exact hdot hkind

/-- No expression starts with a dot. -/
theorem Derives.exists_head {n : Node} {ts : List Token} (h : Derives (.expression n) ts) :
    ∃ t, ts.head? = some t ∧ t.kind ≠ .dot := by
  cases h with
  | moduleAttribute hsign _ _ => exact ⟨_, rfl, by simp [hsign]⟩
  | call hidentifier _ _ _ _ _ _ => exact ⟨_, rfl, by simp [hidentifier]⟩
  | @literal t form kind hform =>
      refine ⟨t, rfl, ?_⟩
      intro hkind
      rw [hkind] at hform
      cases hform
  | collection ho _ _ _ =>
      simp only [Token.isDelimiter, decide_eq_true_eq] at ho
      exact ⟨_, rfl, by simp [ho.1]⟩
  | hashMap hs _ _ _ _ =>
      simp only [Token.isDelimiter, decide_eq_true_eq] at hs
      exact ⟨_, rfl, by simp [hs.1]⟩

section

variable {room : Nat} {last : Option Token} {ts us vs : List Token}

/-! ## In brackets -/

section

variable {element : Element} {head : List Token} {brackets : Brackets}

/-- The tokens before the contents of brackets open these and no others. -/
theorem Opens.openBrackets_eq (h : Opens element head brackets) : openBrackets head = 1 := by
  cases h with
  | collection shape ho => exact openBrackets_opening ho (isOpening_opener shape)
  | @hashMap sign opening hs ho =>
      have hsign : openBrackets [sign] = 0 := (closed_percent hs).openBrackets_eq
      rw [openBrackets_cons, hsign, openBrackets_opening ho (Or.inr (Or.inr rfl))]
      rfl
  | @call identifier dot opening hidentifier hkind _ ho =>
      have hi : openBrackets [identifier] = 0 :=
        (closed_of_kind (by simp [hidentifier]) (by simp [hidentifier])).openBrackets_eq
      have hd : openBrackets [dot] = 0 :=
        (closed_of_kind (by simp [hkind]) (by simp [hkind])).openBrackets_eq
      rw [openBrackets_cons, openBrackets_cons dot, hi, hd, openBrackets_opening ho (Or.inl rfl)]
      rfl

/-- The last of the tokens before the contents of brackets is no comma. -/
theorem Opens.not_endsInComma (h : Opens element head brackets) : ¬ EndsInComma head := by
  have hdelimiter {t : Token} {lexeme : Text} (ht : t.isDelimiter lexeme = true) :
      t.kind ≠ .comma := by
    simp only [Token.isDelimiter, decide_eq_true_eq] at ht
    simp [ht.1]
  rintro ⟨comma, hlast, hkind⟩
  cases h with
  | collection shape ho =>
      cases hlast
      exact hdelimiter ho hkind
  | hashMap hs ho =>
      cases hlast
      exact hdelimiter ho hkind
  | call hidentifier _ _ ho =>
      cases hlast
      exact hdelimiter ho hkind

end

section

variable {head : List Token} {brackets : Brackets} {segments : List (List Token)} {closing : Token}

/-- Reading an expression fails that breaks off in the contents of its outermost brackets. -/
theorem Opens.breaksOff_inside (h : Opens (elementWithin room) head brackets)
    (hjoined : CommaJoined segments ts) (hall : ∀ s ∈ segments, s ≠ [] ∧ Closed s)
    (hus : us <+: ts) : BreaksOff (room + 1) last (head ++ us) vs := by
  have hcount : openBrackets (head ++ us) = 1 + openBrackets us := by
    rw [openBrackets_append, h.openBrackets_eq]
  have hnonneg := (rowFrom_breaksOff hjoined hall hus brackets.closer last).1
  -- some bracket is open, so that no call stands outside
  have hdot : ¬ (openBrackets (head ++ us) = 0 ∧ ∃ t, vs.head? = some t ∧ t.kind = .dot) := by
    rintro ⟨hzero, -⟩
    omega
  rw [BreaksOff, expression_succ, h.term_eq, enclosed]
  by_cases hne : us = []
  · subst hne
    rw [List.append_nil] at hdot ⊢
    refine ⟨_, [], rfl, .other .next ?_ hdot⟩
    rintro ⟨hends, -⟩
    exact h.not_endsInComma hends
  · have hcomma : EndsInComma (head ++ us) ↔ EndsInComma us := endsInComma_append hne
    obtain ⟨e, hrow, herror⟩ := row_breaksOff h.isClosing hjoined hall hus hne last
    rw [hrow]
    refine ⟨e, [], rfl, ?_⟩
    cases herror with
    | before hbefore =>
        rcases hbefore with hnil | ⟨hends, hzero⟩
        · exact absurd hnil hne
        · exact .separator (hcomma.2 hends) (by omega)
    | within hwithin =>
        refine .other .current ?_ hdot
        rintro ⟨hends, hone⟩
        exact hwithin (Or.inr ⟨hcomma.1 hends, by omega⟩)

/-- Tokens that break off before the closing bracket break off in the contents, or in what stands
before these. -/
theorem split_of_brackets (head : List Token) {ts us vs : List Token} {closing : Token}
    (h : head ++ (ts ++ [closing]) = us ++ vs) (hvs : vs ≠ []) :
    (∃ us', us = head ++ us' ∧ us' <+: ts) ∨
      ∃ ws, ws ≠ [] ∧ head = us ++ ws ∧ vs = ws ++ (ts ++ [closing]) := by
  rcases List.append_eq_append_iff.1 h with ⟨us', rfl, hsplit⟩ | ⟨ws, rfl, rfl⟩
  · refine Or.inl ⟨us', rfl, ?_⟩
    rcases List.prefix_concat_iff.1 ⟨vs, hsplit.symm⟩ with hall | hus
    · -- nothing has been broken off
      rw [hall] at hsplit
      exact absurd (List.append_right_eq_self.1 hsplit.symm) hvs
    · exact hus
  · by_cases hws : ws = []
    · subst hws
      exact Or.inl ⟨[], by simp, List.nil_prefix⟩
    · exact Or.inr ⟨ws, hws, rfl, rfl⟩

/-- A single token is not cut in two: before what is not empty there is nothing. -/
theorem eq_nil_of_singleton_append {t : Token} {us vs : List Token} (h : [t] = us ++ vs)
    (hvs : vs ≠ []) : us = [] := by
  rcases List.singleton_eq_append_iff.1 h with ⟨rfl, -⟩ | ⟨-, rfl⟩
  · rfl
  · exact absurd rfl hvs

/-- Reading an expression in brackets fails that breaks off before the closing one, if it fails
where it breaks off before the contents. -/
theorem Opens.breaksOff (h : Opens (elementWithin room) head brackets)
    (hjoined : CommaJoined segments ts) (hall : ∀ s ∈ segments, s ≠ [] ∧ Closed s)
    (hsplit : head ++ (ts ++ [closing]) = us ++ vs) (hvs : vs ≠ [])
    (hhead : ∀ ws, ws ≠ [] → head = us ++ ws → vs = ws ++ (ts ++ [closing]) →
      BreaksOff (room + 1) last us vs) : BreaksOff (room + 1) last us vs := by
  rcases split_of_brackets head hsplit hvs with ⟨us', rfl, hus'⟩ | ⟨ws, hws, heq, hrest⟩
  · exact h.breaksOff_inside hjoined hall hus'
  · exact hhead ws hws heq hrest

end

/-! ## Before brackets -/

/-- Reading a map fails that breaks off behind the percent sign. -/
theorem breaksOff_percent {sign opening : Token} {ws : List Token}
    (hs : sign.isDelimiter ['%'] = true) (ho : opening.isDelimiter ['\x7b'] = true)
    (hus : us ≠ []) (hws : ws ≠ []) (hhead : [sign, opening] = us ++ ws) :
    BreaksOff (room + 1) last us (ws ++ ts) := by
  rcases us with _ | ⟨u, us⟩
  · exact absurd rfl hus
  obtain ⟨rfl, hopening⟩ := List.cons.inj hhead
  cases eq_nil_of_singleton_append hopening hws
  obtain rfl : [opening] = ws := hopening
  simp only [Token.isDelimiter, decide_eq_true_eq] at hs ho
  refine ⟨.unexpectedEnd .current last, [], ?_, ?_⟩
  · simp [expression_succ, term, hs, delimited, Expression.hashMap]
  · exact breakError_of_getLast? .current rfl (by simp [hs.1]) rfl (by simp [ho.1])

/-- Reading a call fails that breaks off before the opening parenthesis. -/
theorem breaksOff_callName {identifier dot opening : Token} {args : List Node} {ws : List Token}
    (hidentifier : identifier.kind = .identifier) (hkind : dot.kind = .dot)
    (hdot : dot.lexeme = ['.']) (ho : opening.isDelimiter ['('] = true)
    (hcall : Derives (.expression (.call .anonCall identifier args))
      (identifier :: dot :: opening :: ts))
    (hus : us ≠ []) (hws : ws ≠ []) (hhead : [identifier, dot, opening] = us ++ ws) :
    BreaksOff (room + 1) last us (ws ++ ts) := by
  rw [BreaksOff, expression_succ]
  rcases us with _ | ⟨u, _ | ⟨u', us⟩⟩
  · exact absurd rfl hus
  · -- the identifier alone is no expression
    obtain ⟨rfl, rfl⟩ := List.cons.inj hhead
    refine ⟨.unrecognized .expression identifier, [identifier], ?_, ?_⟩
    · simp [term, hidentifier, identified]
    · have hclosed : Closed [identifier] :=
        closed_of_kind (by simp [hidentifier]) (by simp [hidentifier])
      exact .callName rfl hclosed.openBrackets_eq hcall
  · -- nothing stands behind the dot
    obtain ⟨rfl, hdots⟩ := List.cons.inj hhead
    obtain ⟨rfl, hopening⟩ := List.cons.inj hdots
    cases eq_nil_of_singleton_append hopening hws
    obtain rfl : [opening] = ws := hopening
    simp only [Token.isDelimiter, decide_eq_true_eq] at ho
    refine ⟨.unexpectedEnd .current last, [], ?_, ?_⟩
    · simp [term, hidentifier, identified, isCallDot, hkind, hdot, Expression.call]
    · exact breakError_of_getLast? .current rfl (by simp [hkind]) rfl (by simp [ho.1])

/-! ## Anywhere -/

/-- Reading an attribute fails that breaks off, if reading its value fails where that breaks off. -/
theorem breaksOff_moduleAttribute {sign name : Token} {v : Node}
    (hsign : sign.kind = .atSign) (hname : name.kind = .identifier)
    (hv : Derives (.expression v) ts) (hsplit : sign :: name :: ts = us ++ vs) (hus : us ≠ [])
    (hroom : v.nesting ≤ room)
    (ih : ∀ us', ts = us' ++ vs → us' ≠ [] → BreaksOff room last us' vs) :
    BreaksOff (room + 1) last us vs := by
  rw [BreaksOff, expression_succ]
  rcases us with _ | ⟨u, _ | ⟨u', us⟩⟩
  · exact absurd rfl hus
  · -- the name is missing
    obtain ⟨rfl, rfl⟩ := List.cons.inj hsplit
    refine ⟨.unexpectedEnd .current last, [], ?_, ?_⟩
    · simp [term, hsign, Expression.moduleAttribute]
    · exact breakError_of_getLast? .current rfl (by simp [hsign]) rfl (by simp [hname])
  · obtain ⟨rfl, hrest⟩ := List.cons.inj hsplit
    obtain ⟨rfl, hvalue⟩ := List.cons.inj hrest
    have hread : term (expression room) (elementWithin room) last (sign :: name :: us) =
        (expression room last us).map (.moduleAttribute .moduleAttribute name) := by
      simp [term, hsign, Expression.moduleAttribute, hname]
    rw [hread]
    by_cases hnil : us = []
    · -- all of the value is missing
      subst hnil
      obtain ⟨inner, rfl⟩ : ∃ inner, room = inner + 1 :=
        ⟨room - 1, by have := v.nesting_pos; omega⟩
      obtain ⟨head, hhead, hdot⟩ := hv.exists_head
      obtain rfl : ts = vs := hvalue
      refine ⟨.unexpectedEnd .next last, [], ?_, ?_⟩
      · rw [expression_succ]
        rfl
      · exact breakError_of_getLast? .next rfl (by simp [hname]) hhead hdot
    · obtain ⟨e, rest, hfail, herror⟩ := ih us hvalue hnil
      have hs : Closed [sign] := closed_of_kind (by simp [hsign]) (by simp [hsign])
      have hn : Closed [name] := closed_of_kind (by simp [hname]) (by simp [hname])
      refine ⟨e, rest, by rw [hfail]; rfl, ?_⟩
      exact herror.append (hs.append hn).openBrackets_eq hnil

end

/-- Reading an expression fails that breaks off. -/
theorem Derives.breaksOff {n : Node} {room : Nat} {last : Option Token} {ts us vs : List Token}
    (h : Derives (.expression n) ts) (hsplit : ts = us ++ vs) (hus : us ≠ []) (hvs : vs ≠ [])
    (hroom : n.nesting ≤ room) : BreaksOff room last us vs := by
  obtain ⟨room, rfl⟩ : ∃ inner, room = inner + 1 :=
    ⟨room - 1, by have := n.nesting_pos; omega⟩
  have hderives := h
  -- only the value of an attribute needs the theorem again: rows are cut before they are read
  cases h with
  | moduleAttribute hsign hname hv =>
      rw [Node.nesting_moduleAttribute, Nat.add_le_add_iff_right] at hroom
      refine breaksOff_moduleAttribute hsign hname hv hsplit hus hroom ?_
      intro us' hvalue hus'
      exact hv.breaksOff hvalue hus' hvs hroom
  | call hidentifier hkind hdot ho _ hparts hjoined =>
      refine (Opens.call hidentifier hkind hdot ho).breaksOff hjoined
        (closed_parts .expression hparts) hsplit hvs ?_
      rintro ws hws hhead rfl
      exact breaksOff_callName hidentifier hkind hdot ho hderives hus hws hhead
  | literal _ => exact absurd (eq_nil_of_singleton_append hsplit hvs) hus
  | collection ho _ hparts hjoined =>
      refine (Opens.collection _ ho).breaksOff hjoined (closed_parts .expression hparts) hsplit hvs
        ?_
      rintro ws hws hhead -
      exact absurd (eq_nil_of_singleton_append hhead hws) hus
  | hashMap hs ho _ hparts hjoined =>
      refine (Opens.hashMap hs ho).breaksOff hjoined
        (closed_parts (fun e => .entry e.1 e.2) hparts) hsplit hvs ?_
      rintro ws hws hhead rfl
      exact breaksOff_percent hs ho hus hws hhead

end ElixirTerms.Grammar
