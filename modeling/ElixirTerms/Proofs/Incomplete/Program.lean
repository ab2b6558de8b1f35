/-
# Programs that break off

The first tokens of a program are a program if they end between two of its expressions.  If they end
inside one, the tokens run out, and the error says so, with two exceptions: behind a comma of the
outermost bracket an element is missing, and an identifier that should have been that of a call is
no expression (`parse_of_cut`).
-/
import ElixirTerms.Proofs.Incomplete.Expression
import ElixirTerms.Proofs.Lines

namespace ElixirTerms

/-! ## Where a program is cut -/

namespace Grammar

open Segment

/-- The tokens of a program are cut between two of its expressions, or at one of its ends. -/
inductive CutBetween : List Node → List Token → List Token → Prop where
  | intro {ms ms' : List Node} {pre post : List Token} :
      DerivesAll ms pre → DerivesAll ms' post → CutBetween (ms ++ ms') pre post

/-- The tokens of a program are cut inside one of its expressions. -/
inductive CutInside : List Node → List Token → List Token → Prop where
  | intro {ms ms' : List Node} {n : Node} {before us vs after : List Token} :
      DerivesAll ms before → Derives (.expression n) (us ++ vs) → DerivesAll ms' after →
      us ≠ [] → vs ≠ [] → CutInside (ms ++ n :: ms') (before ++ us) (vs ++ after)

/-- The last token is a comma, which separates items of the outermost bracket that is left open: no
other bracket is. -/
def SeparatesItems (pre : List Token) : Prop := EndsInComma pre ∧ openBrackets pre = 1

/-- The last token is the identifier of a call, the rest of which has been cut off, and no bracket
is left open. -/
def NamesCall (pre post : List Token) : Prop :=
  openBrackets pre = 0 ∧ ∃ identifier args ts after, pre.getLast? = some identifier ∧
    post = ts ++ after ∧
    Derives (.expression (.call .anonCall identifier args)) (identifier :: ts)

/-- The tokens of a program are closed. -/
theorem DerivesAll.closed {ns : List Node} {ts : List Token} (h : DerivesAll ns ts) :
    Closed ts := by
  induction h with
  | nil => rfl
  | cons hn _ ih => exact hn.closed.append ih

section

variable {n : Node} {ns : List Node} {ts pre post : List Token}

/-- Behind an expression, a program is cut between its expressions as what follows is. -/
theorem CutBetween.cons (hn : Derives (.expression n) ts) (h : CutBetween ns pre post) :
    CutBetween (n :: ns) (ts ++ pre) post := by
  cases h with
  | intro hpre hpost => exact .intro (.cons hn hpre) hpost

/-- Behind an expression, a program is cut inside an expression as what follows is. -/
theorem CutInside.cons (hn : Derives (.expression n) ts) (h : CutInside ns pre post) :
    CutInside (n :: ns) (ts ++ pre) post := by
  cases h with
  | intro hbefore hm hafter hus hvs =>
      rw [← List.append_assoc]
      exact .intro (.cons hn hbefore) hm hafter hus hvs

/-- A program is cut between its expressions or inside one of them. -/
theorem DerivesAll.cut (h : DerivesAll ns ts) (hsplit : ts = pre ++ post) :
    CutBetween ns pre post ∨ CutInside ns pre post := by
  induction h generalizing pre with
  | nil =>
      obtain ⟨rfl, rfl⟩ := List.append_eq_nil_iff.1 hsplit.symm
      exact Or.inl (.intro .nil .nil)
  | @cons n ns ts us hn hns ih =>
      rcases List.append_eq_append_iff.1 hsplit with ⟨pre', rfl, hus⟩ | ⟨vs, rfl, rfl⟩
      · -- the first expression is whole
        exact (ih hus).imp (.cons hn) (.cons hn)
      by_cases hpre : pre = []
      · subst hpre
        exact Or.inl (.intro .nil (.cons hn hns))
      by_cases hvs : vs = []
      · subst hvs
        rw [List.append_nil] at hn
        have hwhole : CutBetween (n :: ns) (pre ++ []) us := .cons hn (.intro .nil hns)
        rw [List.append_nil] at hwhole
        exact Or.inl hwhole
      · exact Or.inr (.intro .nil hn hns hpre hvs)

end

/-! ## How reading fails -/

/-- Where a bracket is open, a program is not cut between its expressions. -/
theorem not_cutBetween_of_openBrackets {ns : List Node} {pre post : List Token}
    (h : openBrackets pre ≠ 0) : ¬ CutBetween ns pre post := by
  rintro ⟨hpre, -⟩
  exact h hpre.closed.openBrackets_eq

theorem CutInside.ne_nil {ns : List Node} {pre post : List Token} (h : CutInside ns pre post) :
    pre ≠ [] := by
  cases h with
  | intro _ _ _ hus _ => simp [hus]

/-- The first expressions of a program that has room parse where their tokens stand alone. -/
theorem DerivesAll.parse_eq {ms ms' : List Node} {ts : List Token} (h : DerivesAll ms ts)
    (hfits : Fits (ms ++ ms')) (hts : ∀ t ∈ ts, t.isSignificant = true) :
    Program.parse ts = .ok ms := by
  rw [parse_of_derivesAll (by rwa [Program.significant_of_forall hts]), if_pos]
  intro m hm
  exact hfits m (List.mem_append_left ms' hm)

/-- The first tokens of a program that is cut inside an expression do not parse, and where they are
cut decides how. -/
theorem CutInside.parse_eq {ns : List Node} {pre post : List Token} (h : CutInside ns pre post)
    (hfits : Fits ns) (hpre : ∀ t ∈ pre, t.isSignificant = true) :
    ∃ e vs after, Program.parse pre = .error e ∧ post = vs ++ after ∧ vs ≠ [] ∧
      BreakError pre.getLast? pre vs e := by
  cases h with
  | @intro ms ms' n before us vs after hbefore hn _ hus hvs =>
      obtain ⟨hbefore', hus'⟩ := List.forall_mem_append.1 hpre
      have hms : Program.parse before = .ok ms := hbefore.parse_eq hfits hbefore'
      have hroom : n.nesting ≤ Expression.nestingLimit + 1 := hfits n (by simp)
      have hbreaks : BreaksOff (Expression.nestingLimit + 1) us.getLast? us vs :=
        hn.breaksOff rfl hus hvs hroom
      obtain ⟨e, rest, hfail, herror⟩ := hbreaks
      have hparse : Program.parse us = .error e := by
        rw [Program.parse, Program.significant_of_forall hus']
        exact congrArg Reading.outcome (expressions_of_fail hus hfail)
      have hlast : (before ++ us).getLast? = us.getLast? :=
        List.getLast?_append_of_ne_nil before hus
      refine ⟨e, vs, after, ?_, rfl, hvs, ?_⟩
      · rw [parse_append hms, hparse]
        rfl
      · rw [hlast]
        exact herror.append hbefore.closed.openBrackets_eq hus

/-- Where the identifier of a call is the last token, the dot of the call comes next. -/
theorem NamesCall.exists_dot {pre post : List Token} (h : NamesCall pre post) :
    ∃ t, post.head? = some t ∧ t.kind = .dot := by
  obtain ⟨-, identifier, args, ts, after, -, rfl, hcall⟩ := h
  cases hcall with
  | call _ hdot _ _ _ _ _ => exact ⟨_, rfl, hdot⟩

end Grammar

/-! ## Programs that break off -/

namespace Program

open Grammar Segment

variable {tokens pre post : List Token} {ns : List Node}

/-- **Programs that break off.**  Where the significant tokens of an accepted program are cut, they
are cut between its expressions or inside one.  If between, then the tokens before the cut parse to
the expressions there.  If inside, then they do not: a comma that separates items of the outermost
open bracket should have been followed by an item; the identifier of a call outside all brackets
cannot stand alone; and everywhere else the error is that the tokens end.  The error is about the
last token before the cut. -/
theorem parse_of_cut (h : parse tokens = .ok ns) (hsplit : significant tokens = pre ++ post) :
    (CutBetween ns pre post ∨ CutInside ns pre post) ∧
    (CutBetween ns pre post → ∃ ms, ms <+: ns ∧ parse pre = .ok ms) ∧
    (CutInside ns pre post → ∃ last, pre.getLast? = some last ∧
      (SeparatesItems pre → parse pre = .error (.emptyScan (some last))) ∧
      (NamesCall pre post → parse pre = .error (.unrecognized .expression last)) ∧
      (¬ SeparatesItems pre → ¬ NamesCall pre post →
        ∃ missing, parse pre = .error (.unexpectedEnd missing (some last)))) := by
  have hderives := derivesAll_of_parse h
  have hfits := fits_of_parse h
  have hpre : ∀ t ∈ pre, t.isSignificant = true := by
    intro t ht
    exact isSignificant_of_mem (hsplit ▸ List.mem_append_left _ ht)
  refine ⟨hderives.cut hsplit, ?_, ?_⟩
  · rintro ⟨hms, -⟩
    rename_i ms ms'
    exact ⟨ms, List.prefix_append ms ms', hms.parse_eq hfits hpre⟩
  · intro hinside
    obtain ⟨e, vs, after, hparse, rfl, hvs, herror⟩ := hinside.parse_eq hfits hpre
    obtain ⟨last, hlast⟩ : ∃ last, pre.getLast? = some last :=
      ⟨_, List.getLast?_eq_some_getLast hinside.ne_nil⟩
    rw [hlast] at herror
    refine ⟨last, hlast, ?_⟩
    rw [hparse]
    cases herror with
    | separator hends hone =>
        refine ⟨fun _ => rfl, ?_, fun hnot => absurd ⟨hends, hone⟩ hnot⟩
        rintro ⟨hzero, -⟩
        omega
    | @callName identifier args hidentifier hzero hcall =>
        rw [hlast] at hidentifier
        cases hidentifier
        refine ⟨?_, fun _ => rfl, fun _ hnot => absurd ?_ hnot⟩
        · rintro ⟨-, hone⟩
          omega
        · exact ⟨hzero, last, args, vs, after, hlast, rfl, hcall⟩
    | other missing hseparator hdot =>
        refine ⟨fun hsep => absurd hsep hseparator, ?_, fun _ _ => ⟨missing, rfl⟩⟩
        intro hcall
        obtain ⟨t, ht, hkind⟩ := hcall.exists_dot
        rw [List.head?_append_of_ne_nil _ hvs] at ht
        exact absurd ⟨hcall.1, t, ht, hkind⟩ hdot

/-- A call that breaks off behind the comma between its arguments lacks an argument there. -/
theorem parse_of_cut_call :
    ∃ ns, parse (Token.lex "f.(1, [2]) :b") = .ok ns ∧
      CutInside ns [⟨.identifier, ['f'], ⟨1, 1⟩⟩, ⟨.dot, ['.'], ⟨1, 2⟩⟩,
          ⟨.delimiter, ['('], ⟨1, 3⟩⟩, ⟨.number, ['1'], ⟨1, 4⟩⟩, ⟨.comma, [','], ⟨1, 5⟩⟩]
        [⟨.delimiter, ['['], ⟨1, 7⟩⟩, ⟨.number, ['2'], ⟨1, 8⟩⟩, ⟨.delimiter, [']'], ⟨1, 9⟩⟩,
          ⟨.delimiter, [')'], ⟨1, 10⟩⟩, ⟨.atom, ":b", ⟨1, 12⟩⟩] ∧
      parse [⟨.identifier, ['f'], ⟨1, 1⟩⟩, ⟨.dot, ['.'], ⟨1, 2⟩⟩,
          ⟨.delimiter, ['('], ⟨1, 3⟩⟩, ⟨.number, ['1'], ⟨1, 4⟩⟩, ⟨.comma, [','], ⟨1, 5⟩⟩] =
        .error (.emptyScan (some ⟨.comma, [','], ⟨1, 5⟩⟩)) := by
  obtain ⟨ns, hparse⟩ : ∃ ns, parse (Token.lex "f.(1, [2]) :b") = .ok ns := ⟨_, by cbv⟩
  have hsplit : significant (Token.lex "f.(1, [2]) :b") =
      [⟨.identifier, ['f'], ⟨1, 1⟩⟩, ⟨.dot, ['.'], ⟨1, 2⟩⟩, ⟨.delimiter, ['('], ⟨1, 3⟩⟩,
        ⟨.number, ['1'], ⟨1, 4⟩⟩, ⟨.comma, [','], ⟨1, 5⟩⟩] ++
      [⟨.delimiter, ['['], ⟨1, 7⟩⟩, ⟨.number, ['2'], ⟨1, 8⟩⟩, ⟨.delimiter, [']'], ⟨1, 9⟩⟩,
        ⟨.delimiter, [')'], ⟨1, 10⟩⟩, ⟨.atom, ":b", ⟨1, 12⟩⟩] := by cbv
  have hseparates : SeparatesItems [⟨.identifier, ['f'], ⟨1, 1⟩⟩, ⟨.dot, ['.'], ⟨1, 2⟩⟩,
      ⟨.delimiter, ['('], ⟨1, 3⟩⟩, ⟨.number, ['1'], ⟨1, 4⟩⟩, ⟨.comma, [','], ⟨1, 5⟩⟩] :=
    ⟨⟨_, rfl, rfl⟩, by decide⟩
  obtain ⟨hcut, -, hinside⟩ := parse_of_cut hparse hsplit
  have hcutInside := hcut.resolve_left (not_cutBetween_of_openBrackets (by decide))
  obtain ⟨last, hlast, herror, -⟩ := hinside hcutInside
  cases hlast
  exact ⟨ns, hparse, hcutInside, herror hseparates⟩

end Program

end ElixirTerms
