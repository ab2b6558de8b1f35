/-
# Programs line by line

A program that ends its text leaves nothing open there: what stands on the next lines is read as if
it stood alone.  The same holds of tokens without a text (`parse_append`).
-/
import ElixirTerms.Proofs.Gist
import ElixirTerms.Proofs.Grammar.Exact

namespace ElixirTerms

/-! ## Tokens of lines -/

namespace Token

open Extent Unicode

/-- Settled tokens stop before a newline, except for white space. -/
theorem stops_newline {kind : Kind} (hsettled : Settled kind)
    (h : kind ∉ [Kind.whitespace, Kind.eof]) (u : Text) : Stops kind ('\n' :: u) := by
  obtain ⟨hchar, hillegal⟩ := hsettled
  rw [stops_cons]
  cases kind
  case whitespace | eof => simp at h
  case char => exact absurd rfl hchar
  case illegal => exact absurd rfl hillegal
  all_goals decide

/-- The first token of a text stops before a newline if it is settled and no blank. -/
theorem first_stops_newline {c : Char} (hblank : isBlank c = false) {p : Position} {s : Text}
    (h : ∀ t ∈ significantFrom p (c :: s), Settled t.kind) (u : Text) :
    Stops (scan c s).kind ('\n' :: u) := by
  by_cases hhash : c = '#'
  · subst hhash
    exact (stops_cons .comment '\n' u).2 (by decide)
  · have hkind := scan_kind_of_not_blank hblank hhash s
    refine stops_newline (h (first p c s) ?_) ?_ u
    · rw [significantFrom_cons, if_pos ((isSignificant_first p c s).2 ⟨hblank, hhash⟩)]
      exact List.mem_cons_self
    · simp only [List.mem_cons, not_or] at hkind ⊢
      exact ⟨hkind.1, hkind.2.2⟩

/-- If no token of a text is left open, then the tokens of what comes after a newline are found as
if the text had ended before it. -/
theorem significantFrom_newline (p : Position) (s u : Text)
    (h : ∀ t ∈ significantFrom p s, Settled t.kind) :
    significantFrom p (s ++ '\n' :: u) =
      significantFrom p s ++ significantFrom (p.after (s ++ ['\n'])) u := by
  match s with
  | [] =>
      rw [List.nil_append, significantFrom_of_blank (by decide), significantFrom_nil]
      rfl
  | c :: s =>
      -- white space goes on over the newline, so blanks are passed one by one
      cases hblank : isBlank c with
      | true =>
          rw [significantFrom_of_blank hblank] at h
          rw [List.cons_append, significantFrom_of_blank hblank, significantFrom_of_blank hblank,
            significantFrom_newline (p.next c) s u h]
          rfl
      | false =>
          obtain ⟨hfirst, hafter⟩ := first_append (scan_append (first_stops_newline hblank h u)) p
          have hplace : (p.after (first p c s).lexeme).after (afterFirst c s ++ ['\n']) =
              p.after (c :: s ++ ['\n']) := by
            rw [← Position.after_append, ← List.append_assoc, first_append_afterFirst]
          have hshorter := length_afterFirst_lt c s
          rw [significantFrom_cons] at h
          rw [List.cons_append, significantFrom_cons, hfirst, hafter, significantFrom_cons p c s]
          split_ifs at h ⊢
          · rw [significantFrom_newline _ (afterFirst c s) u (fun t ht =>
              h t (List.mem_cons_of_mem _ ht)), hplace]
            rfl
          · rw [significantFrom_newline _ (afterFirst c s) u h, hplace]
termination_by s.length
decreasing_by
  · exact length_afterFirst_lt c s
  · exact length_afterFirst_lt c s
  · exact Nat.lt_succ_self s.length

end Token

/-! ## Programs of tokens -/

namespace Grammar

open Expression

/-- Reading goes on after a program that the grammar derives and that has room. -/
theorem expressions_append {ns : List Node} {ts : List Token} (h : DerivesAll ns ts)
    (hfits : Fits ns) (last : Option Token) (us : List Token) :
    Program.expressions last (ts ++ us) = (Program.expressions last us).map (ns ++ ·) := by
  induction h with
  | nil => cases h : Program.expressions last us <;> simp [h, Reading.map]
  | @cons n ns ts ts' hn _ ih =>
      obtain ⟨hroom, hfits⟩ := (fits_cons n ns).1 hfits
      obtain ⟨left, hread⟩ := hn.read (nestingLimit + 1) last (ts' ++ us)
      rw [if_pos hroom] at hread
      rw [List.append_assoc, expressions_of_done hread, ih hfits]
      cases Program.expressions last us <;> rfl

/-- A program and what comes after it are read one after the other. -/
theorem parse_append {ts : List Token} {ns : List Node} (h : Program.parse ts = .ok ns)
    (us : List Token) : Program.parse (ts ++ us) = (Program.parse us).map (ns ++ ·) := by
  -- the reader knows the last token of all, which is that of the second program if it has any
  have hlast : Program.expressions (Program.significant ts ++ Program.significant us).getLast?
      (Program.significant us) =
        Program.expressions (Program.significant us).getLast? (Program.significant us) := by
    cases hus : Program.significant us with
    | nil => rw [Program.expressions, Program.expressions]
    | cons t us => rw [List.getLast?_append, List.getLast?_cons, Option.some_or]
  have hsplit : Program.significant (ts ++ us) = Program.significant ts ++ Program.significant us :=
    List.filter_append _ _
  simp only [Program.parse, hsplit, expressions_append (derivesAll_of_parse h) (fits_of_parse h),
    hlast]
  cases Program.expressions (Program.significant us).getLast? (Program.significant us) <;> rfl

/-- An accepted text leaves no token open. -/
theorem settled_of_parseText {s : Text} {ns : List Node} (h : Program.parseText s = .ok ns) :
    ∀ t ∈ Token.significantFrom .start s, Extent.Settled t.kind := by
  -- the grammar names no kind of token that could have been left open
  intro t ht
  have hkind := (derivesAll_of_parse h).kind_mem t ht
  constructor
  all_goals
    intro hopen
    rw [hopen] at hkind
    revert hkind
    decide

end Grammar

/-! ## Programs of texts -/

namespace Program

/-- A text parses as its significant tokens do. -/
theorem parseText_eq (s : Text) : parseText s = parse (Token.significantFrom .start s) := by
  have htwice (ts : List Token) : significant (significant ts) = significant ts := by
    simp [significant, List.filter_filter]
  simp only [parseText, parse, Token.significantFrom, htwice]
  rfl

/-- Tokens parse to the same program wherever their text starts. -/
theorem parse_significantFrom (p : Position) (s : Text) :
    unplacedBy (List.map Node.unplaced) (parse (Token.significantFrom p s)) =
      unplacedBy (List.map Node.unplaced) (parseText s) := by
  rw [← parse_unplaced, Token.significantFrom_unplaced, Token.parse_gist]

/-- What stands on the lines after an accepted text is read by itself, from its own position. -/
theorem parseText_newline {a : Text} {ns : List Node} (h : parseText a = .ok ns) (b : Text) :
    ∃ p, parseText (a ++ '\n' :: b) = (parse (Token.significantFrom p b)).map (ns ++ ·) := by
  refine ⟨Position.start.after (a ++ ['\n']), ?_⟩
  rw [parseText_eq, Token.significantFrom_newline .start a b (Grammar.settled_of_parseText h),
    Grammar.parse_append (parseText_eq a ▸ h)]

/-- **Programs compose line by line.**  After an accepted text, what stands on the next lines is
accepted if it is by itself, and its expressions follow those of the text, which keep their places;
else it is refused with the same error about the same token. -/
theorem parseText_lines {a : Text} {ns : List Node} (h : parseText a = .ok ns) (b : Text) :
    (∀ ns', parseText b = .ok ns' →
      ∃ later, parseText (a ++ '\n' :: b) = .ok (ns ++ later) ∧ Node.sameAll later ns' = true) ∧
    (∀ e, parseText b = .error e →
      ∃ e', parseText (a ++ '\n' :: b) = .error e' ∧ e'.unplaced = e.unplaced ∧
        e'.token?.map Token.unplaced = e.token?.map Token.unplaced) := by
  obtain ⟨p, hlines⟩ := parseText_newline h b
  have hsame := parse_significantFrom p b
  rw [hlines]
  cases hlater : parse (Token.significantFrom p b) with
  | ok later =>
      rw [hlater] at hsame
      refine ⟨fun ns' hb => ⟨later, rfl, ?_⟩, fun e hb => ?_⟩
      · rw [hb] at hsame
        injection hsame with hsame
        rwa [Node.sameAll_iff]
      · rw [hb] at hsame
        cases hsame
  | error e' =>
      rw [hlater] at hsame
      refine ⟨fun ns' hb => ?_, fun e hb => ⟨e', rfl, ?_⟩⟩
      · rw [hb] at hsame
        cases hsame
      · rw [hb] at hsame
        injection hsame with hsame
        rw [← ParseError.token?_unplaced, ← ParseError.token?_unplaced, hsame]
        exact ⟨rfl, rfl⟩

/-- After a map and a comment, a call is read as it is by itself, and an open list is refused as it
is by itself. -/
theorem parseText_lines_after_comment :
    ∃ ns, parseText "%\x7bAb.C => 1\x7d # c" = .ok ns ∧
      (∃ ns' later, parseText "f.(1)" = .ok ns' ∧
        parseText ("%\x7bAb.C => 1\x7d # c" ++ '\n' :: "f.(1)") = .ok (ns ++ later) ∧
        Node.sameAll later ns' = true) ∧
      ∃ e e', parseText "[f.(?a" = .error e ∧
        parseText ("%\x7bAb.C => 1\x7d # c" ++ '\n' :: "[f.(?a") = .error e' ∧
        e'.unplaced = e.unplaced ∧ e'.token?.map Token.unplaced = e.token?.map Token.unplaced := by
  obtain ⟨ns, ha⟩ : ∃ ns, parseText "%\x7bAb.C => 1\x7d # c" = .ok ns := ⟨_, by cbv⟩
  obtain ⟨ns', hb⟩ : ∃ ns', parseText "f.(1)" = .ok ns' := ⟨_, by cbv⟩
  obtain ⟨e, he⟩ : ∃ e, parseText "[f.(?a" = .error e := ⟨_, by cbv⟩
  obtain ⟨later, hlater⟩ := (parseText_lines ha "f.(1)").1 ns' hb
  obtain ⟨e', he'⟩ := (parseText_lines ha "[f.(?a").2 e he
  exact ⟨ns, ha, ⟨ns', later, hb, hlater⟩, e, e', he, he'⟩

end Program

end ElixirTerms
