/-
# Where quoted literals end

What stands between quotes is said here without a scan: a row of units, each a character or a
backslash with the character after it.  A literal is the shortest beginning of the text that has
its quotes around such a row, and the search for closing quotes finds just that, whether it counts
quotes in a row (`tripleClosing?_finds`) or stops at the first (`closing?_finds`).
-/
import ElixirTerms.Proofs.Bearings
import ElixirTerms.Proofs.Boundary.Exchange

namespace ElixirTerms

/-! ## Shortest beginnings -/

namespace Text

/-- The shortest beginning of a text that has a property. -/
structure Shortest (p : Text → Prop) (text s : Text) : Prop where
  begins : s <+: text
  holds : p s
  le_length : ∀ s', s' <+: text → p s' → s.length ≤ s'.length

/-- What a search finds that looks for the shortest beginning of a text with a property: its length,
or nothing if there is none. -/
def Finds (p : Text → Prop) (text : Text) : Option Nat → Prop
  | some n => ∃ s, Shortest p text s ∧ s.length = n
  | none => ∀ s, s <+: text → ¬ p s

variable {p q : Text → Prop} {s text : Text} {found : Option Nat}

/-- Nothing begins the empty text but itself. -/
theorem finds_nil (h : ¬ p []) : Finds p [] none := by
  intro s hs
  rw [List.prefix_nil.1 hs]
  exact h

/-- A search ends with the first characters that have the property. -/
theorem finds_length (hs : p s) (hshort : ∀ s', s' <+: s ++ text → p s' → s.length ≤ s'.length) :
    Finds p (s ++ text) (some s.length) :=
  ⟨s, ⟨List.prefix_append s text, hs, hshort⟩, rfl⟩

/-- A search goes on behind characters that are too few, for what the property asks of the rest. -/
theorem Finds.behind (lead : Text) (hshort : ∀ s, s <+: lead ++ text → p s → lead.length ≤ s.length)
    (hp : ∀ s, p (lead ++ s) ↔ q s) (h : Finds q text found) :
    Finds p (lead ++ text) (found.map (· + lead.length)) := by
  -- whatever has the property is the lead and a beginning of the rest
  have hsplit : ∀ s, s <+: lead ++ text → p s → ∃ s', s = lead ++ s' ∧ s' <+: text ∧ q s' := by
    intro s hs hps
    have hlead : lead <+: s :=
      List.prefix_of_prefix_length_le (List.prefix_append lead text) hs (hshort s hs hps)
    obtain ⟨s', rfl⟩ := hlead
    exact ⟨s', rfl, (List.prefix_append_right_inj lead).1 hs, (hp s').1 hps⟩
  cases found with
  | none =>
      intro s hs hps
      obtain ⟨s', -, hs', hq⟩ := hsplit s hs hps
      exact h s' hs' hq
  | some n =>
      obtain ⟨s, hs, rfl⟩ := h
      refine ⟨lead ++ s, ⟨?_, (hp s).2 hs.holds, ?_⟩, ?_⟩
      · exact (List.prefix_append_right_inj lead).2 hs.begins
      · intro t ht hpt
        obtain ⟨t', rfl, ht', hq⟩ := hsplit t ht hpt
        have := hs.le_length t' ht' hq
        simp only [List.length_append]
        omega
      · rw [List.length_append, Nat.add_comm]

/-- A search goes on behind a character, as nothing alone has the property. -/
theorem Finds.cons {c : Char} (hnil : ¬ p []) (hp : ∀ s, p (c :: s) ↔ q s)
    (h : Finds q text found) : Finds p (c :: text) (found.map (· + 1)) := by
  refine h.behind [c] ?_ hp
  intro s _ hps
  apply List.length_pos_of_ne_nil
  rintro rfl
  exact hnil hps

/-- A search goes on behind a pair of characters if nothing and the first alone are too few. -/
theorem Finds.pair {c d : Char} (hnil : ¬ p []) (hone : ¬ p [c]) (hp : ∀ s, p (c :: d :: s) ↔ q s)
    (h : Finds q text found) : Finds p (c :: d :: text) (found.map (· + 2)) := by
  refine h.behind [c, d] ?_ hp
  intro s hs hps
  rcases s with _ | ⟨e, _ | ⟨f, s⟩⟩
  · exact absurd hps hnil
  · obtain ⟨rfl, -⟩ := List.cons_prefix_cons.1 hs
    exact absurd hps hone
  · simp

/-- Nothing is found in a single character if neither it nor nothing has the property. -/
theorem finds_singleton {c : Char} (hnil : ¬ p []) (hone : ¬ p [c]) : Finds p [c] none := by
  intro s hs hps
  rcases List.prefix_cons_iff.1 hs with rfl | ⟨t, rfl, ht⟩
  · exact hnil hps
  · rw [List.prefix_nil.1 ht] at hps
    exact hone hps

end Text

/-! ## Literals -/

namespace Extent

open Token Text

/-- A row of units, each a backslash with the character after it, or one character that is no
backslash and none of those that are barred. -/
inductive Units (barred : List Char) : Text → Prop where
  | none : Units barred []
  | escape (c : Char) {s : Text} : Units barred s → Units barred ('\\' :: c :: s)
  | single {c : Char} {s : Text} : c ≠ '\\' → c ∉ barred → Units barred s → Units barred (c :: s)

/-- Units and the quotes that close them. -/
def Closed (barred : List Char) (closing s : Text) : Prop :=
  ∃ units, Units barred units ∧ s = units ++ closing

/-- Units between quotes. -/
def Enclosed (barred : List Char) (marks s : Text) : Prop :=
  ∃ units, Units barred units ∧ s = marks ++ units ++ marks

/-- A literal in the quotes with which a text opens.  Only tripled quotes may have quotes between
them. -/
def Literal (quote : Char) (text s : Text) : Prop :=
  if [quote, quote, quote] <+: text then Enclosed [] [quote, quote, quote] s
  else Enclosed [quote] [quote] s

variable {barred : List Char} {closing s : Text} {c quote : Char}

/-- What is closed is no shorter than what closes it. -/
theorem Closed.length_le (h : Closed barred closing s) : closing.length ≤ s.length := by
  obtain ⟨units, -, rfl⟩ := h
  rw [List.length_append]
  omega

/-- A backslash is a unit with the character after it, or it closes. -/
theorem closed_escape (hclosing : closing.head? ≠ some '\\') (c : Char) (s : Text) :
    Closed barred closing ('\\' :: c :: s) ↔ Closed barred closing s := by
  constructor
  · rintro ⟨units, hunits, hs⟩
    cases hunits with
    | none =>
        rw [List.nil_append] at hs
        exact absurd (by rw [← hs]; rfl) hclosing
    | @escape d units hunits =>
        obtain ⟨-, hs⟩ := List.cons.inj hs
        exact ⟨units, hunits, (List.cons.inj hs).2⟩
    | single hc _ _ => exact absurd (List.cons.inj hs).1.symm hc
  · rintro ⟨units, hunits, rfl⟩
    exact ⟨_, .escape c hunits, rfl⟩

/-- Another character is a unit by itself if it is not barred, or it starts what closes. -/
theorem closed_cons (hc : c ≠ '\\') (s : Text) :
    Closed barred closing (c :: s) ↔
      closing = c :: s ∨ (c ∉ barred ∧ Closed barred closing s) := by
  constructor
  · rintro ⟨units, hunits, hs⟩
    cases hunits with
    | none => exact Or.inl hs.symm
    | escape d _ => exact absurd (List.cons.inj hs).1 hc
    | @single d units _ hbarred hunits =>
        obtain ⟨rfl, rfl⟩ := List.cons.inj hs
        exact Or.inr ⟨hbarred, units, hunits, rfl⟩
  · rintro (rfl | ⟨hbarred, units, hunits, rfl⟩)
    · exact ⟨[], .none, rfl⟩
    · exact ⟨c :: units, .single hc hbarred hunits, rfl⟩

/-- A lone backslash closes nothing and is no unit. -/
theorem not_closed_backslash (hclosing : closing.head? ≠ some '\\') :
    ¬ Closed barred closing ['\\'] := by
  rintro ⟨units, hunits, hs⟩
  cases hunits with
  | none =>
      rw [List.nil_append] at hs
      exact hclosing (by rw [← hs]; rfl)
  | escape d _ => cases hs
  | single hc _ _ => exact hc (List.cons.inj hs).1.symm

/-- Nothing closes without quotes. -/
theorem not_closed_nil (hne : closing ≠ []) : ¬ Closed barred closing [] := by
  intro h
  have hlength := h.length_le
  rw [List.length_nil] at hlength
  exact hne (List.length_eq_zero_iff.1 (by omega))

/-! ## One quote -/

/-- The search for a quote finds the shortest row of units with the quote behind it. -/
theorem closing?_finds (hquote : quote ≠ '\\') (s : Text) :
    Finds (Closed [quote] [quote]) s (closing? quote s) := by
  have hnil : ¬ Closed [quote] [quote] [] := not_closed_nil (by simp)
  have hhead : [quote].head? ≠ some '\\' := by simpa using hquote
  have hlone : ¬ Closed [quote] [quote] ['\\'] := not_closed_backslash hhead
  fun_induction closing? quote s with
  | case1 => exact finds_nil hnil
  | case2 => exact finds_singleton hnil hlone
  | case3 c s ih => exact ih.pair hnil hlone (closed_escape hhead c)
  | case4 s _ _ =>
      apply finds_length (s := [quote])
      · exact ⟨[], .none, rfl⟩
      · exact fun s' _ h => h.length_le
  | case5 c s hend hescape hc ih =>
      refine ih.cons hnil fun s => ?_
      rw [closed_cons (ne_backslash hend hescape)]
      simp [Ne.symm hc, hc]

/-! ## Three quotes -/

/-- What closes with three quotes of which some have been met. -/
def ClosedAfter (quote : Char) (seen : Nat) (s : Text) : Prop :=
  Closed [] [quote, quote, quote] (List.replicate seen quote ++ s)

/-- One more quote has been met. -/
theorem closedAfter_succ (quote : Char) (seen : Nat) (s : Text) :
    ClosedAfter quote seen (quote :: s) ↔ ClosedAfter quote (seen + 1) s := by
  have hsame : List.replicate seen quote ++ quote :: s = List.replicate (seen + 1) quote ++ s := by
    rw [List.replicate_succ', List.append_assoc]
    rfl
  rw [ClosedAfter, ClosedAfter, hsame]

/-- Before another character the quotes that have been met are units by themselves. -/
theorem closedAfter_other (hquote : quote ≠ '\\') (hc : c ≠ quote) (seen : Nat) (s : Text) :
    ClosedAfter quote seen (c :: s) ↔ ClosedAfter quote 0 (c :: s) := by
  induction seen with
  | zero => exact Iff.rfl
  | succ seen ih =>
      have hclosing : [quote, quote, quote] ≠ quote :: (List.replicate seen quote ++ c :: s) := by
        intro h
        have hmem : c ∈ [quote, quote, quote] := by
          rw [h]
          simp
        simp [hc] at hmem
      rw [← ih, ClosedAfter, List.replicate_succ, List.cons_append, closed_cons hquote]
      constructor
      · rintro (h | ⟨-, h⟩)
        · exact absurd h hclosing
        · exact h
      · exact fun h => Or.inr ⟨List.not_mem_nil, h⟩

/-- The search for three quotes finds the shortest row of units with the quotes behind it, also
when up to two of them have been met. -/
theorem tripleClosing?_finds (hquote : quote ≠ '\\') {seen : Nat} (hseen : seen < 3) (s : Text) :
    Finds (ClosedAfter quote seen) s (tripleClosing? quote seen s) := by
  have hhead : [quote, quote, quote].head? ≠ some '\\' := by simpa using hquote
  have hnil : ∀ k < 3, ¬ ClosedAfter quote k [] := by
    intro k hk h
    have hlength := h.length_le
    simp only [List.length_append, List.length_replicate, List.length_cons, List.length_nil]
      at hlength
    omega
  have hlone : ∀ k, ¬ ClosedAfter quote k ['\\'] := by
    intro k
    rw [closedAfter_other hquote hquote.symm]
    exact not_closed_backslash hhead
  fun_induction tripleClosing? quote seen s with
  | case1 seen => exact finds_nil (hnil seen hseen)
  | case2 seen => exact finds_singleton (hnil seen hseen) (hlone seen)
  | case3 seen c s ih =>
      refine (ih (by omega)).pair (hnil seen hseen) (hlone seen) fun s => ?_
      rw [closedAfter_other hquote hquote.symm]
      exact closed_escape hhead c s
  | case4 s _ _ =>
      apply finds_length (s := [quote])
      · exact ⟨[], .none, rfl⟩
      · intro s' _ h
        apply List.length_pos_of_ne_nil
        rintro rfl
        exact hnil 2 (by omega) h
  | case5 seen s _ _ htwo ih =>
      exact (ih (by omega)).cons (hnil seen hseen) (closedAfter_succ quote seen)
  | case6 seen c s hend hescape hc ih =>
      refine (ih (by omega)).cons (hnil seen hseen) fun s => ?_
      have hne : [quote, quote, quote] ≠ c :: s := fun h => hc (List.cons.inj h).1.symm
      rw [closedAfter_other hquote hc]
      show Closed _ _ (c :: s) ↔ Closed _ _ s
      rw [closed_cons (ne_backslash hend hescape)]
      simp [hne]

/-! ## Literals -/

/-- The extent of a quoted literal by what a search has found. -/
def ofFound (kind : Kind) (text : Text) : Option Nat → Extent
  | some n => ⟨kind, n⟩
  | none => ⟨.illegal, text.length⟩

/-- What is enclosed has the opening quotes and is closed behind them. -/
theorem enclosed_append (marks s : Text) :
    Enclosed barred marks (marks ++ s) ↔ Closed barred marks s := by
  constructor
  · rintro ⟨units, hunits, h⟩
    rw [List.append_assoc] at h
    exact ⟨units, hunits, List.append_cancel_left h⟩
  · rintro ⟨units, hunits, rfl⟩
    exact ⟨units, hunits, (List.append_assoc _ _ _).symm⟩

/-- Behind opening quotes a search finds the literal that it finds closed. -/
theorem finds_enclosed {marks text : Text} {found : Option Nat}
    (h : Finds (Closed barred marks) text found) :
    Finds (Enclosed barred marks) (marks ++ text) (found.map (· + marks.length)) := by
  refine h.behind marks ?_ (enclosed_append marks)
  rintro s - ⟨units, -, rfl⟩
  simp only [List.length_append]
  omega

/-- A text opens with tripled quotes if its second and third characters are the same quotes. -/
theorem tripled_iff (quote : Char) (s : Text) :
    [quote, quote, quote] <+: quote :: s ↔
      (quote :: s)[1]? = some quote ∧ (quote :: s)[2]? = some quote := by
  rcases s with _ | ⟨c, _ | ⟨d, s⟩⟩
  · simp
  · simp
  · simp [eq_comm]

/-- **A quoted literal is the shortest one.**  Its extent is that of the shortest literal at the
head of the text, if there is one, and else it is illegal and takes all. -/
theorem exists_finds_literal (hquote : quote ≠ '\\') (kind : Kind) (s : Text) :
    ∃ found, Finds (Literal quote (quote :: s)) (quote :: s) found ∧
      quoted quote kind (quote :: s) = ofFound kind (quote :: s) found := by
  by_cases htripled : [quote, quote, quote] <+: quote :: s
  · have hliteral : Literal quote (quote :: s) = Enclosed [] [quote, quote, quote] := by
      funext t
      rw [Literal, if_pos htripled]
    have hquotes := (tripled_iff quote s).1 htripled
    obtain ⟨rest, hrest⟩ := htripled
    obtain ⟨-, rfl⟩ := List.cons.inj hrest
    have hfinds := finds_enclosed (tripleClosing?_finds hquote (by omega : 0 < 3) rest)
    refine ⟨_, hliteral ▸ hfinds, ?_⟩
    rw [quoted, if_pos hquotes, heredoc]
    show (match tripleClosing? quote 0 rest with | some n => _ | none => _) = _
    cases tripleClosing? quote 0 rest with
    | none =>
        simp [ofFound, unclosed]
    | some n => rfl
  · have hliteral : Literal quote (quote :: s) = Enclosed [quote] [quote] := by
      funext t
      rw [Literal, if_neg htripled]
    have hfinds := finds_enclosed (closing?_finds hquote s)
    refine ⟨_, hliteral ▸ hfinds, ?_⟩
    rw [quoted, if_neg (mt (tripled_iff quote s).2 htripled)]
    show (match closing? quote s with | some n => _ | none => _) = _
    cases closing? quote s with
    | none => simp [ofFound, unclosed]
    | some n => rfl

/-! ## Tokens that are literals -/

/-- The kind of a quoted literal: behind a colon an atom, else a string or a charlist by its
quotes. -/
def literalKind (lead : Text) (quote : Char) : Kind :=
  if lead = [':'] then .atom else if quote = '"' then .string else .charlist

/-- No quote is a backslash. -/
theorem ne_backslash_of_mem_quotes (h : quote ∈ quotes) : quote ≠ '\\' := by
  rintro rfl
  exact absurd h (by decide)

/-- Where a quote is met, directly or behind a colon, the token is the literal in these quotes. -/
theorem scan_literal {lead : Text} (hlead : lead = [] ∨ lead = [':']) (h : quote ∈ quotes)
    (s : Text) : ∃ c u, lead ++ quote :: s = c :: u ∧
      scan c u = ⟨(quoted quote (literalKind lead quote) (quote :: s)).kind,
        lead.length + (quoted quote (literalKind lead quote) (quote :: s)).length⟩ := by
  rcases hlead with rfl | rfl
  · refine ⟨quote, s, rfl, ?_⟩
    rw [List.length_nil, Nat.zero_add]
    simp only [quotes, List.mem_cons, List.not_mem_nil, or_false] at h
    rcases h with rfl | rfl
    · rfl
    · rfl
  · refine ⟨':', quote :: s, rfl, ?_⟩
    have hatom : atom? (':' :: quote :: s) = some
        ⟨(quoted quote .atom (quote :: s)).kind, (quoted quote .atom (quote :: s)).length + 1⟩ := by
      rw [atom?_cons_cons, if_pos ⟨rfl, h⟩]
    have hscan : scan ':' (quote :: s) =
        (atom? (':' :: quote :: s)).getD (plain ':' (quote :: s)) := rfl
    rw [hscan, hatom, Nat.add_comm]
    rfl

end Extent

/-! ## Scanners that meet a quote -/

namespace Scanner

open Extent Text
open Token (quotes)

variable {sc : Scanner}

/-- A scanner is finished only where nothing is left. -/
def Spent (sc : Scanner) : Prop := sc.finished = true → sc.rest = []

/-- A scanner is done only where nothing is left, and from then on nothing is. -/
theorem invariant_spent : Invariant Spent where
  advance sc h := by
    intro hfinished
    rw [advance_finished] at hfinished
    rw [advance_rest, h hfinished, List.drop_nil]
  mark _ h := h
  finish _ hrest _ := fun _ => hrest

/-- **Quoted literals end where they should.**  Wherever a scanner meets a quote, directly or behind
a colon, it hands out the shortest literal in the quotes with which the unread text opens, with the
colon before it, and moves behind it; or there is no literal, and what it hands out is illegal and
takes all that is left. -/
theorem next?_of_quote (text : Text) (calls : List Call) {lead s : Text} {quote : Char}
    (hsc : (ofText text).after calls = sc) (hlead : lead = [] ∨ lead = [':'])
    (hquote : quote ∈ quotes) (hrest : text.drop sc.pos = lead ++ quote :: s) :
    ∃ t later, sc.next? = (some t, later) ∧ later.pos = sc.pos + t.lexeme.length ∧
      ((∃ literal, Shortest (Literal quote (quote :: s)) (quote :: s) literal ∧
          t.kind = literalKind lead quote ∧ t.lexeme = lead ++ literal) ∨
        ((∀ literal, literal <+: quote :: s → ¬ Literal quote (quote :: s) literal) ∧
          t.kind = .illegal ∧ t.lexeme = lead ++ quote :: s)) := by
  have hbearings : sc.Bearings text := hsc ▸ (moves_after _ calls).bearings (bearings_ofText text)
  have hunread : sc.rest = lead ++ quote :: s := by
    rw [← hbearings.consistent, hbearings.text_eq, hrest]
  have hopen : sc.finished = false := by
    cases hfinished : sc.finished with
    | false => rfl
    | true =>
        have hspent : (ofText text).Spent := nofun
        have hnil := invariant_spent.after hspent calls (hsc ▸ hfinished)
        rw [hsc, hunread] at hnil
        simp at hnil
  obtain ⟨c, u, hhead, hscan⟩ := scan_literal hlead hquote s
  have hnext := next?_of_rest hbearings.consistent hopen (hunread.trans hhead)
  refine ⟨_, _, hnext, pos_of_next? hbearings.consistent hnext, ?_⟩
  obtain ⟨found, hfinds, hquoted⟩ :=
    exists_finds_literal (ne_backslash_of_mem_quotes hquote) (literalKind lead quote) s
  rw [Token.first, hscan, hquoted, ← hhead]
  cases found with
  | none =>
      right
      refine ⟨hfinds, rfl, List.take_of_length_le ?_⟩
      rw [List.length_append]
      rfl
  | some n =>
      left
      obtain ⟨literal, hliteral, rfl⟩ := hfinds
      refine ⟨literal, hliteral, rfl, ?_⟩
      show (lead ++ quote :: s).take (lead.length + literal.length) = lead ++ literal
      rw [List.take_length_add_append, ← List.prefix_iff_eq_take.1 hliteral.begins]

/-- Behind a comma a quoted atom opens with three quotes and holds a quote and an escaped one; it is
closed by the first three of the quotes behind them. -/
theorem next?_of_quote_tripled :
    ∃ sc, (ofText ",:''''\\'''''").after [.poll] = sc ∧ '\'' ∈ quotes ∧
      List.drop sc.pos ",:''''\\'''''".toList = [':'] ++ '\'' :: "'''\\'''''" ∧
      ∃ t later, sc.next? = (some t, later) ∧ t.kind = .atom := by
  have hrest : List.drop ((ofText ",:''''\\'''''").after [.poll]).pos ",:''''\\'''''".toList =
      [':'] ++ '\'' :: "'''\\'''''" := by cbv
  refine ⟨_, rfl, by decide, hrest, ?_⟩
  obtain ⟨t, later, hnext, -, h⟩ :=
    next?_of_quote ",:''''\\'''''" [.poll] rfl (.inr rfl) (by decide) hrest
  refine ⟨t, later, hnext, ?_⟩
  rcases h with ⟨literal, -, hkind, -⟩ | ⟨hnone, -, -⟩
  · exact hkind
  · refine absurd ?_ (hnone "''''\\''''" (by decide))
    rw [Literal, if_pos (by decide)]
    exact ⟨"'\\'", .single (by decide) (by decide) (.escape '\'' .none), rfl⟩

end Scanner

end ElixirTerms
