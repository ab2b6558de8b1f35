/-
# How far the text after a token matters

A stream goes on from each of its tokens as the stream of the text after it, and a token does not
change when that text is exchanged for one that looks alike.  So text that is appended changes at
most the last two tokens of a text (`getElem?_lex_append`).
-/
import ElixirTerms.Proofs.Boundary.Exchange
import ElixirTerms.Proofs.Lossless
import Mathlib

namespace ElixirTerms.Token

open Extent

variable {t : Token} {ts us : List Token} {s u w : Text} {p : Position}

/-! ## Tokens before a text -/

/-- A token that stands before a text holds a character. -/
theorem Heads.lexeme_ne_nil (h : Heads t u) : t.lexeme ≠ [] := by
  obtain ⟨c, s, hlexeme, -⟩ := h
  rw [hlexeme]
  exact List.cons_ne_nil c s

/-- A token stays before what the text after it is exchanged for. -/
theorem Heads.exchange (h : Heads t u) (hu : u ≠ []) (hex : Exchange t.kind t.lexeme u w) :
    Heads t w := by
  obtain ⟨c, s, hlexeme, hscan⟩ := h
  refine ⟨c, s, hlexeme, ?_⟩
  rw [hlexeme] at hex
  rw [← hscan]
  exact scan_exchange (by rw [hscan]) hu (by rwa [hscan])

/-- A token is no alias with a dot at its end before a text over which atoms do not go on. -/
theorem Heads.not_dotted (h : Heads t u) (hstops : Stops .atom u) :
    ¬ Dotted t.kind t.lexeme := by
  obtain ⟨c, s, hlexeme, hscan⟩ := h
  have hdotted := not_dotted_of_stops (by rw [hscan]) hstops
  rwa [hscan, ← hlexeme] at hdotted

/-- Every stream holds a token. -/
theorem lexFrom_ne_nil (p : Position) (s : Text) : lexFrom p s ≠ [] := by
  obtain ⟨ts, hts, -⟩ := lexFrom_ends p s
  simp [hts]

/-- The one token of a stream that no other follows is the end of the input. -/
theorem rest_ne_nil_iff (h : lexFrom p s = t :: us) : us ≠ [] ↔ t.kind ≠ .eof := by
  cases s with
  | nil =>
      rw [lexFrom_nil] at h
      obtain ⟨rfl, rfl⟩ := List.cons.inj h
      exact iff_of_false (fun hne => hne rfl) (fun hkind => hkind rfl)
  | cons c s =>
      rw [lexFrom_cons] at h
      obtain ⟨rfl, rfl⟩ := List.cons.inj h
      exact iff_of_true (lexFrom_ne_nil _ _) (scan_kind_ne_eof c s)

/-- A stream of several tokens starts with one that stands before the text of the others. -/
theorem heads_of_lexFrom (h : lexFrom p s = t :: us) (hus : us ≠ []) :
    ∃ u, s = t.lexeme ++ u ∧ Heads t u ∧ t.position = p ∧ us = lexFrom (p.after t.lexeme) u := by
  cases s with
  | nil =>
      rw [lexFrom_nil] at h
      exact absurd (List.cons.inj h).2.symm hus
  | cons c s =>
      rw [lexFrom_cons] at h
      obtain ⟨rfl, rfl⟩ := List.cons.inj h
      exact ⟨afterFirst c s, (first_append_afterFirst p c s).symm, heads_first p c s, rfl, rfl⟩

/-! ## Streams -/

/-- The tokens are the first ones, from a position on, of their lexemes with a text after them. -/
def HeadsFrom (p : Position) (ts : List Token) (u : Text) : Prop :=
  lexFrom p (ts.flatMap lexeme ++ u) = ts ++ lexFrom (p.after (ts.flatMap lexeme)) u

/-- Several tokens stand before a text if the first of them stands before the rest. -/
theorem headsFrom_cons : HeadsFrom p (t :: ts) u ↔
    Heads t (ts.flatMap lexeme ++ u) ∧ t.position = p ∧ HeadsFrom (p.after t.lexeme) ts u := by
  simp only [HeadsFrom, List.flatMap_cons, List.append_assoc, List.cons_append,
    Position.after_append]
  constructor
  · intro h
    obtain ⟨v, hv, hheads, hplace, hrest⟩ := heads_of_lexFrom h (by simp [lexFrom_ne_nil])
    obtain rfl := List.append_cancel_left hv
    exact ⟨hheads, hplace, hrest.symm⟩
  · rintro ⟨hheads, rfl, hrest⟩
    rw [hheads.lexFrom_eq, hrest]

/-- Tokens stand before a text if the first of them stand before the others, and those before the
text. -/
theorem headsFrom_append : HeadsFrom p (ts ++ us) u ↔
    HeadsFrom p ts (us.flatMap lexeme ++ u) ∧ HeadsFrom (p.after (ts.flatMap lexeme)) us u := by
  induction ts generalizing p with
  | nil => exact ⟨fun h => ⟨rfl, h⟩, fun h => h.2⟩
  | cons t ts ih =>
      rw [List.cons_append, headsFrom_cons, headsFrom_cons, ih, List.flatMap_append,
        List.append_assoc, List.flatMap_cons, Position.after_append, and_assoc, and_assoc]

/-- Where a stream is split, its text is too: the first tokens stand before the text of which the
others are the stream. -/
theorem lexFrom_split (h : lexFrom p s = ts ++ us) (hus : us ≠ []) :
    ∃ u, s = ts.flatMap lexeme ++ u ∧ HeadsFrom p ts u ∧
      us = lexFrom (p.after (ts.flatMap lexeme)) u := by
  induction ts generalizing p s with
  | nil => exact ⟨s, rfl, rfl, h.symm⟩
  | cons t ts ih =>
      obtain ⟨u, rfl, hheads, hplace, hu⟩ := heads_of_lexFrom h (by simp [hus])
      obtain ⟨v, rfl, hrest, hv⟩ := ih hu.symm
      refine ⟨v, by rw [List.flatMap_cons, List.append_assoc],
        headsFrom_cons.2 ⟨hheads, hplace, hrest⟩, ?_⟩
      rw [hv, List.flatMap_cons, Position.after_append]

/-- Tokens stay before a text that is exchanged for one that looks alike. -/
theorem HeadsFrom.alike (h : HeadsFrom p ts u) (hu : u ≠ []) (halike : Alike u w) :
    HeadsFrom p ts w := by
  induction ts generalizing p with
  | nil => rfl
  | cons t ts ih =>
      obtain ⟨hheads, hplace, hrest⟩ := headsFrom_cons.1 h
      have hstays := hheads.exchange (by simp [hu]) (.alike (halike.append _))
      exact headsFrom_cons.2 ⟨hstays, hplace, ih hrest⟩

/-! ## Appended text -/

/-- A text of two characters is not told apart from a longer one by a token before it. -/
theorem alike_longer (h : 2 ≤ u.length) (b : Text) : Extent.Alike u (u ++ b) := by
  match u with
  | [] | [_] => simp at h
  | _ :: _ :: u => exact ⟨rfl, id, fun hlone => by simp at hlone⟩

/-- Tokens of a stream that two more and the end of the input follow start the stream of any longer
text. -/
theorem prefix_lexFrom_append (h : lexFrom p s = ts ++ us) (hus : 3 ≤ us.length) (b : Text) :
    ts <+: lexFrom p (s ++ b) := by
  have hne : us ≠ [] := List.ne_nil_of_length_pos (by omega)
  obtain ⟨u, rfl, hheads, rfl⟩ := lexFrom_split h hne
  -- the last two tokens hold a character each
  have hlong : 2 ≤ u.length := by
    have := length_lexFrom_le (p.after (ts.flatMap lexeme)) u
    omega
  have hu : u ≠ [] := List.ne_nil_of_length_pos (by omega)
  have hstays : lexFrom p (ts.flatMap lexeme ++ (u ++ b)) = _ :=
    hheads.alike hu (alike_longer hlong b)
  rw [List.append_assoc, hstays]
  exact List.prefix_append _ _

/-- **Bounded lookahead.**  A token that two more and the end of the input follow is found at the
same index and the same place in the stream of any longer text. -/
theorem getElem?_lex_append (a b : Text) {i : Nat} (h : i + 3 < (lex a).length) :
    (lex (a ++ b))[i]? = (lex a)[i]? := by
  have hsplit := (List.take_append_drop (i + 1) (lex a)).symm
  obtain ⟨vs, hvs⟩ := prefix_lexFrom_append hsplit (by rw [List.length_drop]; omega) b
  rw [lex, ← hvs, List.getElem?_append_left (by rw [List.length_take]; omega),
    List.getElem?_take_of_lt (by omega)]

/-- The blank before an alias and a dot stays where it is before an upper-case character. -/
theorem getElem?_lex_append_alias : 1 + 3 < (lex "f Ab.").length ∧
    (lex (("f Ab." : Text) ++ ("C" : Text)))[1]? = (lex "f Ab.")[1]? := by
  have hlength : (lex "f Ab.").length = 5 := by cbv
  exact ⟨by omega, getElem?_lex_append "f Ab." "C" (by omega)⟩

/-- The alias does not: it goes on over the dot. -/
example : (lex "f Ab.")[2]?.map lexeme = some "Ab".toList ∧
    (lex "f Ab.C")[2]?.map lexeme = some "Ab.C".toList := by
  decide +kernel

end ElixirTerms.Token
