/-
# Cutting rows apart

A segment is closed if it shuts all the brackets that it opens, no others, and holds no comma
outside them.  Cutting the contents of brackets gives back exactly the closed segments that commas
have joined, whatever the kinds of their brackets.
-/
import ElixirTerms.Proofs.Grammar.Basic

namespace ElixirTerms

/-! ## Depth -/

namespace Segment

open Grammar

/-- The number of open brackets after some tokens, or nothing if one of them ends the segment. -/
def depthOver : Nat → List Token → Option Nat
  | depth, [] => some depth
  | depth, t :: ts => (depthAfter depth t).bind (depthOver · ts)

/-- All brackets are shut that were opened, and nothing ends the segment before its end. -/
def Closed (ts : List Token) : Prop := depthOver 0 ts = some 0

@[simp] theorem depthOver_nil (depth : Nat) : depthOver depth [] = some depth := rfl

theorem depthOver_cons (depth : Nat) (t : Token) (ts : List Token) :
    depthOver depth (t :: ts) = (depthAfter depth t).bind (depthOver · ts) := rfl

/-- The depth after two lists is found one list after the other. -/
theorem depthOver_append (depth : Nat) (ts us : List Token) :
    depthOver depth (ts ++ us) = (depthOver depth ts).bind (depthOver · us) := by
  induction ts generalizing depth with
  | nil => rfl
  | cons t ts ih =>
      rw [List.cons_append, depthOver_cons, depthOver_cons]
      cases depthAfter depth t with
      | none => rfl
      | some d => exact ih d

/-- Only outside all brackets can a token end a segment. -/
theorem eq_zero_of_depthAfter_eq_none {depth : Nat} {t : Token} (h : depthAfter depth t = none) :
    depth = 0 := by
  -- a closing bracket ends a segment at depth zero, and a comma does
  unfold depthAfter at h
  split_ifs at h with _ _ h0 h1
  · exact h0
  · exact h1.2

/-- Inside further brackets a token does to the depth what it does without them. -/
theorem depthAfter_add {depth d : Nat} {t : Token} (h : depthAfter depth t = some d) (k : Nat) :
    depthAfter (depth + k) t = some (d + k) := by
  unfold depthAfter at h ⊢
  split_ifs at h ⊢ <;> simp_all <;> omega

/-- Inside further brackets tokens do to the depth what they do without them. -/
theorem depthOver_add {depth d : Nat} {ts : List Token} (h : depthOver depth ts = some d)
    (k : Nat) : depthOver (depth + k) ts = some (d + k) := by
  induction ts generalizing depth with
  | nil =>
      cases h
      rfl
  | cons t ts ih =>
      obtain ⟨e, he, hts⟩ := Option.bind_eq_some_iff.1 h
      rw [depthOver_cons, depthAfter_add he k]
      exact ih hts

/-- A closed segment leaves every depth as it was. -/
theorem Closed.depthOver {ts : List Token} (h : Closed ts) (depth : Nat) :
    Segment.depthOver depth ts = some depth := by
  have := depthOver_add h depth
  rwa [Nat.zero_add] at this

/-- Closed segments after one another are closed. -/
theorem Closed.append {ts us : List Token} (hts : Closed ts) (hus : Closed us) :
    Closed (ts ++ us) := by
  rw [Closed, depthOver_append, hts]
  exact hus

/-! ## Single tokens -/

/-- A token that is neither a delimiter nor a comma leaves every depth as it was. -/
theorem depthAfter_of_kind {t : Token} (hd : t.kind ≠ .delimiter) (hc : t.kind ≠ .comma)
    (depth : Nat) : depthAfter depth t = some depth := by
  simp [depthAfter, Token.isOpener, Token.isCloser, hd, hc]

/-- A token that is neither a delimiter nor a comma is closed. -/
theorem closed_of_kind {t : Token} (hd : t.kind ≠ .delimiter) (hc : t.kind ≠ .comma) :
    Closed [t] := by
  rw [Closed, depthOver_cons, depthAfter_of_kind hd hc]
  rfl

/-- The percent sign leaves every depth as it was. -/
theorem closed_percent {t : Token} (h : t.isDelimiter ['%'] = true) : Closed [t] := by
  simp only [Token.isDelimiter, decide_eq_true_eq] at h
  simp [Closed, depthOver_cons, depthAfter, Token.isOpener, Token.isCloser, h.1, h.2]

/-- The texts of the closing brackets. -/
def IsClosing (lexeme : Text) : Prop := lexeme = [')'] ∨ lexeme = [']'] ∨ lexeme = ['\x7d']

/-- The texts of the opening brackets. -/
def IsOpening (lexeme : Text) : Prop := lexeme = ['('] ∨ lexeme = ['['] ∨ lexeme = ['\x7b']

/-- An opening bracket opens one more. -/
theorem depthAfter_opening {t : Token} {lexeme : Text} (h : t.isDelimiter lexeme = true)
    (ho : IsOpening lexeme) (depth : Nat) : depthAfter depth t = some (depth + 1) := by
  simp only [Token.isDelimiter, decide_eq_true_eq] at h
  rw [IsOpening, ← h.2] at ho
  simp [depthAfter, Token.isOpener, h.1, ho]

/-- A closing bracket is a closer and no opener. -/
theorem isCloser_of_isDelimiter {t : Token} {lexeme : Text} (h : t.isDelimiter lexeme = true)
    (hc : IsClosing lexeme) : t.isOpener = false ∧ t.isCloser = true := by
  simp only [Token.isDelimiter, decide_eq_true_eq] at h
  rw [IsClosing, ← h.2] at hc
  refine ⟨?_, by simp [Token.isCloser, h.1, hc]⟩
  -- no bracket both opens and closes
  rcases hc with hc | hc | hc <;> simp [Token.isOpener, hc]

/-- A closing bracket ends a segment in which no bracket is open. -/
theorem depthAfter_closing_zero {t : Token} {lexeme : Text} (h : t.isDelimiter lexeme = true)
    (hc : IsClosing lexeme) : depthAfter 0 t = none := by
  simp [depthAfter, isCloser_of_isDelimiter h hc]

/-- A closing bracket shuts one bracket. -/
theorem depthAfter_closing_succ {t : Token} {lexeme : Text} (h : t.isDelimiter lexeme = true)
    (hc : IsClosing lexeme) (depth : Nat) : depthAfter (depth + 1) t = some depth := by
  simp [depthAfter, isCloser_of_isDelimiter h hc]

/-- A comma is no delimiter. -/
theorem comma_not_bracket {t : Token} (h : t.kind = .comma) :
    t.isOpener = false ∧ t.isCloser = false := by
  simp [Token.isOpener, Token.isCloser, h]

/-- A comma ends a segment in which no bracket is open. -/
theorem depthAfter_comma_zero {t : Token} (h : t.kind = .comma) : depthAfter 0 t = none := by
  simp [depthAfter, comma_not_bracket h, h]

/-- A comma inside brackets leaves the depth as it was. -/
theorem depthAfter_comma_succ {t : Token} (h : t.kind = .comma) (depth : Nat) :
    depthAfter (depth + 1) t = some (depth + 1) := by
  simp [depthAfter, comma_not_bracket h]

/-! ## Rows inside brackets -/

/-- Inside brackets a row of closed segments leaves the depth as it was. -/
theorem depthOver_of_commaJoined {segments : List (List Token)} {ts : List Token}
    (h : CommaJoined segments ts) (hclosed : ∀ s ∈ segments, Closed s) (depth : Nat) :
    depthOver (depth + 1) ts = some (depth + 1) := by
  induction h with
  | none => rfl
  | one ts => exact (hclosed ts List.mem_cons_self).depthOver _
  | @more ts us comma segments hcomma _ _ ih =>
      have hts := (hclosed ts List.mem_cons_self).depthOver (depth + 1)
      have hus := ih fun s hs => hclosed s (List.mem_cons_of_mem _ hs)
      rw [depthOver_append, hts, Option.bind_some, depthOver_cons,
        depthAfter_comma_succ hcomma, Option.bind_some, hus]

/-- A row of closed segments between brackets is closed. -/
theorem closed_brackets {segments : List (List Token)} {ts : List Token} {opening closing : Token}
    {left right : Text} (ho : opening.isDelimiter left = true) (hleft : IsOpening left)
    (hc : closing.isDelimiter right = true) (hright : IsClosing right)
    (h : CommaJoined segments ts) (hclosed : ∀ s ∈ segments, Closed s) :
    Closed (opening :: (ts ++ [closing])) := by
  rw [Closed, depthOver_cons, depthAfter_opening ho hleft, Option.bind_some, depthOver_append,
    depthOver_of_commaJoined h hclosed 0, Option.bind_some, depthOver_cons,
    depthAfter_closing_succ hc hright]
  rfl

end Segment

/-! ## Phrases are closed -/

namespace Grammar

open Segment

/-- The brackets of a collection open it. -/
theorem isOpening_opener (shape : Node.Shape) : IsOpening (opener shape) := by
  cases shape <;> simp [IsOpening, opener]

/-- The brackets of a collection close it. -/
theorem isClosing_closer (shape : Node.Shape) : IsClosing (closer shape) := by
  cases shape <;> simp [IsClosing, closer]

/-- A literal is neither a delimiter nor a comma. -/
theorem IsLiteral.kind_ne {k : Token.Kind} {form : Node.Form} {kind : Node.Kind}
    (h : IsLiteral k form kind) : k ≠ .delimiter ∧ k ≠ .comma := by
  cases h <;> decide

/-- A key of an entry is neither a delimiter nor a comma. -/
theorem IsKey.kind {t : Token} (h : IsKey t) : t.kind ≠ .delimiter ∧ t.kind ≠ .comma := by
  rcases h with h | h | h | h <;> simp [h]

/-- The tokens of a phrase are closed. -/
theorem Derives.closed {φ : Phrase} {ts : List Token} (h : Derives φ ts) : Closed ts := by
  induction h with
  | @moduleAttribute sign name v ts hsign hname _ ih =>
      have hs : Closed [sign] := closed_of_kind (by simp [hsign]) (by simp [hsign])
      have hn : Closed [name] := closed_of_kind (by simp [hname]) (by simp [hname])
      exact hs.append (hn.append ih)
  | @call identifier dot opening closing parts ts hi hd _ ho hc _ hjoined ih =>
      have hs : Closed [identifier] := closed_of_kind (by simp [hi]) (by simp [hi])
      have hn : Closed [dot] := closed_of_kind (by simp [hd]) (by simp [hd])
      refine hs.append (hn.append (closed_brackets ho ?_ hc ?_ hjoined ?_))
      · exact Or.inl rfl
      · exact Or.inl rfl
      · exact List.forall_mem_map.2 ih
  | literal h => exact closed_of_kind h.kind_ne.1 h.kind_ne.2
  | collection ho hc _ hjoined ih =>
      exact closed_brackets ho (isOpening_opener _) hc (isClosing_closer _) hjoined
        (List.forall_mem_map.2 ih)
  | @hashMap sign opening closing parts ts hs ho hc _ hjoined ih =>
      refine (closed_percent hs).append (closed_brackets ho ?_ hc ?_ hjoined ?_)
      · exact Or.inr (Or.inr rfl)
      · exact Or.inr (Or.inr rfl)
      · exact List.forall_mem_map.2 ih
  | @keyword name colon v ts hname hcolon _ ih =>
      simp only [Token.isOperator, decide_eq_true_eq] at hcolon
      have hn : Closed [name] := closed_of_kind hname.kind.1 hname.kind.2
      have hc : Closed [colon] := closed_of_kind (by simp [hcolon.1]) (by simp [hcolon.1])
      exact hn.append (hc.append ih)
  | @arrow k v arrow ts us _ harrow _ ihk ihv =>
      simp only [Token.isOperator, decide_eq_true_eq] at harrow
      have ha : Closed [arrow] := closed_of_kind (by simp [harrow.1]) (by simp [harrow.1])
      exact ihk.append (ha.append ihv)

end Grammar

end ElixirTerms
