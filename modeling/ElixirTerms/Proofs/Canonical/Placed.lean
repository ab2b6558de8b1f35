/-
# Where dots and colons stand

In a program a dot stands right behind an identifier, and an operator that is no arrow right behind
a name with which an entry of a map starts (`Derives.placed`).  Tokens of which this is not true are
no program.
-/
import Mathlib.Data.List.Induction
import ElixirTerms.Proofs.Grammar.Basic

namespace ElixirTerms.Grammar

/-! ## Tokens behind others -/

/-- A token that may stand before an element or an entry: a comma or a bracket. -/
def Separates (t : Token) : Prop := t.kind = .comma ∨ t.kind = .delimiter

/-- A token may stand behind some others, as far as dots and operators go. -/
structure Follows (before : List Token) (t : Token) : Prop where
  /-- A dot comes right after an identifier. -/
  dot : t.kind = .dot → ∃ name, before.getLast? = some name ∧ name.kind = .identifier
  /-- An operator that is no arrow comes right after a name, before which a row starts or goes
  on. -/
  colon : t.kind = .operator → t.lexeme ≠ ['=', '>'] →
    ∃ others separator name, before = others ++ [separator, name] ∧ Separates separator ∧ IsKey name

/-- All dots and operators of a list of tokens stand where they may. -/
def Placed (ts : List Token) : Prop :=
  ∀ before t after, ts = before ++ t :: after → Follows before t

/-- What may stand behind some tokens may do so wherever these stand. -/
theorem Follows.append {before : List Token} {t : Token} (h : Follows before t)
    (ts : List Token) : Follows (ts ++ before) t where
  dot hdot := by
    obtain ⟨name, hlast, hname⟩ := h.dot hdot
    refine ⟨name, ?_, hname⟩
    rw [List.getLast?_append, hlast]
    rfl
  colon hoperator hcolon := by
    obtain ⟨others, separator, name, rfl, hseparator, hname⟩ := h.colon hoperator hcolon
    exact ⟨ts ++ others, separator, name, (List.append_assoc _ _ _).symm, hseparator, hname⟩

/-- A token that is neither a dot nor an operator may stand anywhere. -/
theorem follows_of_kind {t : Token} (hdot : t.kind ≠ .dot) (hoperator : t.kind ≠ .operator)
    (before : List Token) : Follows before t :=
  ⟨fun h => absurd h hdot, fun h => absurd h hoperator⟩

/-- An arrow may stand anywhere. -/
theorem follows_arrow {t : Token} (h : t.isOperator ['=', '>'] = true) (before : List Token) :
    Follows before t := by
  simp only [Token.isOperator, decide_eq_true_eq] at h
  exact ⟨fun hdot => absurd (h.1.symm.trans hdot) (by decide), fun _ hne => absurd h.2 hne⟩

/-! ## Lists of tokens -/

theorem placed_nil : Placed [] := by
  intro before t after h
  simp at h

/-- Tokens stand where they may if the last one does and the others do. -/
theorem placed_concat_iff {ts : List Token} {t : Token} :
    Placed (ts ++ [t]) ↔ Placed ts ∧ Follows ts t := by
  constructor
  · intro h
    refine ⟨?_, h ts t [] rfl⟩
    intro before u after hsplit
    exact h before u (after ++ [t]) (by simp [hsplit])
  · rintro ⟨hts, ht⟩ before u after hsplit
    rcases List.eq_nil_or_concat after with rfl | ⟨after', v, rfl⟩
    · obtain ⟨rfl, hu⟩ := List.append_inj' hsplit rfl
      cases hu
      exact ht
    · rw [List.concat_eq_append, ← List.cons_append, ← List.append_assoc] at hsplit
      exact hts before u after' (List.append_inj' hsplit rfl).1

/-- Tokens that stand where they may do so behind others. -/
theorem Placed.append {ts us : List Token} (hts : Placed ts) (hus : Placed us) :
    Placed (ts ++ us) := by
  induction us using List.reverseRecOn with
  | nil => rwa [List.append_nil]
  | append_singleton us u ih =>
      obtain ⟨hinit, hlast⟩ := placed_concat_iff.1 hus
      rw [← List.append_assoc, placed_concat_iff]
      exact ⟨ih hinit, hlast.append ts⟩

/-- A token that may stand at the start may stand alone. -/
theorem placed_singleton {t : Token} (h : Follows [] t) : Placed [t] :=
  placed_concat_iff.2 ⟨placed_nil, h⟩

/-- A token that is neither a dot nor an operator may stand alone. -/
theorem placed_of_kind {t : Token} (hdot : t.kind ≠ .dot) (hoperator : t.kind ≠ .operator) :
    Placed [t] :=
  placed_singleton (follows_of_kind hdot hoperator [])

/-- A delimiter may stand alone. -/
theorem placed_delimiter {t : Token} {lexeme : Text} (h : t.isDelimiter lexeme = true) :
    Placed [t] := by
  simp only [Token.isDelimiter, decide_eq_true_eq] at h
  exact placed_of_kind (by simp [h.1]) (by simp [h.1])

/-- What separates elements may stand alone. -/
theorem Separates.placed {t : Token} (h : Separates t) : Placed [t] := by
  rcases h with h | h <;> exact placed_of_kind (by simp [h]) (by simp [h])

/-- A bracket separates. -/
theorem separates_of_isDelimiter {t : Token} {lexeme : Text} (h : t.isDelimiter lexeme = true) :
    Separates t := by
  simp only [Token.isDelimiter, decide_eq_true_eq] at h
  exact Or.inr h.1

/-! ## Phrases -/

/-- The tokens of a phrase stand where they may; those of an entry do behind what separates it from
the others. -/
def Phrase.Placed : Phrase → List Token → Prop
  | .expression _, ts => Grammar.Placed ts
  | .entry _ _, ts => ∀ separator, Separates separator → Grammar.Placed (separator :: ts)

/-- The tokens of a phrase stand where they may behind what separates it from others. -/
theorem Phrase.Placed.cons {φ : Phrase} {ts : List Token} (h : φ.Placed ts) {separator : Token}
    (hseparator : Separates separator) : Grammar.Placed (separator :: ts) := by
  cases φ with
  | expression n => exact hseparator.placed.append h
  | entry k v => exact h separator hseparator

/-- The tokens of a row stand where they may behind what the row starts with. -/
theorem placed_of_commaJoined {segments : List (List Token)} {ts : List Token}
    (h : CommaJoined segments ts)
    (hsegments : ∀ s ∈ segments, ∀ separator, Separates separator → Placed (separator :: s))
    {opening : Token} (hopening : Separates opening) : Placed (opening :: ts) := by
  induction h generalizing opening with
  | none => exact hopening.placed
  | one ts => exact hsegments ts List.mem_cons_self opening hopening
  | @more ts us comma segments hcomma _ _ ih =>
      have hts := hsegments ts List.mem_cons_self opening hopening
      have hus := ih (fun s hs => hsegments s (List.mem_cons_of_mem _ hs)) (Or.inl hcomma)
      exact hts.append hus

/-- The tokens of a row of phrases between brackets stand where they may. -/
theorem placed_brackets {α : Type} (phrase : α → Phrase) {parts : List (List Token × α)}
    {ts : List Token} (hparts : ∀ part ∈ parts, (phrase part.2).Placed part.1)
    (hjoined : CommaJoined (parts.map (·.1)) ts) {opening closing : Token} {left right : Text}
    (ho : opening.isDelimiter left = true) (hc : closing.isDelimiter right = true) :
    Placed (opening :: (ts ++ [closing])) := by
  refine (placed_of_commaJoined hjoined ?_ (separates_of_isDelimiter ho)).append
    (placed_delimiter hc)
  rw [List.forall_mem_map]
  intro part hpart separator hseparator
  exact (hparts part hpart).cons hseparator

/-- **Phrases.**  The tokens that the grammar derives stand where they may. -/
theorem Derives.placed {φ : Phrase} {ts : List Token} (h : Derives φ ts) : φ.Placed ts := by
  induction h with
  | @moduleAttribute sign name v ts hsign hname _ ih =>
      have hs : Placed [sign] := placed_of_kind (by simp [hsign]) (by simp [hsign])
      have hn : Placed [name] := placed_of_kind (by simp [hname]) (by simp [hname])
      exact hs.append (hn.append ih)
  | @call identifier dot opening closing parts ts hi hd _ ho hc _ hjoined ih =>
      have hname : Placed [identifier] := placed_of_kind (by simp [hi]) (by simp [hi])
      have hdot : Placed [identifier, dot] := by
        refine placed_concat_iff.2 ⟨hname, fun _ => ⟨identifier, rfl, hi⟩, ?_⟩
        intro hoperator
        rw [hd] at hoperator
        cases hoperator
      exact hdot.append (placed_brackets .expression ih hjoined ho hc)
  | literal hform =>
      have hkinds : ∀ k ∈ literalKinds, k ≠ .dot ∧ k ≠ .operator := by decide
      have hkind := hkinds _ hform.mem_literalKinds
      exact placed_of_kind hkind.1 hkind.2
  | collection ho hc _ hjoined ih =>
      exact placed_brackets .expression ih hjoined ho hc
  | @hashMap sign opening closing parts ts hs ho hc _ hjoined ih =>
      have hentries := placed_brackets (fun entry : Node × Node => .entry entry.1 entry.2) ih
        hjoined ho hc
      exact (placed_delimiter hs).append hentries
  | @keyword name colon v ts hname hcolon _ ih =>
      intro separator hseparator
      simp only [Token.isOperator, decide_eq_true_eq] at hcolon
      have hkind : name.kind ≠ .dot ∧ name.kind ≠ .operator := by
        rcases hname with h | h | h | ⟨h, -⟩ <;> simp [h]
      have hstart : Placed [separator, name] :=
        hseparator.placed.append (placed_of_kind hkind.1 hkind.2)
      have hentry : Placed [separator, name, colon] := by
        refine placed_concat_iff.2 ⟨hstart, ?_, ?_⟩
        · intro hdot
          rw [hcolon.1] at hdot
          cases hdot
        · exact fun _ _ => ⟨[], separator, name, rfl, hseparator, hname⟩
      exact hentry.append ih
  | @arrow k v arrow ts us _ harrow _ ihk ihv =>
      intro separator hseparator
      have harrow' : Placed [arrow] := placed_singleton (follows_arrow harrow [])
      exact (hseparator.placed.append ihk).append (harrow'.append ihv)

/-- **Programs.**  The tokens of a program stand where they may. -/
theorem DerivesAll.placed {ns : List Node} {ts : List Token} (h : DerivesAll ns ts) :
    Placed ts := by
  induction h with
  | nil => exact placed_nil
  | cons hn _ ih => exact Placed.append hn.placed ih

end ElixirTerms.Grammar
