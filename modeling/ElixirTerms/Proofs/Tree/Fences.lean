/-
# Newlines before quotes

Where what is read off a text is written again, a newline comes from a literal between quotes, so a
quote follows it (`Fenced`).  This holds of canonical source (`fenced_source`) and of every heading
of an outline (`fenced_heading`).
-/
import ElixirTerms.Proofs.Literals
import ElixirTerms.Proofs.Tree.Outline

namespace ElixirTerms

/-! ## Fenced texts -/

namespace Text

/-- A text in which a quote follows every newline. -/
def Fenced (s : Text) : Prop :=
  ∀ lead rest, s = lead ++ '\n' :: rest → ∃ quote ∈ Token.quotes, quote ∈ rest

variable {s t lead rest : Text} {c quote : Char}

/-- A character of an append stands behind the seam or before it. -/
theorem split_of_append_eq (h : s ++ t = lead ++ c :: rest) :
    (∃ between, t = between ++ c :: rest) ∨
      ∃ between, s = lead ++ c :: between ∧ rest = between ++ t := by
  rcases List.append_eq_append_iff.1 h with ⟨between, -, hbehind⟩ | ⟨between, hbefore, hseam⟩
  · exact Or.inl ⟨between, hbehind⟩
  · cases between with
    | nil => exact Or.inl ⟨[], hseam.symm⟩
    | cons d between =>
        obtain ⟨rfl, hrest⟩ := List.cons.inj hseam
        exact Or.inr ⟨between, hbefore, hrest⟩

/-- What holds of the empty text, and of one text behind another if it holds of both, holds of parts
with a separator between neighbours. -/
theorem intercalate_of_append {p : Text → Prop} (hnil : p [])
    (happend : ∀ s t, p s → p t → p (s ++ t)) {separator : Text} (hseparator : p separator)
    {parts : List Text} (h : ∀ part ∈ parts, p part) : p (separator.intercalate parts) := by
  induction parts with
  | nil => exact hnil
  | cons s parts ih =>
      rw [List.forall_mem_cons] at h
      cases parts with
      | nil =>
          rw [List.intercalate_singleton]
          exact h.1
      | cons t parts =>
          rw [List.intercalate_cons_cons]
          exact happend _ _ (happend _ _ h.1 hseparator) (ih h.2)

/-- A text without newlines is fenced. -/
theorem fenced_of_not_mem (h : '\n' ∉ s) : Fenced s := by
  rintro lead rest rfl
  exact absurd (List.mem_append_right lead List.mem_cons_self) h

/-- A newline in front of a fenced text with a quote is followed by this quote. -/
theorem fenced_append_of_quote (hquote : quote ∈ Token.quotes) (hmem : quote ∈ t) (ht : Fenced t)
    (s : Text) : Fenced (s ++ t) := by
  intro lead rest h
  rcases split_of_append_eq h with ⟨between, hbehind⟩ | ⟨between, -, rfl⟩
  · exact ht between rest hbehind
  · exact ⟨quote, hquote, List.mem_append_right between hmem⟩

/-- A text that ends with a quote is fenced. -/
theorem fenced_of_quote_suffix (hquote : quote ∈ Token.quotes) (h : [quote] <:+ s) : Fenced s := by
  obtain ⟨lead, rfl⟩ := h
  refine fenced_append_of_quote hquote (List.mem_singleton_self quote) (fenced_of_not_mem ?_) lead
  rw [List.mem_singleton]
  rintro rfl
  exact absurd hquote (by decide)

/-- Fenced texts one after the other are fenced. -/
theorem Fenced.append (hs : Fenced s) (ht : Fenced t) : Fenced (s ++ t) := by
  intro lead rest h
  rcases split_of_append_eq h with ⟨between, hbehind⟩ | ⟨between, hbefore, rfl⟩
  · exact ht between rest hbehind
  · obtain ⟨quote, hquote, hmem⟩ := hs lead between hbefore
    exact ⟨quote, hquote, List.mem_append_left t hmem⟩

/-- The ends of a fenced text are fenced. -/
theorem Fenced.of_append (h : Fenced (s ++ t)) : Fenced t := by
  rintro lead rest rfl
  exact h (s ++ lead) rest (List.append_assoc s lead _).symm

/-- Fenced parts stay so between commas. -/
theorem fenced_commaSeparated {parts : List Text} (h : ∀ part ∈ parts, Fenced part) :
    Fenced (commaSeparated parts) := by
  have hnil : Fenced [] := fenced_of_not_mem List.not_mem_nil
  have hcomma : Fenced (", " : Text) := fenced_of_not_mem (by decide)
  exact intercalate_of_append hnil (fun _ _ => Fenced.append) hcomma h

end Text

open Text

/-! ## Fenced lexemes -/

namespace Extent

open Token Unicode

/-- A quoted literal ends with its quote. -/
theorem quote_suffix_of_quoted {quote : Char} (hquote : quote ∈ quotes) {kind : Kind} {s u : Text}
    (hkind : (quoted quote kind (quote :: (s ++ u))).kind ≠ .illegal)
    (hlength : (quoted quote kind (quote :: (s ++ u))).length = s.length + 1) :
    [quote] <:+ quote :: s := by
  obtain ⟨found, hfinds, hfound⟩ :=
    exists_finds_literal (ne_backslash_of_mem_quotes hquote) kind (s ++ u)
  rw [hfound] at hkind hlength
  cases found with
  | none => exact absurd rfl hkind
  | some n =>
      obtain ⟨literal, hshortest, rfl⟩ := hfinds
      obtain ⟨later, hlater⟩ := hshortest.begins
      have hsame : literal.length = (quote :: s).length := hlength
      have hliteral : literal = quote :: s := (List.append_inj hlater hsame).1
      have hholds := hshortest.holds
      rw [← hliteral]
      unfold Literal at hholds
      split at hholds
      · obtain ⟨units, -, rfl⟩ := hholds
        exact ⟨[quote, quote, quote] ++ units ++ [quote, quote], by simp⟩
      · obtain ⟨units, -, rfl⟩ := hholds
        exact ⟨[quote] ++ units, rfl⟩

/-- A string or a charlist starts with its quote. -/
theorem quoted_of_scan_kind {c : Char} {s : Text}
    (h : (scan c s).kind = .string ∨ (scan c s).kind = .charlist) :
    c ∈ quotes ∧ ∃ kind, scan c s = quoted c kind (c :: s) := by
  cases start c with
  | string hc hscan | charlist hc hscan => exact ⟨hc ▸ by decide, _, hscan s⟩
  | whitespace _ hscan | comma _ hscan | atSign _ hscan | comment _ hscan | dot _ hscan =>
      rw [hscan] at h
      simp [comment] at h
  | codepoint _ hscan =>
      rw [hscan, codepoint_kind] at h
      simp at h
  | atom _ hscan =>
      rw [hscan] at h
      have hkind := atom?_getD_kind c s
      rcases h with h | h
      all_goals
        rw [h] at hkind
        exact absurd hkind (by decide)
  | plain _ _ _ hscan =>
      rw [hscan] at h
      rcases h with h | h
      all_goals exact absurd h (plain_kind_ne (by decide))

end Extent

namespace Token

open Extent Unicode

/-- The lexeme of a string or a charlist is fenced. -/
theorem Lexed.fenced_quoted {t : Token} (ht : Lexed t)
    (hkind : t.kind = .string ∨ t.kind = .charlist) : Fenced t.lexeme := by
  obtain ⟨c, s, u, hlexeme, hscan⟩ := ht
  obtain ⟨hquote, kind, hquoted⟩ := quoted_of_scan_kind (c := c) (s := s ++ u) (hscan ▸ hkind)
  rw [hquoted] at hscan
  have hlegal : (Extent.quoted c kind (c :: (s ++ u))).kind ≠ .illegal := by
    rw [hscan]
    rcases hkind with hkind | hkind
    all_goals
      rw [hkind]
      nofun
  rw [hlexeme]
  exact fenced_of_quote_suffix hquote
    (quote_suffix_of_quoted hquote hlegal (congrArg Extent.length hscan))

/-- The lexeme of an atom is fenced. -/
theorem Lexed.fenced_atom {t : Token} (ht : Lexed t) (hkind : t.kind = .atom) :
    Fenced t.lexeme := by
  by_cases hnewline : '\n' ∈ t.lexeme
  · obtain ⟨quote, hquote, hopening⟩ := ht.quoted_of_newline_mem hkind hnewline
    obtain ⟨c, s, u, hlexeme, hscan⟩ := ht
    rw [hkind] at hscan
    obtain ⟨a, r, rfl, hatom⟩ := second_of_atom hscan
    rw [hlexeme] at hopening ⊢
    obtain ⟨rfl, -⟩ := List.cons_prefix_cons.1 (List.cons_prefix_cons.1 hopening).2
    rcases hatom with ⟨-, -, hlength, hquoted⟩ | ⟨hword, -⟩
    · have hends := quote_suffix_of_quoted hquote (by rw [hquoted]; decide) hlength
      exact fenced_of_quote_suffix hquote (hends.trans (List.suffix_cons c _))
    · have hno : ∀ q ∈ quotes, (isAlphanumeric q || decide (q = '_')) = false := by decide
      rw [hno quote hquote] at hword
      cases hword
  · exact fenced_of_not_mem hnewline

/-- The lexeme of a literal is fenced. -/
theorem Lexed.fenced_literal {t : Token} (ht : Lexed t) {form : Node.Form} {kind : Node.Kind}
    (hform : Grammar.IsLiteral t.kind form kind) : Fenced t.lexeme := by
  generalize hkind : t.kind = k at hform
  cases hform with
  | number => exact fenced_of_not_mem (ht.newline_not_mem (.inr (.inr hkind)))
  | boolean => exact fenced_of_not_mem (ht.newline_not_mem (.inr (.inl hkind)))
  | atom => exact ht.fenced_atom hkind
  | string => exact ht.fenced_quoted (.inl hkind)
  | charlist => exact ht.fenced_quoted (.inr hkind)

/-- A name before a colon is fenced. -/
theorem Lexed.fenced_key {t : Token} (ht : Lexed t) (hkey : Grammar.IsKey t) : Fenced t.lexeme := by
  rcases hkey with hkind | hkind | hkind | ⟨hkind, -⟩
  · exact fenced_of_not_mem (ht.newline_not_mem (.inl hkind))
  · exact fenced_of_not_mem (ht.newline_not_mem (.inr (.inl hkind)))
  · exact ht.fenced_quoted (.inl hkind)
  · exact ht.fenced_atom hkind

end Token

/-! ## Fenced nodes -/

namespace Node

/-- What stands between fenced brackets is fenced. -/
theorem fenced_enclose (shape : Shape) {s : Text} (h : Fenced s) : Fenced (shape.enclose s) := by
  have hbracket (c : Char) (hc : c ≠ '\n') : Fenced [c] := fenced_of_not_mem (by simp [hc.symm])
  cases shape with
  | list => exact ((hbracket '[' (by decide)).append h).append (hbracket ']' (by decide))
  | tuple => exact ((hbracket '\x7b' (by decide)).append h).append (hbracket '\x7d' (by decide))

/-- The name of an atom is an end of its lexeme. -/
theorem fenced_atomName {s : Text} (h : Fenced s) : Fenced (atomName s) := by
  unfold atomName
  split
  · exact Fenced.of_append (s := [':']) h
  · exact h

/-- An entry is fenced if its key and its value are. -/
theorem fenced_entrySource {entry : Node × Node} (hkey : Fenced entry.1.source)
    (hvalue : Fenced entry.2.source) : Fenced (entrySource entry) := by
  refine Fenced.append ?_ hvalue
  cases hatom : entry.1.atomLexeme? with
  | none =>
      rw [keySource_of_not_atom hatom]
      exact hkey.append (fenced_of_not_mem (by decide))
  | some s =>
      obtain ⟨kind, t, hnode, hs⟩ := atomLexeme?_eq_some hatom
      rw [keySource_of_atom hatom]
      have hlexeme : entry.1.source = s := by rw [hnode, source, hs]
      exact (fenced_atomName (hlexeme ▸ hkey)).append (fenced_of_not_mem (by decide))

/-- The source of a node is fenced if those of its parts are. -/
theorem Lexed.fenced_source_of_parts {n : Node} (h : n.Lexed)
    (hparts : ∀ part ∈ n.parts, Fenced part.source) : Fenced n.source := by
  cases h with
  | literal ht hform =>
      rw [source]
      exact ht.fenced_literal hform
  | @keyword name p hname hkey =>
      rw [source]
      exact (fenced_of_not_mem (s := [':']) (by decide)).append (hname.fenced_key hkey)
  | @call kind t args ht hkind =>
      rw [parts_call] at hparts
      have hargs := fenced_commaSeparated (List.forall_mem_map.2 hparts)
      have hname := fenced_of_not_mem (ht.newline_not_mem (.inl hkind))
      rw [source]
      exact ((hname.append (fenced_of_not_mem (by decide))).append hargs).append
        (fenced_of_not_mem (by decide))
  | @moduleAttribute kind t v ht hkind =>
      rw [parts_moduleAttribute, List.forall_mem_singleton] at hparts
      have hname := fenced_of_not_mem (ht.newline_not_mem (.inl hkind))
      rw [source]
      exact (((fenced_of_not_mem (by decide)).append hname).append
        (fenced_of_not_mem (by decide))).append hparts
  | collection shape kind es =>
      rw [parts_collection] at hparts
      rw [source]
      exact fenced_enclose shape (fenced_commaSeparated (List.forall_mem_map.2 hparts))
  | hashMap kind keys values =>
      rw [parts_hashMap, List.forall_mem_flatMap] at hparts
      have hentries : ∀ s ∈ (keys.zip values).map entrySource, Fenced s := by
        rw [List.forall_mem_map]
        intro entry hentry
        have hentry := hparts entry hentry
        exact fenced_entrySource (hentry _ (by simp)) (hentry _ (by simp))
      rw [source_hashMap]
      exact (fenced_of_not_mem (s := ['%', '\x7b']) (by decide)).append
        ((fenced_commaSeparated hentries).append (fenced_of_not_mem (by decide)))

/-- The source of what is read off a text is fenced. -/
theorem fenced_source {n : Node} (h : ∀ m ∈ n.subterms, m.Lexed) : Fenced n.source := by
  induction n using children_induction with
  | step n ih =>
      obtain ⟨hn, hbelow⟩ := (forall_subterms_iff n).1 h
      refine hn.fenced_source_of_parts ?_
      intro part hpart
      obtain ⟨⟨role, child⟩, hchild, rfl⟩ := List.mem_map.1 hpart
      exact ih role child hchild (hbelow child hpart)

/-- The heading of what is read off a text is fenced. -/
theorem Lexed.fenced_heading {n : Node} (h : n.Lexed) : Fenced n.heading := by
  cases hatom : n.atomLexeme? with
  | none => exact fenced_of_not_mem (h.newline_not_mem_heading hatom)
  | some s =>
      -- the heading of an atom shows its lexeme, which is its source
      obtain ⟨kind, t, rfl, -⟩ := atomLexeme?_eq_some hatom
      have hlexeme := h.fenced_source_of_parts nofun
      rw [source] at hlexeme
      exact ((fenced_of_not_mem (s := "Atom(") (by decide)).append hlexeme).append
        (fenced_of_not_mem (by decide))

end Node

end ElixirTerms
