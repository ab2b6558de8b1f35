/-
# Lines of outlines

The outline of a program has a line for the program and one for each node, unless an atom between
quotes holds a newline: the lexeme of an atom is shown as it is, while the lexemes of strings and
charlists are shown as quoted texts (`lineCount_programOutline_of_parseText`).
-/
import ElixirTerms.Proofs.Tree.Lexemes
import ElixirTerms.Proofs.Tree.Newlines

namespace ElixirTerms

open Text

namespace Node

/-! ## Entries -/

/-- The newlines in the lexeme of an atom; what is no atom has none. -/
def atomNewlines (n : Node) : Nat := (n.atomLexeme?.getD []).count '\n'

/-- What is no atom, and an atom of one line, has no newlines. -/
theorem atomNewlines_eq_zero_iff (n : Node) :
    n.atomNewlines = 0 ↔ ∀ s ∈ n.atomLexeme?, '\n' ∉ s := by
  unfold atomNewlines
  cases n.atomLexeme? with
  | none => simp
  | some s => simp [List.count_eq_zero]

/-- No label of an outline holds a newline. -/
theorem newline_not_mem_outlineLabel (role : Role) : '\n' ∉ role.outlineLabel := by
  have hname : '\n' ∉ role.name ++ ": ".toList := by
    rw [List.mem_append, not_or]
    exact ⟨role.newline_not_mem_name, by decide⟩
  cases role with
  | entryValue i =>
      show '\n' ∉ "value: ".toList
      decide
  | expression _ | argument _ | value | element _ | key _ => exact hname

/-- What stands before a heading adds no lines to it. -/
theorem lineCount_outlineEntry {label : Text} (h : '\n' ∉ label) (indent : Int) (shown : Text) :
    (outlineEntry indent label shown).lineCount = shown.lineCount := by
  apply lineCount_append_left
  rw [List.mem_append, not_or]
  exact ⟨fun hspace => absurd (List.eq_of_mem_replicate hspace) (by decide), h⟩

/-- A name and parentheses add no lines to what they are around. -/
theorem lineCount_parenthesized {name : Text} (h : '\n' ∉ name) (shown : Text) :
    (parenthesized name shown).lineCount = shown.lineCount := by
  have hopening : '\n' ∉ name ++ "(".toList := by simpa using h
  rw [parenthesized, lineCount_append_right (by decide), lineCount_append_left hopening]

/-! ## Lines of an outline -/

/-- A sum over lists one after the other is the sum of their sums. -/
theorem sum_map_flatMap {α β : Type} (f : β → Nat) (g : α → List β) (as : List α) :
    ((as.flatMap g).map f).sum = (as.map fun a => ((g a).map f).sum).sum := by
  rw [List.map_flatMap, List.flatMap_def, List.sum_flatten, List.map_map]
  rfl

/-- An outline has the lines of the headings of all its nodes. -/
theorem sum_lineCount_outline (n : Node) (indent : Int) {label : Text} (h : '\n' ∉ label) :
    ((n.outline indent label).map lineCount).sum =
      (n.subterms.map fun m => m.heading.lineCount).sum := by
  induction n using children_induction generalizing indent label with
  | step n ih =>
      have hchildren : ∀ child ∈ n.children,
          ((child.2.outline (indent + child.1.outlineIndent) child.1.outlineLabel).map
            lineCount).sum = (child.2.subterms.map fun m => m.heading.lineCount).sum :=
        fun child hchild =>
          ih child.1 child.2 hchild _ (newline_not_mem_outlineLabel child.1)
      rw [outline_eq, subterms_eq, List.map_cons, List.map_cons, List.sum_cons, List.sum_cons,
        lineCount_outlineEntry h, sum_map_flatMap, sum_map_flatMap,
        List.map_congr_left hchildren]

/-- The outline of a node as text has the lines of the headings of all its nodes. -/
theorem lineCount_outlineText (n : Node) (indent : Int) {label : Text} (h : '\n' ∉ label) :
    (n.outlineText indent label).lineCount =
      (n.subterms.map fun m => m.heading.lineCount).sum := by
  rw [outlineText, lineCount_joinLines (by rw [outline_eq]; exact List.cons_ne_nil _ _),
    sum_lineCount_outline n indent h]

/-- The outline of a program has a line of its own over those of its nodes. -/
theorem lineCount_programOutline (ns : List Node) :
    (programOutline ns).lineCount =
      1 + ((subtermsAll ns).map fun m => m.heading.lineCount).sum := by
  have htitle : '\n' ∉ ("Program (" ++ Text.ofNat ns.length ++ " expressions)" : Text) := by
    simp [newline_not_mem_ofNat]
  have hexpressions : ∀ e ∈ expressions ns,
      (e.2.outlineText e.1.outlineIndent e.1.outlineLabel).lineCount =
        (e.2.subterms.map fun m => m.heading.lineCount).sum :=
    fun e _ => lineCount_outlineText e.2 _ (newline_not_mem_outlineLabel e.1)
  rw [programOutline, lineCount_joinLines (List.cons_ne_nil _ _), List.map_cons, List.sum_cons,
    lineCount_of_not_mem htitle, List.map_map, subtermsAll, sum_map_flatMap]
  conv_rhs => rw [← map_snd_expressions ns, List.map_map]
  exact congrArg (1 + List.sum ·) (List.map_congr_left hexpressions)

/-! ## Headings -/

/-- The heading of a node is one line and one more for each newline of an atom, and an atom with
newlines is between quotes, behind a colon. -/
def Headed (n : Node) : Prop :=
  n.heading.lineCount = 1 + n.atomNewlines ∧
    ∀ s ∈ n.atomLexeme?, '\n' ∈ s → ∃ quote ∈ Token.quotes, [':', quote] <+: s

/-- What is no atom and shows no newline is headed by one line. -/
theorem headed_of_not_atom {n : Node} (hatom : n.atomLexeme? = none)
    (hheading : '\n' ∉ n.heading) : n.Headed := by
  constructor
  · rw [lineCount_of_not_mem hheading, atomNewlines, hatom]
    rfl
  · rw [hatom]
    nofun

/-- An atom is headed by as many lines as its lexeme has. -/
theorem headed_atom {kind : Kind} {t : Token}
    (h : '\n' ∈ t.lexeme → ∃ quote ∈ Token.quotes, [':', quote] <+: t.lexeme) :
    (literal .atom kind t).Headed := by
  constructor
  · show (parenthesized "Atom" t.lexeme).lineCount = 1 + t.lexeme.count '\n'
    rw [lineCount_parenthesized (by decide), lineCount_eq, Nat.add_comm]
  · rintro s hs
    cases hs
    exact h

/-- A name in parentheses holds a newline only if what it shows does. -/
theorem newline_not_mem_parenthesized {name shown : Text} (hname : '\n' ∉ name)
    (hshown : '\n' ∉ shown) : '\n' ∉ parenthesized name shown := by
  simp [parenthesized, hname, hshown]

/-- The heading of what is no atom is one line. -/
theorem Lexed.newline_not_mem_heading {n : Node} (h : n.Lexed) (hatom : n.atomLexeme? = none) :
    '\n' ∉ n.heading := by
  cases h with
  | @literal form kind t ht hform =>
      generalize hkind : t.kind = k at hform
      cases hform with
      | number =>
          exact newline_not_mem_parenthesized (by decide) (ht.newline_not_mem (.inr (.inr hkind)))
      | boolean =>
          exact newline_not_mem_parenthesized (by decide) (ht.newline_not_mem (.inr (.inl hkind)))
      | atom => cases hatom
      | string =>
          exact newline_not_mem_parenthesized (by decide) (newline_not_mem_quoted t.lexeme)
      | charlist =>
          exact newline_not_mem_parenthesized (by decide) (newline_not_mem_quoted t.lexeme)
  | keyword p hname hkey => cases hatom
  | call ht hkind =>
      exact newline_not_mem_parenthesized (by decide) (ht.newline_not_mem (.inl hkind))
  | moduleAttribute ht hkind =>
      have hno := ht.newline_not_mem (.inl hkind)
      exact newline_not_mem_parenthesized (by decide) (by simpa using hno)
  | collection shape kind es =>
      cases shape with
      | list =>
          show '\n' ∉ "List".toList
          decide
      | tuple =>
          show '\n' ∉ "Tuple".toList
          decide
  | hashMap kind keys values =>
      show '\n' ∉ "HashMap".toList
      decide

/-- An atom that holds a newline holds it between quotes, behind a colon. -/
theorem Lexed.quoted_of_newline_mem {kind : Kind} {t : Token} (h : Lexed (.literal .atom kind t))
    (hnewline : '\n' ∈ t.lexeme) : ∃ quote ∈ Token.quotes, [':', quote] <+: t.lexeme := by
  cases h with
  | literal ht hform =>
      generalize hkind : t.kind = k at hform
      cases hform
      exact ht.quoted_of_newline_mem hkind hnewline
  | @keyword name p hname hkey =>
      -- the lexeme of a keyword is its name behind a colon
      have hmem : '\n' ∈ name.lexeme := (List.mem_cons.1 hnewline).resolve_left (by decide)
      obtain ⟨r, hr⟩ := hname.quote_of_newline_mem_key hkey hmem
      exact ⟨'"', by decide, r, congrArg (':' :: ·) hr⟩

/-- A node that is read off a text is headed as it is to be. -/
theorem Lexed.headed {n : Node} (h : n.Lexed) : n.Headed := by
  cases hatom : n.atomLexeme? with
  | none => exact headed_of_not_atom hatom (h.newline_not_mem_heading hatom)
  | some s =>
      obtain ⟨kind, t, rfl, -⟩ := atomLexeme?_eq_some hatom
      exact headed_atom h.quoted_of_newline_mem

end Node

namespace Program

open Node

/-- **Lines of an outline.**  The outline of an accepted text has a line for the program, one for
each node, with the keys and the values of a map counted each by itself, and one more for each
newline in the lexeme of an atom.  So it has one line for each node if and only if no atom holds a
newline; and an atom that does stands between quotes. -/
theorem lineCount_programOutline_of_parseText {text : Text} {ns : List Node}
    (h : parseText text = .ok ns) :
    ((programOutline ns).splitOn '\n').length =
        1 + sizeAll ns + ((subtermsAll ns).map atomNewlines).sum ∧
    (((programOutline ns).splitOn '\n').length = 1 + sizeAll ns ↔
      ∀ m ∈ subtermsAll ns, ∀ s ∈ m.atomLexeme?, '\n' ∉ s) ∧
    ∀ m ∈ subtermsAll ns, ∀ s ∈ m.atomLexeme?, '\n' ∈ s →
      ∃ quote ∈ Token.quotes, [':', quote] <+: s := by
  have hderives := Grammar.derivesAll_of_parse h
  have hheaded : ∀ m ∈ subtermsAll ns, m.Headed := fun m hm => (lexed_of_parseText h m hm).headed
  have hlines : ((programOutline ns).splitOn '\n').length =
      1 + sizeAll ns + ((subtermsAll ns).map atomNewlines).sum := by
    show (programOutline ns).lineCount = _
    rw [lineCount_programOutline, List.map_congr_left fun m hm => (hheaded m hm).1,
      List.sum_map_add, List.map_const', List.sum_replicate, smul_eq_mul, Nat.mul_one,
      Grammar.length_subtermsAll_of_derives hderives.forall_derives, Nat.add_assoc]
  refine ⟨hlines, ?_, fun m hm => (hheaded m hm).2⟩
  rw [hlines, Nat.add_eq_left, List.sum_eq_zero_iff, List.forall_mem_map]
  exact forall₂_congr fun m _ => m.atomNewlines_eq_zero_iff

/-- A map with a string over two lines for its value is shown on four lines. -/
theorem lineCount_programOutline_of_string :
    ∃ ns, parseText "%\x7bk: \"a\nb\"\x7d" = .ok ns ∧ sizeAll ns = 3 ∧
      ((programOutline ns).splitOn '\n').length = 4 := by
  have h : parseText "%\x7bk: \"a\nb\"\x7d" = .ok [.hashMap .hashMap
      [.literal .atom .atom ⟨.atom, [':', 'k'], ⟨1, 3⟩⟩]
      [.literal .string .string ⟨.string, "\"a\nb\"", ⟨1, 6⟩⟩]] := by cbv
  have hsize : sizeAll [.hashMap .hashMap
      [.literal .atom .atom ⟨.atom, [':', 'k'], ⟨1, 3⟩⟩]
      [.literal .string .string ⟨.string, "\"a\nb\"", ⟨1, 6⟩⟩]] = 3 := by cbv
  refine ⟨_, h, hsize, ?_⟩
  have hlines := (lineCount_programOutline_of_parseText h).2.1.2 ?_
  · rw [hlines, hsize]
  · simp [subtermsAll, subterms_eq_parts, atomLexeme?]

/-- An atom over two lines is shown on two lines, below that of the program. -/
theorem lineCount_programOutline_of_atom :
    ∃ ns, parseText ":\"a\nb\"" = .ok ns ∧ sizeAll ns = 1 ∧
      ((programOutline ns).splitOn '\n').length = 3 := by
  have h : parseText ":\"a\nb\"" = .ok [.literal .atom .atom ⟨.atom, ":\"a\nb\"", ⟨1, 1⟩⟩] := by
    cbv
  refine ⟨_, h, by cbv, ?_⟩
  show (programOutline _).lineCount = 3
  rw [lineCount_programOutline, subtermsAll, List.flatMap_singleton, subterms_eq_parts,
    parts_literal]
  show 1 + ((parenthesized "Atom" ":\"a\nb\"").lineCount + 0) = 3
  rw [lineCount_eq]
  decide

end Program

end ElixirTerms
