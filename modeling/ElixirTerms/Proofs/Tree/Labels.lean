/-
# Labels show their source

In the markup of a label a source is written so that it cannot be taken for markup: every character
that means something there belongs to one of six marks (`special_of_markup`), and replacing these
marks by their characters gives the source back (`shown_markup`).
-/
import Mathlib
import ElixirTerms.Graph.Label

namespace ElixirTerms.Graph

open Unicode (isBlank)

/-! ## Reading markup -/

/-- The entities, with the characters for which they stand. -/
def entities : List (Text × Char) :=
  [("&amp;", '&'), ("&lt;", '<'), ("&gt;", '>'), ("&quot;", '"'), ("&#x27;", '\'')]

/-- The marks that stand for a character: the entities, and the tag for a newline. -/
def marks : List (Text × Char) := ("<br/>", '\n') :: entities

/-- The text that is shown by markup: every mark is replaced by its character. -/
def shown (s : Text) : Text :=
  match s with
  | [] => []
  | c :: s =>
    match marks.find? (·.1.isPrefixOf (c :: s)) with
    | some mark => mark.2 :: shown (s.drop (mark.1.length - 1))
    | none => c :: shown s
termination_by s.length
decreasing_by
  · simp only [List.length_drop, List.length_cons]
    omega
  · exact Nat.lt_succ_self _

/-- The characters that do not stand for themselves. -/
def special : List Char := marks.map (·.2)

/-- What is written for a character is the mark that stands for it, or the character itself. -/
theorem markupChar_cases (c : Char) :
    (∃ mark ∈ marks, mark.2 = c ∧ markupChar c = mark.1) ∨
      (c ∉ special ∧ markupChar c = [c]) := by
  unfold markupChar
  split
  · exact Or.inl ⟨("&amp;", '&'), by decide, rfl, rfl⟩
  · exact Or.inl ⟨("&lt;", '<'), by decide, rfl, rfl⟩
  · exact Or.inl ⟨("&gt;", '>'), by decide, rfl, rfl⟩
  · exact Or.inl ⟨("&quot;", '"'), by decide, rfl, rfl⟩
  · exact Or.inl ⟨("&#x27;", '\''), by decide, rfl, rfl⟩
  · exact Or.inl ⟨("<br/>", '\n'), by decide, rfl, rfl⟩
  · rename_i hamp hlt hgt hquote hapostrophe hnewline
    refine Or.inr ⟨?_, rfl⟩
    simp only [special, marks, entities, List.map_cons, List.map_nil, List.mem_cons,
      List.not_mem_nil, or_false, not_or]
    exact ⟨hnewline, hamp, hlt, hgt, hquote, hapostrophe⟩

/-- The markup of a text is that of its first character before that of the others. -/
theorem markup_cons (c : Char) (s : Text) : markup (c :: s) = markupChar c ++ markup s :=
  List.flatMap_cons

/-- A mark at the head of a text is replaced by its character. -/
theorem shown_mark {mark : Text × Char} (h : mark ∈ marks) (s : Text) :
    shown (mark.1 ++ s) = mark.2 :: shown s := by
  simp only [marks, entities, List.mem_cons, List.not_mem_nil, or_false] at h
  -- no mark is the beginning of another, so the first one that is found is this one
  rcases h with rfl | rfl | rfl | rfl | rfl | rfl
  all_goals
    conv_lhs => rw [shown.eq_def]
    rfl

/-- No mark starts with a character that stands for itself. -/
theorem find?_marks {c : Char} (h : c ∉ special) (s : Text) :
    marks.find? (·.1.isPrefixOf (c :: s)) = none := by
  rw [List.find?_eq_none]
  intro mark hmark hprefix
  simp only [marks, entities, List.mem_cons, List.not_mem_nil, or_false] at hmark
  apply h
  rcases hmark with rfl | rfl | rfl | rfl | rfl | rfl
  all_goals
    obtain ⟨rfl, -⟩ : _ = c ∧ _ := by simpa using hprefix
    simp [special, marks, entities]

/-- **Markup shows its text.** -/
theorem shown_markup (s : Text) : shown (markup s) = s := by
  induction s with
  | nil =>
      show shown [] = []
      rw [shown]
  | cons c s ih =>
      rw [markup_cons]
      rcases markupChar_cases c with ⟨mark, hmark, rfl, hchar⟩ | ⟨hplain, hchar⟩
      · rw [hchar, shown_mark hmark, ih]
      · rw [hchar, List.singleton_append, shown, find?_marks hplain]
        exact congrArg _ ih

/-! ## Marks in markup -/

/-- **Nothing in markup is taken for markup.**  Wherever a special character stands in the markup of
a text, it belongs to a mark. -/
theorem special_of_markup (s : Text) {i : Nat} {c : Char} (hi : (markup s)[i]? = some c)
    (hc : c ∈ special) :
    ∃ mark ∈ marks, ∃ k ≤ i, mark.1[k]? = some c ∧ mark.1 <+: (markup s).drop (i - k) := by
  induction s generalizing i with
  | nil => cases hi
  | cons d s ih =>
      rw [markup_cons] at hi ⊢
      by_cases hlt : i < (markupChar d).length
      · rw [List.getElem?_append_left hlt] at hi
        rcases markupChar_cases d with ⟨mark, hmark, -, hchar⟩ | ⟨hplain, hchar⟩
        · rw [hchar] at hi ⊢
          refine ⟨mark, hmark, i, Nat.le_refl i, hi, ?_⟩
          rw [Nat.sub_self, List.drop_zero]
          exact List.prefix_append _ _
        · rw [hchar] at hi
          have hcd : c = d := by
            have hmem := List.mem_of_getElem? hi
            exact List.mem_singleton.1 hmem
          exact absurd (hcd ▸ hc) hplain
      · -- behind the first character the marks are those of the other characters
        rw [List.getElem?_append_right (by omega)] at hi
        obtain ⟨mark, hmark, k, hk, hget, hprefix⟩ := ih hi
        refine ⟨mark, hmark, k, by omega, hget, ?_⟩
        have hplace : i - k = (markupChar d).length + (i - (markupChar d).length - k) := by omega
        rwa [hplace, List.drop_length_add_append]

/-! ## Well-formed markup -/

/-- The markup shows the text, and nothing in it is taken for other markup than it is: an angle
bracket belongs to a tag for a newline, there is no quote, and an ampersand starts an entity. -/
structure Shows (content s : Text) : Prop where
  opens : ∀ i, content[i]? = some '<' → "<br/>".toList <+: content.drop i
  closes : ∀ i, content[i]? = some '>' → 4 ≤ i ∧ "<br/>".toList <+: content.drop (i - 4)
  double : '"' ∉ content
  single : '\'' ∉ content
  entity : ∀ i, content[i]? = some '&' → ∃ e ∈ entities, e.1 <+: content.drop i
  shown_eq : shown content = s

/-- A special character that no mark holds is not in markup. -/
theorem not_mem_markup {c : Char} (hc : c ∈ special) (hmarks : ∀ mark ∈ marks, c ∉ mark.1)
    (s : Text) : c ∉ markup s := by
  intro hmem
  obtain ⟨i, hi⟩ := List.getElem?_of_mem hmem
  obtain ⟨mark, hmark, k, -, hget, -⟩ := special_of_markup s hi hc
  exact hmarks mark hmark (List.mem_of_getElem? hget)

/-- In a mark an angle bracket is at one of the ends of the tag for a newline, and an ampersand at
the start of an entity. -/
theorem place_in_mark {mark : Text × Char} (h : mark ∈ marks) (k : Nat) :
    (mark.1[k]? = some '<' → mark.1 = "<br/>".toList ∧ k = 0) ∧
    (mark.1[k]? = some '>' → mark.1 = "<br/>".toList ∧ k = 4) ∧
    (mark.1[k]? = some '&' → mark ∈ entities ∧ k = 0) := by
  have hplaces : ∀ mark ∈ marks, ∀ k < mark.1.length,
      (mark.1[k]? = some '<' → mark.1 = "<br/>".toList ∧ k = 0) ∧
      (mark.1[k]? = some '>' → mark.1 = "<br/>".toList ∧ k = 4) ∧
      (mark.1[k]? = some '&' → mark ∈ entities ∧ k = 0) := by decide +kernel
  by_cases hk : k < mark.1.length
  · exact hplaces mark h k hk
  · rw [List.getElem?_eq_none (Nat.le_of_not_lt hk)]
    exact ⟨nofun, nofun, nofun⟩

/-- The markup of a text shows it. -/
theorem shows_markup (s : Text) : Shows (markup s) s := by
  constructor
  · intro i hi
    obtain ⟨mark, hmark, k, -, hget, hprefix⟩ := special_of_markup s hi (by decide)
    obtain ⟨htag, rfl⟩ := (place_in_mark hmark k).1 hget
    rwa [htag] at hprefix
  · intro i hi
    obtain ⟨mark, hmark, k, hk, hget, hprefix⟩ := special_of_markup s hi (by decide)
    obtain ⟨htag, rfl⟩ := (place_in_mark hmark k).2.1 hget
    rw [htag] at hprefix
    exact ⟨hk, hprefix⟩
  · exact not_mem_markup (by decide) (by decide +kernel) s
  · exact not_mem_markup (by decide) (by decide +kernel) s
  · intro i hi
    obtain ⟨mark, hmark, k, -, hget, hprefix⟩ := special_of_markup s hi (by decide)
    obtain ⟨hentity, rfl⟩ := (place_in_mark hmark k).2.2 hget
    exact ⟨mark, hentity, hprefix⟩
  · exact shown_markup s

/-! ## Blank labels -/

/-- What is written for a character is blank if and only if the character is, and is no newline. -/
theorem all_isBlank_markupChar (c : Char) :
    (markupChar c).all isBlank = true ↔ isBlank c = true ∧ c ≠ '\n' := by
  have hmarks : ∀ mark ∈ marks,
      mark.1.all isBlank = false ∧ (isBlank mark.2 = false ∨ mark.2 = '\n') := by decide +kernel
  rcases markupChar_cases c with ⟨mark, hmark, rfl, hchar⟩ | ⟨hplain, hchar⟩
  · obtain ⟨hwritten, hmeant⟩ := hmarks mark hmark
    rw [hchar, hwritten]
    rcases hmeant with hmeant | hmeant <;> simp [hmeant]
  · have hnewline : c ≠ '\n' := by
      rintro rfl
      exact hplain (by decide)
    simp [hchar, hnewline]

/-- Markup is blank if and only if its text is, and is all on one line. -/
theorem all_isBlank_markup (s : Text) :
    (markup s).all isBlank = true ↔ ∀ c ∈ s, isBlank c = true ∧ c ≠ '\n' := by
  rw [markup, List.all_flatMap, List.all_eq_true]
  simp only [all_isBlank_markupChar]

/-! ## Labels -/

/-- No name of a kind holds a newline. -/
theorem newline_not_mem_kindName (n : Node) : '\n' ∉ kindName n := by
  unfold kindName
  cases n.kind? with
  | none => exact List.not_mem_nil
  | some k => cases k <;> decide

/-- The source in a label holds no newline. -/
theorem newline_not_mem_labelSource (source : Text) : '\n' ∉ labelSource source := by
  rw [labelSource]
  split_ifs
  · decide +kernel
  · exact not_mem_markup (by decide) (by decide +kernel) _

/-- No label holds a newline. -/
theorem newline_not_mem_label (n : Node) : '\n' ∉ label n := by
  have happend {s t : Text} (hs : '\n' ∉ s) (ht : '\n' ∉ t) : '\n' ∉ s ++ t :=
    List.not_mem_append hs ht
  unfold label
  apply happend
  · apply happend
    · apply happend
      · apply happend
        · simp
        · exact newline_not_mem_kindName n
      · simp
    · exact newline_not_mem_labelSource n.source
  · simp

/-- A text of more than forty characters is cut to thirty-seven and three dots. -/
theorem elide_eq (s : Text) :
    elide s = if s.length ≤ 40 then s else s.take 37 ++ "...".toList := by
  unfold elide maxLabelLength
  rfl

/-- The source of a node that has one is this source. -/
theorem source_eq {n : Node} {source : Text} (h : n.source? = .ok source) :
    n.source = source := by
  unfold Node.source? Node.unlessFault at h
  cases hfault : n.sourceFault? with
  | none =>
      rw [hfault] at h
      exact Except.ok.inj h
  | some fault =>
      rw [hfault] at h
      cases h

/-- **Labels show their source.**  The label of a node is a table with the kind of the node and its
source, which is cut to forty characters, the last three of them dots, if it is longer.  In the
place of a source that is blank and all on one line stands a hard space; any other is shown by the
markup in its place, and nothing there is taken for other markup.  No label holds a newline. -/
theorem label_shows {n : Node} {source : Text} (h : n.source? = .ok source) :
    '\n' ∉ label n ∧
    ∃ s content, s = (if source.length ≤ 40 then source else source.take 37 ++ "...") ∧
      label n =
        "<<TABLE BORDER=\"0\" CELLBORDER=\"1\" CELLSPACING=\"0\"><TR><TD><B>" ++ kindName n ++
          "</B></TD></TR><TR><TD><FONT POINT-SIZE=\"10\">" ++ content ++
          "</FONT></TD></TR></TABLE>>" ∧
      ((∀ c ∈ s, isBlank c = true ∧ c ≠ '\n') → content = "&nbsp;".toList) ∧
      ((¬ ∀ c ∈ s, isBlank c = true ∧ c ≠ '\n') → Shows content s) := by
  have hlabel : label n =
      "<<TABLE BORDER=\"0\" CELLBORDER=\"1\" CELLSPACING=\"0\"><TR><TD><B>" ++ kindName n ++
        "</B></TD></TR><TR><TD><FONT POINT-SIZE=\"10\">" ++ labelSource source ++
        "</FONT></TD></TR></TABLE>>" := by
    unfold label
    rw [source_eq h]
  refine ⟨newline_not_mem_label n, elide source, labelSource source, ?_, ?_, ?_, ?_⟩
  · exact elide_eq source
  · exact hlabel
  · intro hblank
    rw [labelSource, if_pos ((all_isBlank_markup _).2 hblank)]
  · intro hblank
    rw [labelSource, if_neg (mt (all_isBlank_markup _).1 hblank)]
    exact shows_markup _

/-- A string over two lines that reads like markup itself, and is too long, is shown cut short. -/
theorem label_shows_of_string :
    ∃ n : Node, n.source? = .ok "\"<br/> is &lt;br/&gt;,\na tag for 'newline'\"".toList ∧
      '\n' ∉ label n ∧
      ∃ content, Shows content "\"<br/> is &lt;br/&gt;,\na tag for 'new...".toList ∧
        label n =
          "<<TABLE BORDER=\"0\" CELLBORDER=\"1\" CELLSPACING=\"0\"><TR><TD><B>" ++
            "STRING".toList ++ "</B></TD></TR><TR><TD><FONT POINT-SIZE=\"10\">" ++ content ++
            "</FONT></TD></TR></TABLE>>" := by
  have hsource : (Node.literal .string .string
      ⟨.string, "\"<br/> is &lt;br/&gt;,\na tag for 'newline'\"", ⟨1, 1⟩⟩).source? =
        .ok "\"<br/> is &lt;br/&gt;,\na tag for 'newline'\"".toList := by cbv
  refine ⟨_, hsource, ?_⟩
  obtain ⟨hline, s, content, rfl, hlabel, -, hshows⟩ := label_shows hsource
  refine ⟨hline, content, ?_, hlabel⟩
  apply hshows
  intro hblank
  have hquote := (hblank '"' (by decide)).1
  exact absurd hquote (by decide)

end ElixirTerms.Graph
