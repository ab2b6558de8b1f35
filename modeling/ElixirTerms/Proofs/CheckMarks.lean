/-
# Lines that open with a check mark

The line of success opens with a check mark, and no quote follows.  Everything else that a report
prints is otherwise (`Unticked`): its own lines open with other characters, and where a literal of
the text brings a line that opens with a check mark, the quote that closes the literal follows.
-/
import ElixirTerms.Proofs.Tree.Fences
import ElixirTerms.Report

namespace ElixirTerms

/-! ## Unticked texts -/

namespace Text

/-- A text in which a quote follows every check mark that opens a line. -/
def Unticked (s : Text) : Prop :=
  ∀ lead rest, '\n' :: s = lead ++ '\n' :: '✓' :: rest → ∃ quote ∈ Token.quotes, quote ∈ rest

variable {s t : Text}

/-- A text without check marks is unticked. -/
theorem unticked_of_not_mem (h : '✓' ∉ s) : Unticked s := by
  intro lead rest hsplit
  have hmem : '✓' ∈ '\n' :: s := by simp [hsplit]
  exact absurd hmem (List.not_mem_cons_of_ne_of_not_mem (by decide) h)

/-- A fenced text that opens with another character is unticked. -/
theorem unticked_of_fenced {c : Char} (hc : c ≠ '✓') (h : Fenced (c :: s)) :
    Unticked (c :: s) := by
  intro lead rest hsplit
  cases lead with
  | nil => exact absurd (List.cons.inj (List.cons.inj hsplit).2).1 hc
  | cons d lead =>
      obtain ⟨quote, hquote, hmem⟩ := h lead _ (List.cons.inj hsplit).2
      refine ⟨quote, hquote, (List.mem_cons.1 hmem).resolve_left ?_⟩
      rintro rfl
      exact absurd hquote (by decide)

/-- Unticked texts one after the other are unticked. -/
theorem Unticked.append (hs : Unticked s) (ht : Unticked t) : Unticked (s ++ t) := by
  intro lead rest hsplit
  rw [← List.cons_append] at hsplit
  rcases split_of_append_eq hsplit with ⟨between, hbehind⟩ | ⟨between, hbefore, hrest⟩
  · exact ht ('\n' :: between) rest (congrArg ('\n' :: ·) hbehind)
  · -- the newline stands before the seam, and the check mark opens what is behind it or not
    cases between with
    | nil => exact ht [] rest (congrArg ('\n' :: ·) hrest.symm)
    | cons c between =>
        obtain ⟨rfl, rfl⟩ := List.cons.inj hrest
        obtain ⟨quote, hquote, hmem⟩ := hs lead between hbefore
        exact ⟨quote, hquote, List.mem_append_left t hmem⟩

/-- Unticked texts stay so as lines. -/
theorem unticked_joinLines {parts : List Text} (h : ∀ part ∈ parts, Unticked part) :
    Unticked (joinLines parts) := by
  have hnil : Unticked [] := unticked_of_not_mem List.not_mem_nil
  have hnewline : Unticked ['\n'] := unticked_of_not_mem (by decide)
  exact intercalate_of_append hnil (fun _ _ => Unticked.append) hnewline h

end Text

open Text

/-! ## Outlines -/

/-- No label of an outline holds a check mark. -/
theorem Role.checkMark_not_mem_outlineLabel (role : Role) : '✓' ∉ role.outlineLabel := by
  have hdigits (i : Nat) : '✓' ∉ Text.ofNat i := not_mem_ofNat (by decide) i
  unfold outlineLabel name
  cases role <;> simp [indexed, hdigits]

namespace Node

/-- No heading opens with a check mark. -/
theorem exists_heading_eq_cons (n : Node) : ∃ c s, n.heading = c :: s ∧ c ≠ '✓' := by
  unfold heading
  split
  all_goals exact ⟨_, _, rfl, by decide⟩

/-- The heading of what is read off a text is unticked. -/
theorem Lexed.unticked_heading {n : Node} (h : n.Lexed) : Unticked n.heading := by
  obtain ⟨c, s, hheading, hc⟩ := n.exists_heading_eq_cons
  have hfenced := h.fenced_heading
  rw [hheading] at hfenced ⊢
  exact unticked_of_fenced hc hfenced

/-- The entries of an outline of what is read off a text are unticked. -/
theorem unticked_of_mem_outline {n : Node} (h : ∀ m ∈ n.subterms, m.Lexed) {label : Text}
    (hlabel : '✓' ∉ label) (indent : Int) : ∀ entry ∈ n.outline indent label, Unticked entry := by
  induction n using children_induction generalizing indent label with
  | step n ih =>
      obtain ⟨hn, hbelow⟩ := (forall_subterms_iff n).1 h
      rw [outline_eq, List.forall_mem_cons, List.forall_mem_flatMap]
      constructor
      · have hindent : '✓' ∉ List.replicate indent.toNat ' ' :=
          fun hmem => absurd (List.eq_of_mem_replicate hmem) (by decide)
        exact ((unticked_of_not_mem hindent).append (unticked_of_not_mem hlabel)).append
          hn.unticked_heading
      · intro child hchild
        exact ih child.1 child.2 hchild (hbelow child.2 (List.mem_map_of_mem hchild))
          child.1.checkMark_not_mem_outlineLabel _

/-- The outline of expressions that are read off a text is unticked. -/
theorem unticked_programOutline {ns : List Node} (h : ∀ n ∈ ns, ∀ m ∈ n.subterms, m.Lexed) :
    Unticked (programOutline ns) := by
  have htitle : '✓' ∉ ("Program (" ++ Text.ofNat ns.length ++ " expressions)" : Text) := by
    simp [not_mem_ofNat]
  refine unticked_joinLines (List.forall_mem_cons.2 ⟨unticked_of_not_mem htitle, ?_⟩)
  rw [List.forall_mem_map]
  intro e he
  have hmem : e.2 ∈ ns := map_snd_expressions ns ▸ List.mem_map_of_mem he
  exact unticked_joinLines
    (unticked_of_mem_outline (h e.2 hmem) e.1.checkMark_not_mem_outlineLabel _)

end Node

/-! ## Tokens and errors -/

namespace Token

/-- No kind of tokens holds a newline in its name. -/
theorem Kind.newline_not_mem_name (kind : Kind) : '\n' ∉ kind.name := by
  cases kind <;> decide

/-- No line of a listing holds a newline. -/
theorem newline_not_mem_listingLine (t : Token) (index : Nat) : '\n' ∉ t.listingLine index := by
  unfold listingLine
  simp [List.leftpad, List.rightpad, Kind.newline_not_mem_name, newline_not_mem_quoted,
    newline_not_mem_ofNat, newline_not_mem_ofInt]

/-- A listing of tokens is unticked. -/
theorem unticked_listing (ts : List Token) (limit : Option Int) : Unticked (listing ts limit) := by
  have htitle (n : Nat) : '✓' ∉ ("Tokens (" ++ Text.ofNat n ++ "):" : Text) := by
    simp [not_mem_ofNat]
  have hmore (n : Nat) : '✓' ∉ ("  ... and " ++ Text.ofNat n ++ " more" : Text) := by
    simp [not_mem_ofNat]
  apply unticked_joinLines
  rw [List.cons_append, List.forall_mem_cons, List.forall_mem_append, List.forall_mem_map]
  refine ⟨unticked_of_not_mem (htitle _), fun entry _ => ?_, ?_⟩
  · exact unticked_of_fenced (by decide)
      (fenced_of_not_mem (newline_not_mem_listingLine entry.1 entry.2))
  · split
    · exact List.forall_mem_nil _
    · exact List.forall_mem_singleton.2 (unticked_of_not_mem (hmore _))

end Token

/-- No position holds a newline in words. -/
theorem Position.newline_not_mem_describe (p : Position) : '\n' ∉ p.describe := by
  unfold describe
  simp [newline_not_mem_ofInt]

namespace ParseError

/-- No message names a token with a newline. -/
theorem newline_not_mem_got (t : Token) : '\n' ∉ got t := by
  unfold got
  simp [Token.Kind.newline_not_mem_name, newline_not_mem_quoted, Position.newline_not_mem_describe]

/-- No message names the last token with a newline. -/
theorem newline_not_mem_endsAfter (t : Token) : '\n' ∉ endsAfter t := by
  unfold endsAfter
  simp [newline_not_mem_quoted, Position.newline_not_mem_describe]

/-- A message is fenced: the token that it names stands between quotes behind what was expected. -/
theorem fenced_message (e : ParseError) : Fenced e.message := by
  have hnothing : Fenced [] := fenced_of_not_mem List.not_mem_nil
  cases e with
  | unexpectedEnd missing last =>
      refine Fenced.append (fenced_of_not_mem (by cases missing <;> decide)) ?_
      cases last with
      | none => exact hnothing
      | some t => exact fenced_of_not_mem (newline_not_mem_endsAfter t)
  | unrecognized expected t =>
      have hquoted : quoteFor t.lexeme ∈ t.lexeme.quoted :=
        List.mem_append_right _ (List.mem_singleton_self _)
      have hgot : quoteFor t.lexeme ∈ got t := by
        unfold got
        simp [hquoted]
      have hquote : quoteFor t.lexeme ∈ Token.quotes := by
        unfold quoteFor
        split <;> decide
      exact fenced_append_of_quote hquote hgot (fenced_of_not_mem (newline_not_mem_got t)) _
  | emptyScan t =>
      refine Fenced.append (fenced_of_not_mem (by decide)) ?_
      cases t with
      | none => exact hnothing
      | some t => exact fenced_of_not_mem (newline_not_mem_got t)
  | nestingTooDeep | outOfRange => exact fenced_of_not_mem (by decide)

end ParseError

/-! ## Lines of a report -/

namespace Report

variable {settings : Settings}

/-- What is printed of unticked lines is unticked. -/
theorem unticked_printed {lines : List Text} (h : ∀ line ∈ lines, Unticked line) :
    Unticked (printed lines) := by
  have hnewline : Unticked ['\n'] := unticked_of_not_mem (by decide)
  induction lines with
  | nil => exact unticked_of_not_mem List.not_mem_nil
  | cons line lines ih =>
      rw [List.forall_mem_cons] at h
      rw [printed, List.flatMap_cons]
      exact (h.1.append hnewline).append (ih h.2)

/-- Lines that stand in a report if they are asked for are unticked if they are so in any case. -/
theorem unticked_of_mem_linesIf {asked : Bool} {lines : List Text}
    (h : ∀ line ∈ lines, Unticked line) : ∀ line ∈ linesIf asked lines, Unticked line := by
  cases asked with
  | false => exact List.forall_mem_nil _
  | true => exact h

/-- The lines about tokens are unticked. -/
theorem unticked_of_mem_tokenLines (ts : List Token) :
    ∀ line ∈ tokenLines settings ts, Unticked line := by
  rw [tokenLines, List.forall_mem_append]
  constructor
  · exact unticked_of_mem_linesIf
      (List.forall_mem_singleton.2 (Token.unticked_listing ts (some tokenLimit)))
  · rw [List.forall_mem_map]
    intro t _
    have hline : '\n' ∉ illegalLine t := by
      unfold illegalLine
      simp [newline_not_mem_quoted, Position.newline_not_mem_describe]
    exact unticked_of_fenced (by decide) (fenced_of_not_mem hline)

/-- The line about an error is unticked. -/
theorem unticked_errorLine (e : ParseError) : Unticked (errorLine e) := by
  have hintroduction : Fenced ("Syntax Error: " : Text) := fenced_of_not_mem (by decide)
  exact unticked_of_fenced (by decide) (hintroduction.append e.fenced_message)

/-- The lines about expressions that are read off a text are unticked. -/
theorem unticked_of_mem_expressionLines {ns : List Node} (h : ∀ n ∈ ns, ∀ m ∈ n.subterms, m.Lexed) :
    ∀ line ∈ expressionLines settings ns, Unticked line := by
  rw [expressionLines, List.forall_mem_append]
  constructor
  · apply unticked_of_mem_linesIf
    simp only [List.forall_mem_cons, List.not_mem_nil, false_implies, implies_true, and_true]
    exact ⟨unticked_of_not_mem (by decide), Node.unticked_programOutline h⟩
  · apply unticked_of_mem_linesIf
    rw [List.forall_mem_cons, List.forall_mem_map]
    refine ⟨unticked_of_not_mem (by decide), fun n hn => ?_⟩
    have hindent : Fenced ("  " : Text) := fenced_of_not_mem (by decide)
    exact unticked_of_fenced (by decide) (hindent.append (Node.fenced_source (h n hn)))

/-- What opens with the line of success is no end of an unticked text. -/
theorem not_successLine_suffix {s : Text} (h : Unticked s) (ns : List Node) :
    ¬ successLine ns ++ ['\n'] <:+ s := by
  rintro ⟨lead, rfl⟩
  have hnone : ∀ quote ∈ Token.quotes,
      quote ∉ (" Parsed " ++ Text.ofNat ns.length ++ " expression(s)" ++ ['\n'] : Text) := by
    simp [Token.quotes, not_mem_ofNat]
  obtain ⟨quote, hquote, hmem⟩ := h ('\n' :: lead) _ rfl
  exact hnone quote hquote hmem

end Report

end ElixirTerms
