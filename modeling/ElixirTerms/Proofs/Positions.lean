/-
# Where tokens stand

A scanner counts lines and columns as it goes, one character at a time.  What it has counted can be
told from the text that it has passed (`after_start`): a line for each newline, and a column for
each character after the last one.  So each token of a stream bears the line and the column of the
place where it starts (`position_of_split`).
-/
import Mathlib
import ElixirTerms.Proofs.Lossless

namespace ElixirTerms

/-! ## Lines of a text -/

namespace Text

/-- The index at which the last line of a text starts: just after the last newline, or at the start
of the text if there is none. -/
def lineStart (s : Text) : Nat := s.length - s.reverse.idxOf '\n'

/-- A newline at the end of a text starts a line behind it. -/
theorem lineStart_concat_newline (s : Text) : lineStart (s ++ ['\n']) = s.length + 1 := by
  simp [lineStart]

/-- Any other character at the end of a text belongs to its last line. -/
theorem lineStart_concat {c : Char} (h : c ≠ '\n') (s : Text) :
    lineStart (s ++ [c]) = lineStart s := by
  have hc : (c == '\n') = false := beq_false_of_ne h
  simp [lineStart, List.idxOf_cons, hc]

/-- Characters that are no newlines belong to the last line. -/
theorem lineStart_append {t : Text} (h : '\n' ∉ t) (s : Text) :
    lineStart (s ++ t) = lineStart s := by
  induction t using List.reverseRecOn with
  | nil => rw [List.append_nil]
  | append_singleton t c ih =>
      rw [List.mem_append, List.mem_singleton, not_or] at h
      rw [← List.append_assoc, lineStart_concat (Ne.symm h.2), ih h.1]

/-- A text without newlines is a single line. -/
theorem lineStart_of_not_mem {s : Text} (h : '\n' ∉ s) : lineStart s = 0 := lineStart_append h []

/-- The last line of a text starts just after the last newline. -/
theorem lineStart_append_newline {t : Text} (h : '\n' ∉ t) (s : Text) :
    lineStart (s ++ '\n' :: t) = s.length + 1 := by
  rw [← lineStart_concat_newline s, ← lineStart_append h (s ++ ['\n']), List.append_assoc]
  rfl

end Text

/-! ## Positions by counting -/

namespace Position

/-- One character more moves a position by that character. -/
theorem after_concat (p : Position) (s : Text) (c : Char) :
    p.after (s ++ [c]) = (p.after s).next c := by
  rw [after_append]
  rfl

/-- **What is counted along a text.**  Behind a text that starts a file there is one line more than
the text has newlines, and one column more than its last line has characters. -/
theorem after_start (s : Text) :
    start.after s = ⟨1 + s.count '\n', s.length - s.lineStart + 1⟩ := by
  induction s using List.reverseRecOn with
  | nil => rfl
  | append_singleton s c ih =>
      rw [after_concat, ih, next]
      by_cases hc : c = '\n'
      · subst hc
        rw [if_pos rfl, Text.lineStart_concat_newline]
        simp only [List.count_append, List.count_singleton_self, List.length_append,
          List.length_singleton, Position.mk.injEq]
        omega
      · rw [if_neg hc, Text.lineStart_concat hc]
        simp only [List.count_append, List.count_singleton, List.length_append,
          List.length_singleton, Position.mk.injEq, beq_iff_eq, hc, if_false]
        omega

end Position

/-! ## Positions of tokens -/

namespace Token

/-- The number of characters of some tokens together. -/
def totalLength : List Token → Nat
  | [] => 0
  | t :: ts => t.lexeme.length + totalLength ts

/-- The characters of some tokens are those of the text that their lexemes join to. -/
theorem totalLength_eq (ts : List Token) :
    totalLength ts = (ts.flatMap Token.lexeme).length := by
  induction ts with
  | nil => rfl
  | cons t ts ih => rw [totalLength, ih, List.flatMap_cons, List.length_append]

variable {text : Text} {before later : List Token} {t : Token}

/-- Each token of a stream stands behind the lexemes of those before it. -/
theorem position_of_split {p : Position} {s : Text} (h : lexFrom p s = before ++ t :: later) :
    t.position = p.after (before.flatMap Token.lexeme) := by
  induction p, s using first_induction generalizing before with
  | nil p =>
      rw [lexFrom_nil] at h
      rcases List.singleton_eq_append_iff.1 h with ⟨rfl, ht⟩ | ⟨-, ht⟩
      · cases ht
        rfl
      · cases ht
  | cons p c s ih =>
      rw [lexFrom_cons] at h
      cases before with
      | nil =>
          obtain ⟨rfl, -⟩ := List.cons.inj h
          rfl
      | cons u before =>
          obtain ⟨rfl, hrest⟩ := List.cons.inj h
          rw [ih hrest, List.flatMap_cons, Position.after_append]

/-- The lexemes of the first tokens of a text join to as much of the text. -/
theorem lexemes_of_split (h : lex text = before ++ later) :
    before.flatMap Token.lexeme = text.take (totalLength before) := by
  rw [totalLength_eq]
  apply List.prefix_iff_eq_take.1
  refine ⟨later.flatMap Token.lexeme, ?_⟩
  rw [← List.flatMap_append, ← h]
  exact lexemes_lexFrom .start text

/-- **Positions are right.**  A scanner that is drained over a text hands out the tokens of the
text.  Each of them, the end of the input included, stands on a line for every newline among the
characters before it, besides the first line, and in a column for every one of these characters
behind the last newline, besides the first column. -/
theorem line_column_of_split (h : lex text = before ++ t :: later) :
    (Scanner.ofText text).drain.1 = before ++ t :: later ∧
    t.position.line = 1 + (text.take (totalLength before)).count '\n' ∧
    t.position.column =
      totalLength before - Text.lineStart (text.take (totalLength before)) + 1 := by
  have hdrain := (Scanner.drain_eq_lexFrom _ (Scanner.consistent_ofText text) rfl).1
  have hlexemes := lexemes_of_split h
  have hplace : t.position = Position.start.after (text.take (totalLength before)) := by
    rw [← hlexemes]
    exact position_of_split h
  have hlength : (text.take (totalLength before)).length = totalLength before := by
    rw [← hlexemes, totalLength_eq]
  refine ⟨hdrain.trans h, ?_⟩
  rw [hplace, Position.after_start, hlength]
  exact ⟨rfl, rfl⟩

/-- Behind a codepoint that is a newline and a string over two lines, the end of the input stands on
the third line. -/
theorem line_column_behind_newlines :
    lex "?\\\n \"\n\\\"\"" = [⟨.char, "?\\\n", ⟨1, 1⟩⟩, ⟨.whitespace, " ", ⟨2, 1⟩⟩,
        ⟨.string, "\"\n\\\"\"", ⟨2, 2⟩⟩] ++ ⟨.eof, [], ⟨3, 4⟩⟩ :: [] ∧
      (3 : Int) = 1 + ("?\\\n \"\n\\\"\"".toList.take 9).count '\n' ∧
      (4 : Int) = (9 : Nat) - Text.lineStart ("?\\\n \"\n\\\"\"".toList.take 9) + 1 := by
  have hlex : lex "?\\\n \"\n\\\"\"" = [⟨.char, "?\\\n", ⟨1, 1⟩⟩, ⟨.whitespace, " ", ⟨2, 1⟩⟩,
      ⟨.string, "\"\n\\\"\"", ⟨2, 2⟩⟩] ++ ⟨.eof, [], ⟨3, 4⟩⟩ :: [] := by cbv
  exact ⟨hlex, (line_column_of_split hlex).2⟩

end Token

end ElixirTerms
