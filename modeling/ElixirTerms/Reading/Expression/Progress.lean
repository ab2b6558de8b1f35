/-
# Progress of readers

Every reader of expressions leaves an end of the tokens that it was given, and has taken at least
one of them where it has read an expression (`expression_advances`).
-/
import ElixirTerms.Reading.Expression

namespace ElixirTerms.Expression

theorem enclosed_advances (closer : Text) (make : List (List Token) → Except ParseError Node) :
    Reader.Advances (enclosed closer make) :=
  fun last ts => (Segment.row_advances closer last ts).build make

theorem moduleAttribute_advances {value : Reader Node} (h : value.Advances) :
    Reader.Advances (moduleAttribute value) := by
  intro last ts
  unfold moduleAttribute
  split
  · rename_i sign name rest
    have hrest : rest <:+ sign :: name :: rest := ⟨[sign, name], rfl⟩
    split
    · exact ((h last rest).of_suffix hrest).map _
    · exact hrest
  · exact List.nil_suffix

theorem call_advances (element : Element) : Reader.Advances (call element) := by
  intro last ts
  unfold call
  split
  · rename_i identifier dot opening rest
    have hrest : rest <:+ identifier :: dot :: opening :: rest := ⟨[identifier, dot, opening], rfl⟩
    split
    · exact (enclosed_advances _ _ last rest).of_suffix hrest
    · exact hrest
  · exact List.nil_suffix

theorem identified_advances (element : Element) : Reader.Advances (identified element) := by
  intro last ts
  unfold identified
  split
  · exact List.nil_suffix
  · split
    · exact call_advances element last _
    · exact List.suffix_refl _

theorem hashMap_advances (element : Element) : Reader.Advances (hashMap element) := by
  intro last ts
  unfold hashMap
  split
  · rename_i sign opening rest
    have hrest : rest <:+ sign :: opening :: rest := ⟨[sign, opening], rfl⟩
    split
    · exact (enclosed_advances _ _ last rest).of_suffix hrest
    · exact hrest
  · exact List.nil_suffix

theorem delimited_advances (element : Element) : Reader.Advances (delimited element) := by
  intro last ts
  unfold delimited
  split
  · exact List.nil_suffix
  · rename_i t rest
    split
    · exact (enclosed_advances _ _ last rest).of_suffix (List.suffix_cons t rest)
    split
    · exact (enclosed_advances _ _ last rest).of_suffix (List.suffix_cons t rest)
    split
    · exact hashMap_advances element last _
    · exact List.suffix_refl _

theorem term_advances {value : Reader Node} (h : value.Advances) (element : Element) :
    Reader.Advances (term value element) := by
  intro last ts
  unfold term
  split
  · exact List.nil_suffix
  · rename_i t rest
    split
    · exact moduleAttribute_advances h last _
    · exact identified_advances element last _
    · exact delimited_advances element last _
    · split
      · exact ⟨List.suffix_cons t rest, Nat.lt_succ_self _⟩
      · exact List.suffix_refl _

/-- An expression costs at least one token, and what is left is an end of the tokens given. -/
theorem expression_advances (room : Nat) : Reader.Advances (expression room) := by
  induction room with
  | zero => exact fun _ ts => List.suffix_refl ts
  | succ room ih => unfold expression; exact term_advances ih _

theorem top_advances : Reader.Advances top := expression_advances _

/-- What follows an expression is shorter than what it was read from. -/
theorem length_rest_lt_of_top {last : Option Token} {ts rest : List Token} {n : Node}
    (h : top last ts = .done n rest) : rest.length < ts.length := by
  have := top_advances last ts
  rw [h] at this
  exact this.2

end ElixirTerms.Expression
