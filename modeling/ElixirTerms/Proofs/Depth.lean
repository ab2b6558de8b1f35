/-
# How deep an expression may be

A part of an expression lies under some pairs of brackets and some attributes.  There is room for
the expression if no part takes more than the limit, at three for each pair of brackets and one for
each attribute (`fits_iff`).  Brackets are cut into segments before any of these is read, so an
error of the cut is met however deep the contents are (`parse_of_opens`).
-/
import ElixirTerms.Proofs.Grammar.Exact
import ElixirTerms.Proofs.Recovery.Brackets
import ElixirTerms.Proofs.Splitting

namespace ElixirTerms

/-! ## Parts of an expression -/

namespace Node

/-- The nodes that stand in the brackets of a node. -/
def bracketed : Node → List Node
  | call _ _ args => args
  | collection _ _ es => es
  | hashMap _ keys values => keys ++ values
  | missing | bare _ | literal .. | moduleAttribute .. => []

/-- A part of a node lies under a number of pairs of brackets and a number of attributes. -/
inductive LiesUnder : Nat → Nat → Node → Node → Prop where
  | self (n : Node) : LiesUnder 0 0 n n
  | inBrackets {brackets attributes : Nat} {part inner n : Node} :
      inner ∈ n.bracketed → LiesUnder brackets attributes part inner →
      LiesUnder (brackets + 1) attributes part n
  | inAttribute {brackets attributes : Nat} {part v : Node} (kind : Kind) (name : Token) :
      LiesUnder brackets attributes part v →
      LiesUnder brackets (attributes + 1) part (.moduleAttribute kind name v)

variable {brackets attributes room : Nat} {part inner n : Node}

/-- What has brackets needs the room that its brackets need. -/
theorem nesting_of_mem_bracketed (h : inner ∈ n.bracketed) :
    n.nesting = roomAround (n.bracketed.map nesting) := by
  cases n with
  | missing => cases h
  | bare kind => cases h
  | literal form kind t => cases h
  | call kind t args => rw [nesting, bracketed]
  | moduleAttribute kind t v => cases h
  | collection shape kind es => rw [nesting, bracketed]
  | hashMap kind keys values => rw [nesting, bracketed, List.map_append]

/-- Brackets need three more than each node in them. -/
theorem nesting_add_three_le (h : inner ∈ n.bracketed) : inner.nesting + 3 ≤ n.nesting := by
  have hroom := (roomAround_le_iff _ _).1 (nesting_of_mem_bracketed h).ge
  exact hroom.2 inner.nesting (List.mem_map_of_mem h)

/-- What lies over a part needs three more for each pair of brackets and one for each attribute. -/
theorem LiesUnder.nesting_le (h : LiesUnder brackets attributes part n) :
    part.nesting + 3 * brackets + attributes ≤ n.nesting := by
  induction h with
  | self n => exact Nat.le_refl _
  | inBrackets hmem _ ih =>
      have hthree := nesting_add_three_le hmem
      omega
  | inAttribute kind name _ ih =>
      rw [nesting_moduleAttribute]
      omega

/-- Brackets need no more room than any, or three more than one of their parts. -/
theorem roomAround_eq (rooms : List Nat) :
    roomAround rooms = 1 ∨ ∃ r ∈ rooms, roomAround rooms = r + 3 := by
  induction rooms with
  | nil => exact Or.inl rfl
  | cons r rooms ih =>
      rw [roomAround, List.foldr_cons, ← roomAround]
      rcases Nat.le_total (r + 3) (roomAround rooms) with hle | hle
      · rw [Nat.max_eq_right hle]
        rcases ih with hone | ⟨r', hr', heq⟩
        · exact Or.inl hone
        · exact Or.inr ⟨r', List.mem_cons_of_mem r hr', heq⟩
      · rw [Nat.max_eq_left hle]
        exact Or.inr ⟨r, List.mem_cons_self, rfl⟩

/-- A node with brackets has a deepest part if all the nodes in the brackets have. -/
theorem exists_liesUnder_of_bracketed (h : n.nesting = roomAround (n.bracketed.map nesting))
    (hinner : ∀ inner ∈ n.bracketed, ∃ brackets attributes part,
      LiesUnder brackets attributes part inner ∧ inner.nesting = 3 * brackets + attributes + 1) :
    ∃ brackets attributes part, LiesUnder brackets attributes part n ∧
      n.nesting = 3 * brackets + attributes + 1 := by
  rcases roomAround_eq (n.bracketed.map nesting) with hone | ⟨r, hr, heq⟩
  · exact ⟨0, 0, n, .self n, h.trans hone⟩
  · obtain ⟨inner, hmem, rfl⟩ := List.mem_map.1 hr
    obtain ⟨brackets, attributes, part, hpart, hroom⟩ := hinner inner hmem
    refine ⟨brackets + 1, attributes, part, .inBrackets hmem hpart, ?_⟩
    omega

/-- **The room that an expression needs is that of its deepest part.** -/
theorem exists_liesUnder (n : Node) :
    ∃ brackets attributes part, LiesUnder brackets attributes part n ∧
      n.nesting = 3 * brackets + attributes + 1 := by
  induction n using Node.induction with
  | missing => exact ⟨0, 0, _, .self _, by simp [nesting]⟩
  | bare k => exact ⟨0, 0, _, .self _, by simp [nesting]⟩
  | literal form k t => exact ⟨0, 0, _, .self _, nesting_literal form k t⟩
  | call k t args ih => exact exists_liesUnder_of_bracketed (by rw [nesting, bracketed]) ih
  | moduleAttribute k t v ih =>
      obtain ⟨brackets, attributes, part, hpart, hroom⟩ := ih
      refine ⟨brackets, attributes + 1, part, .inAttribute k t hpart, ?_⟩
      rw [nesting_moduleAttribute]
      omega
  | collection shape k es ih => exact exists_liesUnder_of_bracketed (by rw [nesting, bracketed]) ih
  | hashMap k keys values ihkeys ihvalues =>
      apply exists_liesUnder_of_bracketed
      · rw [nesting, bracketed, List.map_append]
      · intro inner hmem
        rcases List.mem_append.1 hmem with hmem | hmem
        · exact ihkeys inner hmem
        · exact ihvalues inner hmem

/-- There is room for an expression if no part of it takes too much. -/
theorem nesting_le_succ_iff :
    n.nesting ≤ room + 1 ↔ ∀ brackets attributes part,
      LiesUnder brackets attributes part n → 3 * brackets + attributes ≤ room := by
  constructor
  · intro h brackets attributes part hpart
    have hover := hpart.nesting_le
    have hpos := nesting_pos part
    omega
  · intro h
    obtain ⟨brackets, attributes, part, hpart, hroom⟩ := exists_liesUnder n
    have hle := h brackets attributes part hpart
    omega

end Node

namespace Grammar

open Expression Node Program Segment

/-! ## The limit -/

/-- All expressions of a program have room if no part of any of them takes more than the limit. -/
theorem fits_iff (ns : List Node) :
    Fits ns ↔ ∀ n ∈ ns, ∀ brackets attributes part,
      LiesUnder brackets attributes part n → 3 * brackets + attributes ≤ nestingLimit := by
  simp only [Fits, nesting_le_succ_iff]

/-! ## Errors before the contents of brackets -/

/-- A cursor that hands out no segments has met the error of a row that cannot be read. -/
theorem exists_row_of_perform {cursor later : Cursor} {closer : Text} {e : ParseError}
    (h : cursor.perform (.row closer) = (.error e, later)) :
    ∃ rest, row closer cursor.last? cursor.rest = .fail e rest := by
  rw [Cursor.perform_row] at h
  obtain ⟨hanswer, -⟩ := Prod.mk.inj h
  cases hrow : row closer cursor.last? cursor.rest with
  | done segments us =>
      rw [hrow] at hanswer
      cases hanswer
  | fail e' us =>
      rw [hrow] at hanswer
      cases hanswer
      exact ⟨us, rfl⟩

variable {tokens head ts rest : List Token} {brackets : Brackets} {e : ParseError}

/-- **Brackets are cut before their contents are read.**  If the contents of the first brackets
cannot be cut into segments, then parsing fails with the error of the cut. -/
theorem parse_of_opens (hopens : Opens topElement head brackets)
    (htokens : significant tokens = head ++ ts)
    (hrow : row brackets.closer (significant tokens).getLast? ts = .fail e rest) :
    parse tokens = .error e := by
  have htop : top (significant tokens).getLast? (significant tokens) = .fail e rest := by
    rw [htokens] at hrow ⊢
    rw [top_eq, hopens.term_eq, enclosed, hrow]
    rfl
  have hne : significant tokens ≠ [] := by
    rw [htokens]
    simp [hopens.ne_nil]
  rw [parse, expressions_of_fail hne htop]
  rfl

/-! ## Lists in lists -/

/-- The bracket that opens a list. -/
def opening : Token := ⟨.delimiter, ['['], .nowhere⟩

/-- The bracket that closes a list. -/
def closing : Token := ⟨.delimiter, [']'], .nowhere⟩

/-- An empty list inside a number of lists. -/
def nestedLists : Nat → Node
  | 0 => .collection .list .list []
  | k + 1 => .collection .list .list [nestedLists k]

/-- The tokens of an empty list inside a number of lists. -/
def nestedTokens : Nat → List Token
  | 0 => [opening, closing]
  | k + 1 => opening :: (nestedTokens k ++ [closing])

/-- There are lists of any depth. -/
theorem derives_nestedLists (k : Nat) :
    Derives (.expression (nestedLists k)) (nestedTokens k) := by
  induction k with
  | zero => exact @Derives.collection .list opening closing [] [] rfl rfl nofun .none
  | succ k ih =>
      refine @Derives.collection .list opening closing [(nestedTokens k, nestedLists k)] _ rfl rfl
        ?_ (.one _)
      simpa using ih

/-- The tokens of lists are what the grammar sees. -/
theorem derivesAll_nestedLists (k : Nat) :
    DerivesAll [nestedLists k] (significant (nestedTokens k)) := by
  have hall := DerivesAll.cons (derives_nestedLists k) .nil
  rw [List.append_nil] at hall
  rw [significant_of_forall]
  · exact hall
  · intro t ht
    have hkinds : ∀ k ∈ kinds, (⟨k, [], .nowhere⟩ : Token).isSignificant = true := by decide
    exact hkinds t.kind (hall.kind_mem t ht)

/-- The empty list lies under all the lists around it. -/
theorem liesUnder_nestedLists (k : Nat) : LiesUnder k 0 (nestedLists 0) (nestedLists k) := by
  induction k with
  | zero => exact .self _
  | succ k ih => exact .inBrackets (List.mem_singleton_self (nestedLists k)) ih

/-- Nothing in the lists lies deeper than the empty list. -/
theorem le_of_liesUnder_nestedLists {k b a : Nat} {part : Node}
    (h : LiesUnder b a part (nestedLists k)) : b + a ≤ k := by
  induction k generalizing b with
  | zero =>
      cases h with
      | self => exact Nat.le_refl _
      | inBrackets hmem => cases hmem
  | succ k ih =>
      cases h with
      | self => exact Nat.zero_le _
      | inBrackets hmem hinner =>
          obtain rfl := List.mem_singleton.1 hmem
          have hle := ih hinner
          omega

/-- Lists that are only opened cannot be cut into segments. -/
theorem rowFrom_replicate_opening (closer : Text) (last : Option Token) {taken : List Token}
    (htaken : taken ≠ []) (depth k : Nat) :
    rowFrom closer last depth taken (List.replicate k opening) =
      .fail (.unexpectedEnd .current last) [] := by
  induction k generalizing depth taken with
  | zero => rw [List.replicate_zero, rowFrom, if_neg htaken]
  | succ k ih =>
      rw [List.replicate_succ, rowFrom]
      exact ih (List.append_ne_nil_of_right_ne_nil taken (List.cons_ne_nil _ _)) (depth + 1)

/-- Behind the first of some lists that are only opened the tokens run out. -/
theorem perform_row_replicate_opening (k : Nat) :
    (⟨List.replicate (k + 2) opening, 1⟩ : Cursor).perform (.row [']']) =
      (.error (.unexpectedEnd .current opening), ⟨List.replicate (k + 2) opening, k + 2⟩) := by
  have hrest : (⟨List.replicate (k + 2) opening, 1⟩ : Cursor).rest =
      opening :: List.replicate k opening := rfl
  have hlast : (⟨List.replicate (k + 2) opening, 1⟩ : Cursor).last? = some opening := by
    rw [Cursor.last?, List.getLast?_replicate, if_neg (Nat.succ_ne_zero _)]
  have hrow : row [']'] (some opening) (opening :: List.replicate k opening) =
      .fail (.unexpectedEnd .current (some opening)) [] :=
    rowFrom_replicate_opening [']'] (some opening) (List.cons_ne_nil opening []) 1 k
  rw [Cursor.perform_row, hrest, hlast, hrow]
  refine Prod.ext rfl ?_
  show (⟨List.replicate (k + 2) opening, (List.replicate (k + 2) opening).length - 0⟩ : Cursor) = _
  rw [List.length_replicate, Nat.sub_zero]

/-! ## Moderate and excessive nesting -/

/-- **Moderate nesting is never refused, excessive nesting always, and neither hides an error of the
brackets around it.**  A program of the grammar is parsed if no part of an expression lies under
more than sixty brackets and attributes; the nesting is too deep if a part lies under 260 pairs of
brackets or a thousand attributes.  If tokens begin with a list, a tuple, a map or a call that is
opened, and what follows cannot be cut into segments, then parsing fails with the error of the cut,
however deep the contents are. -/
theorem parse_of_liesUnder (tokens : List Token) :
    (∀ ns, DerivesAll ns (significant tokens) →
      ((∀ n ∈ ns, ∀ brackets attributes part, LiesUnder brackets attributes part n →
          brackets + attributes ≤ 60) →
        parse tokens = .ok ns) ∧
      ((∃ n ∈ ns, ∃ brackets attributes part, LiesUnder brackets attributes part n ∧
          (260 ≤ brackets ∨ 1000 ≤ attributes)) →
        parse tokens = .error .nestingTooDeep)) ∧
    ∀ head brackets e later, Opens topElement head brackets → head <+: significant tokens →
      (⟨significant tokens, head.length⟩ : Cursor).perform (.row brackets.closer) =
        (.error e, later) →
      parse tokens = .error e ∧ e ≠ .nestingTooDeep := by
  constructor
  · intro ns hns
    rw [parse_of_derivesAll hns]
    constructor
    · intro hshallow
      apply if_pos
      rw [fits_iff]
      intro n hn brackets attributes part hpart
      have hle := hshallow n hn brackets attributes part hpart
      show 3 * brackets + attributes ≤ 500
      omega
    · rintro ⟨n, hn, brackets, attributes, part, hpart, hdeep⟩
      apply if_neg
      intro hfits
      have hle : 3 * brackets + attributes ≤ 500 :=
        (fits_iff ns).1 hfits n hn brackets attributes part hpart
      omega
  · intro head brackets e later hopens hhead hscan
    obtain ⟨ts, hts⟩ := hhead
    have hrest : (⟨significant tokens, head.length⟩ : Cursor).rest = ts := by
      rw [Cursor.rest, ← hts, List.drop_left]
    obtain ⟨rest, hrow⟩ := exists_row_of_perform hscan
    rw [hrest] at hrow
    refine ⟨parse_of_opens hopens hts.symm hrow, ?_⟩
    rintro rfl
    cases scanError_of_row hrow

/-- Sixty lists around an empty one are parsed, 260 are too deep, and a thousand that are only
opened end too early. -/
theorem parse_of_liesUnder_nestedLists :
    (DerivesAll [nestedLists 60] (significant (nestedTokens 60)) ∧
        parse (nestedTokens 60) = .ok [nestedLists 60]) ∧
      (DerivesAll [nestedLists 260] (significant (nestedTokens 260)) ∧
        LiesUnder 260 0 (nestedLists 0) (nestedLists 260) ∧
        parse (nestedTokens 260) = .error .nestingTooDeep) ∧
      parse (List.replicate 1000 opening) = .error (.unexpectedEnd .current opening) := by
  have hsignificant : significant (List.replicate 1000 opening) = List.replicate 1000 opening := by
    apply significant_of_forall
    intro t ht
    rw [List.eq_of_mem_replicate ht]
    rfl
  refine ⟨⟨derivesAll_nestedLists 60, ?_⟩,
    ⟨derivesAll_nestedLists 260, liesUnder_nestedLists 260, ?_⟩, ?_⟩
  · apply ((parse_of_liesUnder (nestedTokens 60)).1 _ (derivesAll_nestedLists 60)).1
    intro n hn brackets attributes part hpart
    rw [List.mem_singleton.1 hn] at hpart
    exact le_of_liesUnder_nestedLists hpart
  · apply ((parse_of_liesUnder (nestedTokens 260)).1 _ (derivesAll_nestedLists 260)).2
    exact ⟨_, List.mem_singleton_self _, 260, 0, _, liesUnder_nestedLists 260, .inl (Nat.le_refl _)⟩
  · have hscan := perform_row_replicate_opening 998
    rw [← hsignificant] at hscan
    refine ((parse_of_liesUnder (List.replicate 1000 opening)).2 [opening]
      (.collection topElement .list) _ _ (.collection .list rfl) ?_ hscan).1
    rw [hsignificant]
    exact ⟨List.replicate 999 opening, List.replicate_succ.symm⟩

end Grammar

end ElixirTerms
