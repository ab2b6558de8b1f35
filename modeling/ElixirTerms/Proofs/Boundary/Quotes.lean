/-
# Where a quoted literal is closed

The search for closing quotes looks no further than the quotes it finds, so that it finds the same
in a text with more text after it (`closing?_append_iff`).  A quoted literal that is closed is
therefore the same with and without what comes after it.
-/
import ElixirTerms.Proofs.Start

namespace ElixirTerms.Extent

open Token Unicode

/-! ## Closing quotes -/

/-- Without a backslash at its head, a text is searched character by character. -/
theorem closing?_cons {c : Char} (h : c ≠ '\\') (quote : Char) (s : Text) :
    closing? quote (c :: s) =
      if c = quote then some 1 else (closing? quote s).map (· + 1) := by
  rw [closing?]
  · exact fun hc _ => h hc
  · exact fun _ _ hc _ => h hc

/-- Without a backslash at its head, a text is searched character by character. -/
theorem tripleClosing?_cons {c : Char} (h : c ≠ '\\') (quote : Char) (seen : Nat) (s : Text) :
    tripleClosing? quote seen (c :: s) =
      if c = quote then
        if seen = 2 then some 1 else (tripleClosing? quote (seen + 1) s).map (· + 1)
      else (tripleClosing? quote 0 s).map (· + 1) := by
  rw [tripleClosing?]
  · exact fun hc _ => h hc
  · exact fun _ _ hc _ => h hc

/-- A backslash that neither stands alone nor escapes a character is none. -/
theorem ne_backslash {c : Char} {s : Text} (hlone : c = '\\' → s = [] → False)
    (hescape : ∀ d u, c = '\\' → s = d :: u → False) : c ≠ '\\' := by
  intro hc
  cases s with
  | nil => exact hlone hc rfl
  | cons d u => exact hescape d u hc rfl

/-- A closing quote is a character. -/
theorem closing?_pos {quote : Char} {s : Text} {n : Nat} (h : closing? quote s = some n) :
    0 < n := by
  unfold closing? at h
  split at h
  · cases h
  · cases h
  · obtain ⟨m, -, rfl⟩ := Option.map_eq_some_iff.1 h
    omega
  · split_ifs at h
    · cases h
      omega
    · obtain ⟨m, -, rfl⟩ := Option.map_eq_some_iff.1 h
      omega

/-- Three closing quotes are characters. -/
theorem tripleClosing?_pos {quote : Char} {seen : Nat} {s : Text} {n : Nat}
    (h : tripleClosing? quote seen s = some n) : 0 < n := by
  unfold tripleClosing? at h
  split at h
  · cases h
  · cases h
  · obtain ⟨m, -, rfl⟩ := Option.map_eq_some_iff.1 h
    omega
  · split_ifs at h
    · cases h
      omega
    · obtain ⟨m, -, rfl⟩ := Option.map_eq_some_iff.1 h
      omega
    · obtain ⟨m, -, rfl⟩ := Option.map_eq_some_iff.1 h
      omega

/-- Two searches that agree on what they find within a length still do after some characters. -/
theorem map_add_iff {found found' : Option Nat} {length : Nat}
    (h : ∀ m, m ≤ length ∧ found = some m ↔ found' = some m) (k n : Nat) :
    n ≤ length + k ∧ found.map (· + k) = some n ↔ found'.map (· + k) = some n := by
  constructor
  · rintro ⟨hn, hfound⟩
    obtain ⟨m, hm, rfl⟩ := Option.map_eq_some_iff.1 hfound
    rw [(h m).1 ⟨by omega, hm⟩, Option.map_some]
  · intro hfound
    obtain ⟨m, hm, rfl⟩ := Option.map_eq_some_iff.1 hfound
    obtain ⟨hle, hlong⟩ := (h m).2 hm
    rw [hlong, Option.map_some]
    exact ⟨by omega, rfl⟩

/-- A closing quote is found in a text if and only if it is found there with more text after it. -/
theorem closing?_append_iff (quote : Char) (s u : Text) (n : Nat) :
    n ≤ s.length ∧ closing? quote (s ++ u) = some n ↔ closing? quote s = some n := by
  fun_induction closing? quote s generalizing n with
  | case1 =>
      simp only [reduceCtorEq, iff_false, List.length_nil]
      rintro ⟨hn, h⟩
      have hpos := closing?_pos h
      omega
  | case2 =>
      -- what comes after the lone backslash is escaped by it, so a quote lies further on
      simp only [reduceCtorEq, iff_false]
      rintro ⟨hn, h⟩
      cases u with
      | nil => cases h
      | cons d u =>
          rw [List.cons_append, List.nil_append, closing?] at h
          obtain ⟨m, -, rfl⟩ := Option.map_eq_some_iff.1 h
          simp only [List.length_cons, List.length_nil] at hn
          omega
  | case3 c s ih =>
      rw [List.cons_append, List.cons_append, closing?]
      exact map_add_iff ih 2 n
  | case4 s hlone hescape =>
      rw [List.cons_append, closing?_cons (ne_backslash hlone hescape), if_pos rfl]
      refine and_iff_right_of_imp fun h => ?_
      cases h
      exact Nat.succ_le_succ (Nat.zero_le _)
  | case5 c s hlone hescape hc ih =>
      rw [List.cons_append, closing?_cons (ne_backslash hlone hescape), if_neg hc]
      exact map_add_iff ih 1 n

/-- Three closing quotes are found in a text if and only if they are found there with more text
after it. -/
theorem tripleClosing?_append_iff (quote : Char) (seen : Nat) (s u : Text) (n : Nat) :
    n ≤ s.length ∧ tripleClosing? quote seen (s ++ u) = some n ↔
      tripleClosing? quote seen s = some n := by
  fun_induction tripleClosing? quote seen s generalizing n with
  | case1 =>
      simp only [reduceCtorEq, iff_false, List.length_nil]
      rintro ⟨hn, h⟩
      have hpos := tripleClosing?_pos h
      omega
  | case2 =>
      simp only [reduceCtorEq, iff_false]
      rintro ⟨hn, h⟩
      cases u with
      | nil => cases h
      | cons d u =>
          rw [List.cons_append, List.nil_append, tripleClosing?] at h
          obtain ⟨m, -, rfl⟩ := Option.map_eq_some_iff.1 h
          simp only [List.length_cons, List.length_nil] at hn
          omega
  | case3 _ c s ih =>
      rw [List.cons_append, List.cons_append, tripleClosing?]
      exact map_add_iff ih 2 n
  | case4 s hlone hescape =>
      rw [List.cons_append, tripleClosing?_cons (ne_backslash hlone hescape), if_pos rfl,
        if_pos rfl]
      refine and_iff_right_of_imp fun h => ?_
      cases h
      exact Nat.succ_le_succ (Nat.zero_le _)
  | case5 seen s hseen hlone hescape ih =>
      rw [List.cons_append, tripleClosing?_cons (ne_backslash hlone hescape), if_pos rfl,
        if_neg hseen]
      exact map_add_iff ih 1 n
  | case6 seen c s hlone hescape hc ih =>
      rw [List.cons_append, tripleClosing?_cons (ne_backslash hlone hescape), if_neg hc]
      exact map_add_iff ih 1 n

/-! ## Quoted literals -/

/-- A literal between tripled quotes that is closed stays closed. -/
theorem heredoc_append {quote : Char} {kind : Kind} {s : Text} (hs : 3 ≤ s.length)
    (h : (heredoc quote kind s).kind ≠ .illegal) (u : Text) :
    heredoc quote kind (s ++ u) = heredoc quote kind s := by
  unfold heredoc at h ⊢
  rw [List.drop_append_of_le_length hs]
  cases hclosing : tripleClosing? quote 0 (s.drop 3) with
  | none => exact absurd (by rw [hclosing]; rfl) h
  | some n => rw [((tripleClosing?_append_iff quote 0 (s.drop 3) u n).2 hclosing).2]

/-- A literal that is closed stays closed, unless a quote follows two quotes alone. -/
theorem quoted_append {quote : Char} {kind : Kind} {s : Text} {d : Char}
    (h : (quoted quote kind (quote :: s)).kind ≠ .illegal) (hd : s = [quote] → d ≠ quote)
    (u : Text) : quoted quote kind (quote :: (s ++ d :: u)) = quoted quote kind (quote :: s) := by
  -- after two quotes alone the next character decides whether they are tripled
  have htripled : ((s ++ d :: u)[0]? = some quote ∧ (s ++ d :: u)[1]? = some quote) ↔
      (s[0]? = some quote ∧ s[1]? = some quote) := by
    match s with
    | [] => exact absurd rfl h
    | [c] => simpa using hd
    | _ :: _ :: _ => simp
  unfold quoted at h ⊢
  simp only [List.getElem?_cons_succ, htripled, List.drop_succ_cons, List.drop_zero] at h ⊢
  split_ifs at h ⊢ with hquotes
  · have hs : 3 ≤ (quote :: s).length := by
      have := (List.getElem?_eq_some_iff.1 hquotes.2).1
      simp only [List.length_cons]
      omega
    exact heredoc_append hs h (d :: u)
  · cases hclosing : closing? quote s with
    | none => exact absurd (by rw [hclosing]; rfl) h
    | some n => rw [((closing?_append_iff quote s (d :: u) n).2 hclosing).2]

/-- A literal between tripled quotes is one also where nothing follows it. -/
theorem heredoc_of_append {quote : Char} {kind : Kind} {s u : Text}
    (hclosed : (heredoc quote kind (s ++ u)).kind ≠ .illegal)
    (h : (heredoc quote kind (s ++ u)).length = s.length) :
    3 < s.length ∧ heredoc quote kind s = heredoc quote kind (s ++ u) := by
  unfold heredoc at hclosed h ⊢
  cases hclosing : tripleClosing? quote 0 ((s ++ u).drop 3) with
  | none => exact absurd (by rw [hclosing]; rfl) hclosed
  | some n =>
      rw [hclosing] at h
      have hlength : n + 3 = s.length := h
      have hpos := tripleClosing?_pos hclosing
      rw [List.drop_append_of_le_length (by omega)] at hclosing
      have hle : n ≤ (s.drop 3).length := by
        rw [List.length_drop]
        omega
      rw [(tripleClosing?_append_iff quote 0 (s.drop 3) u n).1 ⟨hle, hclosing⟩]
      exact ⟨by omega, rfl⟩

/-- A quoted literal is one also where nothing follows it. -/
theorem quoted_of_append {quote : Char} {kind : Kind} {s u : Text}
    (hclosed : (quoted quote kind (quote :: s ++ u)).kind ≠ .illegal)
    (h : (quoted quote kind (quote :: s ++ u)).length = s.length + 1) :
    quoted quote kind (quote :: s) = quoted quote kind (quote :: s ++ u) := by
  unfold quoted at hclosed h ⊢
  split_ifs at hclosed h with htripled
  · obtain ⟨hlength, hheredoc⟩ := heredoc_of_append hclosed h
    rw [List.getElem?_append_left (by omega), List.getElem?_append_left (by omega)] at htripled
    rw [if_pos htripled, hheredoc, if_pos]
    rwa [List.getElem?_append_left (by omega), List.getElem?_append_left (by omega)]
  · -- two quotes in a short text are the same two quotes in the long one
    have hshort : ¬ ((quote :: s)[1]? = some quote ∧ (quote :: s)[2]? = some quote) := by
      rintro ⟨hsecond, hthird⟩
      refine htripled ⟨?_, ?_⟩
      · rw [List.getElem?_append_left (List.getElem?_eq_some_iff.1 hsecond).1, hsecond]
      · rw [List.getElem?_append_left (List.getElem?_eq_some_iff.1 hthird).1, hthird]
    rw [if_neg hshort, if_neg htripled]
    cases hclosing : closing? quote ((quote :: s ++ u).drop 1) with
    | none => exact absurd (by rw [hclosing]; rfl) hclosed
    | some n =>
        rw [hclosing] at h
        have hlength : n + 1 = s.length + 1 := h
        rw [List.drop_append_of_le_length (by simp)] at hclosing
        have hle : n ≤ s.length := by omega
        rw [List.drop_one, List.tail_cons] at hclosing ⊢
        rw [(closing?_append_iff quote s u n).1 ⟨hle, hclosing⟩]

end ElixirTerms.Extent
