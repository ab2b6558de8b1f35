/-
# Trivia stands for nothing

Blanks may be put before a text or between its tokens, and comments may be taken out of it: the text
stays the same program (`sameProgram_of_triviaEdit`).  What is exchanged thereby is the text after
some token.  A token that is no trivia stays before blanks, unless it is an alias with a dot at its
end; white space and comments may take some of the blanks, but the gist has none of them.
-/
import ElixirTerms.Proofs.Gist
import ElixirTerms.Proofs.Lookahead

namespace ElixirTerms

namespace Token

open Extent Unicode

variable {t : Token} {ts : List Token} {s u w : Text} {p : Position}

/-! ## Gists after a token -/

/-- The gist of a text goes on behind a token that stands before the rest of the text. -/
theorem Heads.gist_eq (h : Heads t u) :
    gist (t.lexeme ++ u) = if t.isSignificant then t.unplaced :: gist u else gist u := by
  obtain ⟨kind, lexeme, q⟩ := t
  obtain ⟨c, s, rfl, hscan⟩ := h
  obtain ⟨hfirst, hafter⟩ := first_of_scan hscan .nowhere
  rw [List.cons_append, gist_cons, hfirst, hafter]
  rfl

/-- Blanks at the head of a text do not change its gist. -/
theorem gist_blanks (hw : ∀ d ∈ w, isBlank d = true) (u : Text) : gist (w ++ u) = gist u := by
  induction w with
  | nil => rfl
  | cons d w ih =>
      rw [List.forall_mem_cons] at hw
      rw [List.cons_append, gist_of_blank hw.1, ih hw.2]

/-- The gist of a text that starts with a hash is that of what follows the comment. -/
theorem gist_hash (s : Text) : gist ('#' :: s) = gist (s.dropWhile isCommentChar) := by
  have hhash : isCommentChar '#' = true := by decide
  have hheads : Heads ⟨.comment, '#' :: s.takeWhile isCommentChar, .nowhere⟩
      (s.dropWhile isCommentChar) := by
    refine ⟨'#', s.takeWhile isCommentChar, rfl, ?_⟩
    rw [List.takeWhile_append_dropWhile]
    have hscan : scan '#' s = comment ('#' :: s) := rfl
    rw [hscan, comment, run, List.takeWhile_cons_of_pos hhash, List.length_cons]
  have hgist := hheads.gist_eq
  rwa [List.cons_append, List.takeWhile_append_dropWhile] at hgist

/-- Only a blank and the hash start trivia. -/
theorem isBlank_or_hash {c : Char} {e : Extent} (h : scan c s = e)
    (htrivia : e.kind ∈ [Kind.whitespace, Kind.comment]) : isBlank c = true ∨ c = '#' := by
  subst h
  cases hblank : isBlank c with
  | true => exact Or.inl rfl
  | false =>
      refine Or.inr (Decidable.byContradiction fun hhash => ?_)
      exact scan_kind_of_not_blank hblank hhash s (List.mem_append_left [Kind.eof] htrivia)

/-- White space is all blanks. -/
theorem Heads.isBlank_of_whitespace (h : Heads t u) (hkind : t.kind = .whitespace) :
    ∀ d ∈ t.lexeme, isBlank d = true := by
  obtain ⟨c, s, hlexeme, hscan⟩ := h
  rw [hkind] at hscan
  rcases isBlank_or_hash hscan (by simp) with hblank | rfl
  · rw [scan, if_pos hblank] at hscan
    have hlength : run isBlank (c :: s ++ u) = (c :: s).length := congrArg Extent.length hscan
    rw [hlexeme]
    exact List.takeWhile_eq_self_iff.1 (takeWhile_of_append hlength).2
  · cases congrArg Extent.kind hscan

/-- A comment starts with a hash and takes all characters up to the end of its line. -/
theorem Heads.of_comment (h : Heads t u) (hkind : t.kind = .comment) :
    ∃ s, t.lexeme = '#' :: s ∧ (∀ d ∈ s, isCommentChar d = true) ∧ Ends isCommentChar u := by
  obtain ⟨c, s, hlexeme, hscan⟩ := h
  rw [hkind] at hscan
  rcases isBlank_or_hash hscan (by simp) with hblank | rfl
  · rw [scan, if_pos hblank] at hscan
    cases congrArg Extent.kind hscan
  · have hlength : run isCommentChar ('#' :: s ++ u) = ('#' :: s).length :=
      congrArg Extent.length hscan
    have hall := List.takeWhile_eq_self_iff.1 (takeWhile_of_append hlength).2
    exact ⟨s, hlexeme, (List.forall_mem_cons.1 hall).2, ends_of_run hlength⟩

/-! ## Texts that may take the place of the text after a token -/

/-- A text may take the place of another after a token: it starts with no character but a blank, and
it has the gist of the other, also if a comment before it takes the rest of its line. -/
structure StandsIn (w u : Text) : Prop where
  blanked : Blanked w
  gist_eq : gist w = gist u
  after_comment : Ends isCommentChar u → gist (w.dropWhile isCommentChar) = gist u

/-- A text with blanks before it may take its place. -/
theorem standsIn_blanks (hne : w ≠ []) (hw : ∀ d ∈ w, isBlank d = true) (u : Text) :
    StandsIn (w ++ u) u := by
  refine ⟨?_, gist_blanks hw u, fun hu => ?_⟩
  · obtain ⟨b, w, rfl⟩ := List.exists_cons_of_ne_nil hne
    intro d hd
    cases hd
    exact hw b List.mem_cons_self
  · rw [dropWhile_append_of_ends hu]
    exact gist_blanks (fun d hd => hw d ((List.dropWhile_sublist _).subset hd)) u

/-- What follows a comment may take the place of both. -/
theorem standsIn_uncommented (h : Heads t u) (hkind : t.kind = .comment) :
    StandsIn u (t.lexeme ++ u) := by
  obtain ⟨s, hlexeme, hs, hu⟩ := h.of_comment hkind
  refine ⟨fun d hd => ?_, ?_, fun hhash => ?_⟩
  · exact isBlank_of_not_isCommentChar (hu d hd)
  · rw [h.gist_eq, if_neg]
    simp [isSignificant, hkind, Kind.isTrivia]
  · rw [hlexeme] at hhash
    exact absurd (hhash '#' rfl) (by decide)

/-- After a token a text may be exchanged for one that stands in for it. -/
theorem StandsIn.gist_behind (h : StandsIn w u) (hheads : Heads t u) (hu : u ≠ [])
    (hdotted : ¬ Dotted t.kind t.lexeme) : gist (t.lexeme ++ w) = gist (t.lexeme ++ u) := by
  by_cases hwhitespace : t.kind = .whitespace
  · have hblank := hheads.isBlank_of_whitespace hwhitespace
    rw [gist_blanks hblank, gist_blanks hblank, h.gist_eq]
  by_cases hcomment : t.kind = .comment
  · obtain ⟨s, hlexeme, hs, hends⟩ := hheads.of_comment hcomment
    have hpassed (v : Text) : gist ('#' :: s ++ v) = gist (v.dropWhile isCommentChar) := by
      rw [List.cons_append, gist_hash, List.dropWhile_append_of_pos hs]
    have hstays : u.dropWhile isCommentChar = u := dropWhile_append_of_ends hends []
    rw [hlexeme, hpassed, hpassed, hstays, h.after_comment hends]
  · have htrivia : t.kind.isTrivia = false := by simp [Kind.isTrivia, hwhitespace, hcomment]
    have hthere := hheads.exchange hu (.blanked h.blanked htrivia hdotted)
    rw [hthere.gist_eq, hheads.gist_eq, h.gist_eq]

/-! ## Gists behind tokens -/

/-- The gist of a text holds the significant tokens that stand before the rest of it. -/
theorem HeadsFrom.gist_eq (h : HeadsFrom p ts u) :
    gist (ts.flatMap lexeme ++ u) = (Program.significant ts).map unplaced ++ gist u := by
  rw [← significantFrom_unplaced p, significantFrom, h, Program.significant, List.filter_append,
    List.map_append, ← significantFrom_unplaced (p.after (ts.flatMap lexeme)) u]
  rfl

/-- Behind a token that is followed by something, texts look alike if one starts with a blank. -/
theorem alike_behind (hs : s ≠ []) (hu : u ≠ []) (hw : Blanked w) : Alike (s ++ u) (s ++ w) := by
  obtain ⟨c, s, rfl⟩ := List.exists_cons_of_ne_nil hs
  refine ⟨rfl, fun hupper => ?_, fun hlone => ?_⟩
  · cases s with
    | cons d s => exact hupper
    | nil =>
        cases w with
        | nil => cases hupper
        | cons d w =>
            have hd : isUpper d = true := hupper
            rw [not_isUpper_of_isBlank (hw d rfl)] at hd
            cases hd
  · have hpos := List.length_pos_iff.2 hu
    simp only [List.cons_append, List.length_cons, List.length_append] at hlone
    omega

/-- Behind tokens a text may be exchanged for one that stands in for it, unless the last of them is
an alias with a dot at its end. -/
theorem StandsIn.gist_behind_all (h : StandsIn w u) (hheads : HeadsFrom p ts u) (hu : u ≠ [])
    (hdotted : ∀ t ∈ ts.getLast?, Heads t u → ¬ Dotted t.kind t.lexeme) :
    gist (ts.flatMap lexeme ++ w) = gist (ts.flatMap lexeme ++ u) := by
  rcases List.eq_nil_or_concat' ts with rfl | ⟨before, t, rfl⟩
  · exact h.gist_eq
  -- the last token sees what is exchanged, and those before it see no more than the last
  obtain ⟨hbefore, hlast⟩ := headsFrom_append.1 hheads
  rw [List.flatMap_singleton] at hbefore
  obtain ⟨hlast, -, -⟩ := headsFrom_cons.1 hlast
  have hlexeme := hlast.lexeme_ne_nil
  have hstays := hbefore.alike (by simp [hlexeme]) (alike_behind hlexeme hu h.blanked)
  rw [List.flatMap_append, List.flatMap_singleton, List.append_assoc, List.append_assoc,
    hstays.gist_eq, hbefore.gist_eq, h.gist_behind hlast hu (hdotted t (by simp) hlast)]

end Token

/-! ## Programs -/

namespace Program

open Token Extent Unicode

/-- A text is the same program as another: it has the same significant tokens, and it is read as the
same nodes, or refused with the same error about the same token. -/
structure SameProgram (s' s : Text) : Prop where
  gist_eq : gist s' = gist s
  ok : ∀ ns, parseText s = .ok ns → ∃ ns', parseText s' = .ok ns' ∧ Node.sameAll ns' ns = true
  error : ∀ e, parseText s = .error e → ∃ e', parseText s' = .error e' ∧
    e'.unplaced = e.unplaced ∧ e'.token?.map Token.unplaced = e.token?.map Token.unplaced

/-- A text with the same gist is the same program. -/
theorem sameProgram_of_gist {s s' : Text} (h : gist s' = gist s) : SameProgram s' s := by
  have hsame := parse_gist s'
  rw [h, parse_gist] at hsame
  refine ⟨h, fun ns hs => ?_, fun e hs => ?_⟩ <;> rw [hs] at hsame
  · cases hs' : parseText s' with
    | error e =>
        rw [hs'] at hsame
        cases hsame
    | ok ns' =>
        rw [hs'] at hsame
        injection hsame with hsame
        exact ⟨ns', rfl, (Node.sameAll_iff ns' ns).2 hsame.symm⟩
  · cases hs' : parseText s' with
    | ok ns' =>
        rw [hs'] at hsame
        cases hsame
    | error e' =>
        rw [hs'] at hsame
        injection hsame with hsame
        refine ⟨e', rfl, hsame.symm, ?_⟩
        rw [← ParseError.token?_unplaced, ← ParseError.token?_unplaced, hsame]

/-- An edit of the trivia of a text: blanks are put before the text, or between two of its tokens of
which the first is no alias with a dot at its end, or a comment is taken out. -/
inductive TriviaEdit (s : Text) : Text → Prop where
  | indent {w : Text} (hw : ∀ d ∈ w, isBlank d = true) : TriviaEdit s (w ++ s)
  | space {before later : List Token} {t u : Token} {w : Text}
      (hlex : lex s = before ++ t :: u :: later) (hu : u.kind ≠ .eof)
      (hdotted : ¬ Dotted t.kind t.lexeme) (hw : ∀ d ∈ w, isBlank d = true) :
      TriviaEdit s ((before ++ [t]).flatMap lexeme ++ (w ++ (u :: later).flatMap lexeme))
  | uncomment {before later : List Token} {t : Token} (hlex : lex s = before ++ t :: later)
      (ht : t.kind = .comment) : TriviaEdit s (before.flatMap lexeme ++ later.flatMap lexeme)

/-- **Trivia is inert.**  A text stays the same program when its trivia is edited. -/
theorem sameProgram_of_triviaEdit {s s' : Text} (h : TriviaEdit s s') : SameProgram s' s := by
  refine sameProgram_of_gist ?_
  cases h with
  | indent hw => exact gist_blanks hw s
  | @space before later t u w hlex hu hdotted hw =>
      have hsplit : lex s = (before ++ [t]) ++ u :: later := by simpa using hlex
      obtain ⟨v, rfl, hheads, hv⟩ := lexFrom_split hsplit (List.cons_ne_nil u later)
      have hspelled : (u :: later).flatMap lexeme = v := by rw [hv, lexemes_lexFrom]
      rw [hspelled]
      by_cases hne : w = []
      · rw [hne, List.nil_append]
      · refine (standsIn_blanks hne hw v).gist_behind_all hheads ?_ (by simp [hdotted])
        rintro rfl
        rw [lexFrom_nil] at hv
        exact hu (congrArg Token.kind (List.cons.inj hv).1)
  | @uncomment before later t hlex ht =>
      obtain ⟨v, rfl, hheads, hv⟩ := lexFrom_split hlex (List.cons_ne_nil t later)
      have hne : later ≠ [] := (rest_ne_nil_iff hv.symm).2 (by simp [ht])
      obtain ⟨v, rfl, hcomment, -, rfl⟩ := heads_of_lexFrom hv.symm hne
      rw [lexemes_lexFrom]
      refine (standsIn_uncommented hcomment ht).gist_behind_all hheads
        (by simp [hcomment.lexeme_ne_nil]) fun b _ hb => hb.not_dotted ?_
      -- the hash is not upper case, so no alias goes on over a dot before it
      obtain ⟨s, hlexeme, -⟩ := hcomment.of_comment ht
      rw [hlexeme]
      exact (stops_cons .atom '#' _).2 (by decide)

/-- A list with a comment stays the same before a blank, with a blank after the comment, and without
the comment. -/
theorem sameProgram_commented_list : SameProgram " [1#c\n]" "[1#c\n]" ∧
    SameProgram "[1#c \n]" "[1#c\n]" ∧ SameProgram "[1\n]" "[1#c\n]" := by
  have hlex : lex "[1#c\n]" = [⟨.delimiter, ['['], ⟨1, 1⟩⟩, ⟨.number, ['1'], ⟨1, 2⟩⟩] ++
      ⟨.comment, ['#', 'c'], ⟨1, 3⟩⟩ :: ⟨.whitespace, ['\n'], ⟨1, 5⟩⟩ ::
        [⟨.delimiter, [']'], ⟨2, 1⟩⟩, ⟨.eof, [], ⟨2, 2⟩⟩] := by cbv
  have hblank : ∀ d ∈ [' '], isBlank d = true := List.forall_mem_singleton.2 (by decide)
  exact ⟨sameProgram_of_triviaEdit (.indent hblank),
    sameProgram_of_triviaEdit (.space hlex (by decide) (by decide) hblank),
    sameProgram_of_triviaEdit (.uncomment hlex rfl)⟩

end Program

end ElixirTerms
