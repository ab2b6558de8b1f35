/-
# Where the input is said to end

An error for missing tokens names the token after which the input is said to end.  The contents of
brackets are read segment by segment, and to the reader of a segment the input ends where the
segment does.  So the token named is the last of the list, or it is the last of an unfinished part
inside brackets that are closed further on (`unexpectedEnd_of_parse`).
-/
import ElixirTerms.Proofs.Grammar.Balance
import ElixirTerms.Proofs.Grammar.Brackets
import ElixirTerms.Proofs.Forward

namespace ElixirTerms

open Grammar

/-! ## Brackets and their parts -/

namespace Segment

/-- A token changes the balance by what it counts. -/
theorem balanceAfter_eq (depth : Int) (t : Token) :
    balanceAfter depth t = depth + openBrackets [t] := by
  simp only [balanceAfter, openBrackets, List.countP_singleton]
  cases hopener : t.isOpener with
  | true =>
      rw [isCloser_of_isOpener hopener]
      simp
  | false =>
      cases t.isCloser with
      | true =>
          simp only [Bool.false_eq_true, if_false, if_true]
          omega
      | false => simp

/-- What is found outside all brackets has as many closing as opening ones before it. -/
theorem openBrackets_take_of_topLevelIndex? {p : Token → Bool} {depth : Int} {ts : List Token}
    {i : Nat} (h : topLevelIndex? p depth ts = some i) : depth + openBrackets (ts.take i) = 0 := by
  induction ts generalizing depth i with
  | nil => cases h
  | cons t ts ih =>
      rw [topLevelIndex?] at h
      split_ifs at h with ht
      · cases h
        rw [List.take_zero, openBrackets_nil, ht.2.1, Int.add_zero]
      · obtain ⟨j, hj, rfl⟩ := Option.map_eq_some_iff.1 h
        have hcount := ih hj
        rw [balanceAfter_eq] at hcount
        rw [List.take_succ_cons, openBrackets_cons]
        omega

/-- Both pieces of closed tokens are closed if the first has as many closing brackets as opening
ones. -/
theorem Closed.of_append (us : List Token) {vs : List Token} (h : Closed (us ++ vs))
    (hus : openBrackets us = 0) : Closed us ∧ Closed vs := by
  rw [Closed, depthOver_append] at h
  obtain ⟨d, hd, hvs⟩ := Option.bind_eq_some_iff.1 h
  have hcount := eq_of_depthOver hd
  obtain rfl : d = 0 := by omega
  exact ⟨hd, hvs⟩

/-- A segment of a row has closed tokens before it, and behind it there is nothing or a comma. -/
theorem exists_split_of_commaJoined {segments : List (List Token)} {us segment : List Token}
    (h : CommaJoined segments us) (hclosed : ∀ s ∈ segments, Closed s)
    (hsegment : segment ∈ segments) :
    ∃ left right, us = left ++ (segment ++ right) ∧ openBrackets left = 0 ∧
      ∀ stop ∈ right.head?, stop.kind = .comma := by
  induction h with
  | none => cases hsegment
  | one ts =>
      rw [List.mem_singleton.1 hsegment]
      exact ⟨[], [], by simp, rfl, nofun⟩
  | @more ts us comma segments hcomma _ _ ih =>
      obtain ⟨hts, hclosed⟩ := List.forall_mem_cons.1 hclosed
      rcases List.mem_cons.1 hsegment with rfl | hsegment
      · refine ⟨[], comma :: us, rfl, rfl, ?_⟩
        rintro stop ⟨⟩
        exact hcomma
      · obtain ⟨left, right, rfl, hleft, hright⟩ := ih hclosed hsegment
        refine ⟨ts ++ comma :: left, right, by simp, ?_, hright⟩
        rw [openBrackets_append, openBrackets_cons, hts.openBrackets_eq, openBrackets_comma hcomma,
          hleft]
        rfl

variable {closer : Text} {last l : Option Token} {ts rest : List Token}
  {missing : ParseError.Missing}

/-- Where a row breaks off, the last token that the reader knows is named.  Tokens that close the
bracket before the row do not break off. -/
theorem rowFrom_unexpectedEnd {depth : Nat} {taken : List Token}
    (h : rowFrom closer last depth taken ts = .fail (.unexpectedEnd missing l) rest) :
    l = last ∧ depthOver (depth + 1) ts ≠ some 0 := by
  induction ts generalizing depth taken with
  | nil =>
      rw [rowFrom] at h
      split at h
      · cases h
      · cases h
        exact ⟨rfl, by simp⟩
  | cons t ts ih =>
      rw [rowFrom] at h
      split at h
      · rename_i d hd
        rw [depthOver_cons, depthAfter_add hd 1]
        exact ih h
      · rename_i hd
        split_ifs at h with _ hcomma
        · cases h
        · rw [depthOver_cons, eq_zero_of_depthAfter_eq_none hd, depthAfter_comma_succ hcomma]
          exact ih (Reading.map_eq_fail_iff.1 h)
        · cases h

/-- Where the contents of brackets break off, the last token that the reader knows is named. -/
theorem row_unexpectedEnd (h : row closer last ts = .fail (.unexpectedEnd missing l) rest) :
    l = last ∧ depthOver 1 ts ≠ some 0 := by
  cases ts with
  | nil =>
      cases h
      exact ⟨rfl, by simp⟩
  | cons t ts =>
      rw [row] at h
      split_ifs at h
      exact rowFrom_unexpectedEnd h

end Segment

namespace Grammar

open Expression Segment

variable {element : Element} {head : List Token} {brackets : Brackets}

/-- The tokens before the contents of brackets open these. -/
theorem Opens.depthOver_eq (h : Opens element head brackets) : depthOver 0 head = some 1 := by
  cases h with
  | collection shape ho =>
      rw [depthOver_cons, depthAfter_opening ho (isOpening_opener shape)]
      rfl
  | @hashMap sign opening hs ho =>
      rw [← List.singleton_append, depthOver_append, closed_percent hs, Option.bind_some,
        depthOver_cons, depthAfter_opening ho (Or.inr (Or.inr rfl))]
      rfl
  | call hidentifier hkind _ ho =>
      rw [depthOver_cons, depthAfter_of_kind (by simp [hidentifier]) (by simp [hidentifier]),
        Option.bind_some, depthOver_cons, depthAfter_of_kind (by simp [hkind]) (by simp [hkind]),
        Option.bind_some, depthOver_cons, depthAfter_opening ho (Or.inl rfl)]
      rfl

/-- Brackets that are closed are closed as a whole, with what stands before their contents. -/
theorem Opens.closed (h : Opens element head brackets) {closing : Token}
    (hc : closing.isDelimiter brackets.closer = true) {segments : List (List Token)}
    {us : List Token} (hjoined : CommaJoined segments us) (hclosed : ∀ s ∈ segments, Closed s) :
    Closed (head ++ (us ++ [closing])) := by
  rw [Closed, depthOver_append, h.depthOver_eq, Option.bind_some, depthOver_append,
    depthOver_of_commaJoined hjoined hclosed 0, Option.bind_some, depthOver_cons,
    depthAfter_closing_succ hc h.isClosing]
  rfl

end Grammar

namespace Expression

open Segment

/-! ## Unfinished expressions -/

/-- The beginning of an expression that breaks off outside all brackets: nothing at all, the sign of
an attribute, a percent sign, the name and the dot of a call, or an attribute of which the value is
such a beginning.  The token that comes next is to be looked at where an expression should start, and
to be consumed elsewhere. -/
inductive Unfinished : ParseError.Missing → List Token → Prop where
  | nothing : Unfinished .next []
  | sign {sign : Token} : sign.kind = .atSign → Unfinished .current [sign]
  | percent {sign : Token} : sign.isDelimiter ['%'] = true → Unfinished .current [sign]
  | callName {identifier dot : Token} : identifier.kind = .identifier → isCallDot dot = true →
      Unfinished .current [identifier, dot]
  | value {missing : ParseError.Missing} {sign name : Token} {ts : List Token} :
      sign.kind = .atSign → name.kind = .identifier → Unfinished missing ts →
      Unfinished missing (sign :: name :: ts)

/-- A comma, a closing bracket or an arrow: what ends a part of the contents of brackets. -/
def EndsPart (t : Token) : Prop :=
  t.kind = .comma ∨ t.isCloser = true ∨ t.isOperator ['=', '>'] = true

/-- A part of a segment that ends in a token is unfinished.  What comes behind it, if anything does,
ends it. -/
inductive UnfinishedPart (missing : ParseError.Missing) (t : Token) : List Token → Prop where
  | intro {before part after : List Token} : 0 ≤ openBrackets before → Unfinished missing part →
      part.getLast? = some t → (∀ stop ∈ after.head?, EndsPart stop) →
      UnfinishedPart missing t (before ++ (part ++ after))

/-- Inside brackets a part that ends in a token is unfinished, and something comes behind it that
ends it. -/
inductive UnfinishedInside (missing : ParseError.Missing) (t : Token) : List Token → Prop where
  | intro {before part after : List Token} {stop : Token} : 0 < openBrackets before →
      Unfinished missing part → part.getLast? = some t → EndsPart stop →
      UnfinishedInside missing t (before ++ (part ++ stop :: after))

variable {missing : ParseError.Missing} {t : Token} {ts : List Token}

/-- What is unfinished in a part of a segment is so in the segment. -/
theorem UnfinishedPart.append (h : UnfinishedPart missing t ts) (left right : List Token)
    (hleft : 0 ≤ openBrackets left) (hright : ∀ stop ∈ right.head?, EndsPart stop) :
    UnfinishedPart missing t (left ++ (ts ++ right)) := by
  obtain @⟨before, part, after, hbefore, hpart, hlast, hafter⟩ := h
  have hsplit : left ++ (before ++ (part ++ after) ++ right) =
      (left ++ before) ++ (part ++ (after ++ right)) := by simp
  rw [hsplit]
  refine .intro ?_ hpart hlast ?_
  · rw [openBrackets_append]
    omega
  · cases after with
    | nil => exact hright
    | cons stop after => exact hafter

/-- What is unfinished in a segment is so inside the brackets around it. -/
theorem UnfinishedPart.inside (h : UnfinishedPart missing t ts) {left right : List Token}
    {closing : Token} (hleft : 0 < openBrackets left) (hright : ∀ stop ∈ right.head?, EndsPart stop)
    (hclosing : EndsPart closing) :
    UnfinishedInside missing t (left ++ (ts ++ (right ++ [closing]))) := by
  have hstop : ∀ stop ∈ (right ++ [closing]).head?, EndsPart stop := by
    cases right with
    | nil =>
        rintro stop ⟨⟩
        exact hclosing
    | cons stop right => exact hright
  obtain @⟨before, part, after, hbefore, hpart, hlast, hafter⟩ := h
  -- some token comes behind the part, at the latest the closing bracket
  obtain ⟨stop, later, hlater⟩ : ∃ stop later, after ++ (right ++ [closing]) = stop :: later :=
    List.exists_cons_of_ne_nil (by simp)
  have hends : EndsPart stop := by
    cases after with
    | nil => exact hstop stop (by rw [List.nil_append] at hlater; rw [hlater]; rfl)
    | cons u after =>
        obtain ⟨rfl, -⟩ := List.cons.inj hlater
        exact hafter u rfl
  have hsplit : left ++ (before ++ (part ++ after) ++ (right ++ [closing])) =
      (left ++ before) ++ (part ++ stop :: later) := by
    rw [← hlater]
    simp
  rw [hsplit]
  refine .intro ?_ hpart hlast hends
  rw [openBrackets_append]
  omega

/-- What is unfinished inside brackets is so in a segment that starts with these. -/
theorem UnfinishedInside.part (h : UnfinishedInside missing t ts) (later : List Token) :
    UnfinishedPart missing t (ts ++ later) := by
  obtain @⟨before, part, after, stop, hbefore, hpart, hlast, hstop⟩ := h
  have hsplit : before ++ (part ++ stop :: after) ++ later =
      before ++ (part ++ (stop :: (after ++ later))) := by simp
  rw [hsplit]
  refine .intro hbefore.le hpart hlast ?_
  rintro _ ⟨⟩
  exact hstop

/-- What is unfinished inside the brackets of the value of an attribute is so inside those of the
attribute. -/
theorem UnfinishedInside.value (h : UnfinishedInside missing t ts) {sign name : Token}
    (hattribute : openBrackets [sign, name] = 0) :
    UnfinishedInside missing t (sign :: name :: ts) := by
  obtain @⟨before, part, after, stop, hbefore, hpart, hlast, hstop⟩ := h
  refine @UnfinishedInside.intro _ _ (sign :: name :: before) part after stop ?_ hpart hlast hstop
  have hcount := openBrackets_append [sign, name] before
  rw [List.cons_append, List.cons_append, List.nil_append] at hcount
  omega

/-! ## Readers that run out of tokens -/

/-- How a reader runs out of tokens.  The tokens break off and the last token that the reader knows
is named; then they are unfinished, unless a bracket is open.  Or a part is unfinished inside
brackets that are closed, and its last token is named. -/
inductive RunsOut (missing : ParseError.Missing) (last l : Option Token) (ts : List Token) :
    Prop where
  | breaksOff : l = last → (Closed ts → Unfinished missing ts) → RunsOut missing last l ts
  | inside (whole later : List Token) {t : Token} : ts = whole ++ later → Closed whole →
      UnfinishedInside missing t whole → l = some t → RunsOut missing last l ts

/-- The reader of expressions runs out of tokens in no other way. -/
def ReaderRunsOut (read : Reader Node) : Prop :=
  ∀ ⦃last ts missing l rest⦄, read last ts = .fail (.unexpectedEnd missing l) rest →
    RunsOut missing last l ts

/-- The reader of segments runs out of tokens only where a part of the segment is unfinished, and
names the last token of that part. -/
def ItemRunsOut {β : Type} (item : List Token → Except ParseError β) : Prop :=
  ∀ ⦃segment missing l⦄, segment ≠ [] → Closed segment →
    item segment = .error (.unexpectedEnd missing l) →
    ∃ t, l = some t ∧ UnfinishedPart missing t segment

/-! ## Items -/

/-- An element runs out of tokens as the expression does that it should be. -/
theorem whole_runsOut {read : Reader Node} (h : ReaderRunsOut read) : ItemRunsOut (whole read) := by
  intro segment missing l hne hclosed he
  obtain ⟨t, -, hlast⟩ := exists_getLast? hne
  unfold whole at he
  split at he
  · cases he
  · cases he
  · rename_i e rest hread
    cases he
    cases h hread with
    | breaksOff hl hunfinished =>
        refine ⟨t, hl.trans hlast, ?_⟩
        have hpart : UnfinishedPart missing t ([] ++ (segment ++ [])) :=
          .intro (by simp) (hunfinished hclosed) hlast nofun
        simpa using hpart
    | @inside whole later u hsplit _ hinside hl =>
        rw [hsplit]
        exact ⟨u, hl, hinside.part later⟩

/-- An element for which there is no room runs out of nothing. -/
theorem nestingTooDeep_runsOut :
    ItemRunsOut fun _ => (.error .nestingTooDeep : Except ParseError Node) := by
  intro segment missing l _ _ he
  cases he

variable {element : Element} {value : Reader Node}

/-- An entry with an arrow runs out of tokens in its key or in its value. -/
theorem arrowEntry_runsOut (h : ItemRunsOut element) {first : Token} {segment : List Token}
    (hclosed : Closed segment) {l : Option Token}
    (he : arrowEntry element first segment = .error (.unexpectedEnd missing l)) :
    ∃ t, l = some t ∧ UnfinishedPart missing t segment := by
  unfold arrowEntry at he
  split at he
  · cases he
  rename_i i hi
  obtain ⟨arrow, hsplit, harrow⟩ := split_of_topLevelIndex? hi
  have hkey : openBrackets (segment.take i) = 0 := by
    have hcount := openBrackets_take_of_topLevelIndex? hi
    omega
  have hkind : arrow.kind = .operator := by
    simp only [Token.isOperator, decide_eq_true_eq] at harrow
    exact harrow.1
  have hclosedArrow : Closed [arrow] := closed_of_kind (by simp [hkind]) (by simp [hkind])
  rw [hsplit] at hclosed
  obtain ⟨hclosedKey, hrest⟩ := Closed.of_append _ hclosed hkey
  obtain ⟨-, hclosedValue⟩ := Closed.of_append [arrow] hrest hclosedArrow.openBrackets_eq
  dsimp only at he
  split_ifs at he with hempty
  · cases he
  obtain ⟨hkeyNe, hvalueNe⟩ := not_or.1 hempty
  rcases bind_eq_error_iff.1 he with hk | ⟨k, -, he⟩
  · obtain ⟨t, hl, hpart⟩ := h hkeyNe hclosedKey hk
    refine ⟨t, hl, ?_⟩
    rw [hsplit]
    refine hpart.append [] _ (by simp) ?_
    rintro stop ⟨⟩
    exact .inr (.inr harrow)
  rcases bind_eq_error_iff.1 he with hv | ⟨v, -, he⟩
  · obtain ⟨t, hl, hpart⟩ := h hvalueNe hclosedValue hv
    refine ⟨t, hl, ?_⟩
    have hleft : openBrackets (segment.take i ++ [arrow]) = 0 := by
      rw [openBrackets_append, hkey, hclosedArrow.openBrackets_eq]
      rfl
    have happend := hpart.append _ [] hleft.ge (by simp)
    rw [hsplit]
    simpa using happend
  · exact absurd he (pure_ne_error _)

/-- An entry of a map runs out of tokens in its key or in its value. -/
theorem mapEntry_runsOut (h : ItemRunsOut element) : ItemRunsOut (mapEntry element) := by
  intro segment missing l hne hclosed he
  unfold mapEntry at he
  split at he
  · exact absurd rfl hne
  · exact arrowEntry_runsOut h hclosed he
  · rename_i first second value
    split_ifs at he with hkeyword hempty
    · cases he
    · -- the name and the colon of a keyword are closed, and so is the value
      obtain ⟨hname, hcolon⟩ := Bool.and_eq_true_iff.1 hkeyword
      have hkey := ((isKeywordKey_iff first).1 hname).kind
      simp only [Token.isOperator, decide_eq_true_eq] at hcolon
      have hfirst : Closed [first] := closed_of_kind hkey.1 hkey.2
      have hsecond : Closed [second] := closed_of_kind (by simp [hcolon.1]) (by simp [hcolon.1])
      have hboth := (hfirst.append hsecond).openBrackets_eq
      obtain ⟨t, hl, hpart⟩ := h hempty (Closed.of_append [first, second] hclosed hboth).2
        (map_eq_error_iff.1 he)
      have happend := hpart.append _ [] hboth.ge (by simp)
      exact ⟨t, hl, by simpa using happend⟩
    · exact arrowEntry_runsOut h hclosed he

/-- The items of all brackets run out of tokens where elements do. -/
theorem item_runsOut (h : ItemRunsOut element) {head : List Token} {brackets : Brackets}
    (hopens : Opens element head brackets) : ItemRunsOut brackets.item := by
  cases hopens with
  | collection => exact h
  | hashMap => exact mapEntry_runsOut h
  | call => exact h

/-! ## Brackets -/

variable {last l : Option Token} {rest : List Token}

/-- **Brackets.**  Where expressions in brackets run out of tokens, the row of segments breaks off,
or a part of a segment is unfinished. -/
theorem opens_runsOut (h : ItemRunsOut element) {head us : List Token} {brackets : Brackets}
    (hopens : Opens element head brackets)
    (hread : enclosed brackets.closer brackets.read last us =
      .fail (.unexpectedEnd missing l) rest) : RunsOut missing last l (head ++ us) := by
  rcases Reading.build_eq_fail_iff.1 hread with hrow | ⟨segments, hrow, hitems⟩
  · obtain ⟨hl, hdepth⟩ := row_unexpectedEnd hrow
    refine .breaksOff hl ?_
    intro hclosed
    rw [Closed, depthOver_append, hopens.depthOver_eq, Option.bind_some] at hclosed
    exact absurd hclosed hdepth
  · obtain ⟨ts, closing, rfl, hc, hjoined, hall⟩ := commaJoined_of_row hrow
    have hclosed : ∀ s ∈ segments, Closed s := fun s hs => (hall s hs).2
    obtain ⟨segment, hmem, hitem⟩ := exists_of_mapM_error (map_eq_error_iff.1 hitems)
    obtain ⟨t, hl, hpart⟩ :=
      item_runsOut h hopens (hall segment hmem).1 (hclosed segment hmem) hitem
    obtain ⟨left, right, rfl, hleft, hright⟩ := exists_split_of_commaJoined hjoined hclosed hmem
    refine .inside (head ++ (left ++ (segment ++ right) ++ [closing])) rest (by simp)
      (hopens.closed hc hjoined hclosed) ?_ hl
    have hcount : 0 < openBrackets (head ++ left) := by
      have hhead := eq_of_depthOver hopens.depthOver_eq
      rw [openBrackets_append]
      omega
    have hinside := hpart.inside hcount (fun stop hstop => .inl (hright stop hstop))
      (.inr (.inl (isCloser_of_isDelimiter hc hopens.isClosing).2))
    simpa using hinside

/-! ## Expressions -/

/-- What starts with an identifier and runs out of tokens is the beginning of a call. -/
theorem identified_unexpectedEnd {identifier : Token} {us : List Token}
    (hkind : identifier.kind = .identifier)
    (h : identified element last (identifier :: us) = .fail (.unexpectedEnd missing l) rest) :
    (l = last ∧ Unfinished missing (identifier :: us)) ∨
      ∃ head brackets later, identifier :: us = head ++ later ∧ Opens element head brackets ∧
        enclosed brackets.closer brackets.read last later =
          .fail (.unexpectedEnd missing l) rest := by
  rw [identified] at h
  split_ifs at h with hdot
  · rcases us with _ | ⟨dot, _ | ⟨opening, us⟩⟩
    · cases hdot
    · cases h
      exact .inl ⟨rfl, .callName hkind hdot⟩
    · rw [call] at h
      split_ifs at h with ho
      · simp only [List.head?_cons, Option.any_some, isCallDot, decide_eq_true_eq] at hdot
        exact .inr ⟨[identifier, dot, opening], _, us, rfl, .call hkind hdot.1 hdot.2 ho, h⟩
      · cases h
  · cases h

/-- What starts with a delimiter and runs out of tokens is the beginning of a list, a tuple or a
map. -/
theorem delimited_unexpectedEnd {t : Token} {us : List Token} (hkind : t.kind = .delimiter)
    (h : delimited element last (t :: us) = .fail (.unexpectedEnd missing l) rest) :
    (l = last ∧ Unfinished missing (t :: us)) ∨
      ∃ head brackets later, t :: us = head ++ later ∧ Opens element head brackets ∧
        enclosed brackets.closer brackets.read last later =
          .fail (.unexpectedEnd missing l) rest := by
  have hdelimiter (lexeme : Text) (hlexeme : t.lexeme = lexeme) : t.isDelimiter lexeme = true := by
    simp [Token.isDelimiter, hkind, hlexeme]
  rw [delimited] at h
  split_ifs at h with hlist htuple hmap
  · exact .inr ⟨[t], _, us, rfl, .collection .list (hdelimiter _ hlist), h⟩
  · exact .inr ⟨[t], _, us, rfl, .collection .tuple (hdelimiter _ htuple), h⟩
  · cases us with
    | nil =>
        cases h
        exact .inl ⟨rfl, .percent (hdelimiter _ hmap)⟩
    | cons opening us =>
        rw [hashMap] at h
        split_ifs at h with ho
        · exact .inr ⟨[t, opening], _, us, rfl, .hashMap (hdelimiter _ hmap) ho, h⟩
        · cases h
  · cases h

/-- **One step.**  An expression that runs out of tokens is unfinished, or the value of an attribute
does, or what stands in brackets does. -/
theorem term_unexpectedEnd
    (h : term value element last ts = .fail (.unexpectedEnd missing l) rest) :
    (l = last ∧ Unfinished missing ts) ∨
    (∃ sign name us, ts = sign :: name :: us ∧ sign.kind = .atSign ∧ name.kind = .identifier ∧
      value last us = .fail (.unexpectedEnd missing l) rest) ∨
    ∃ head brackets us, ts = head ++ us ∧ Opens element head brackets ∧
      enclosed brackets.closer brackets.read last us = .fail (.unexpectedEnd missing l) rest := by
  cases ts with
  | nil =>
      cases h
      exact .inl ⟨rfl, .nothing⟩
  | cons t us =>
      rw [term] at h
      split at h
      · rename_i hkind
        cases us with
        | nil =>
            cases h
            exact .inl ⟨rfl, .sign hkind⟩
        | cons name us =>
            rw [moduleAttribute] at h
            split_ifs at h with hname
            · exact .inr (.inl ⟨t, name, us, rfl, hkind, hname, Reading.map_eq_fail_iff.1 h⟩)
            · cases h
      · rename_i hkind
        exact (identified_unexpectedEnd hkind h).imp_right .inr
      · rename_i hkind
        exact (delimited_unexpectedEnd hkind h).imp_right .inr
      · split at h <;> cases h

/-- An expression runs out of tokens as its parts do. -/
theorem term_runsOut (hvalue : ReaderRunsOut value) (helement : ItemRunsOut element) :
    ReaderRunsOut (term value element) := by
  intro last ts missing l rest h
  rcases term_unexpectedEnd h with ⟨hl, hunfinished⟩ |
    ⟨sign, name, us, rfl, hsign, hname, hread⟩ | ⟨head, brackets, us, rfl, hopens, hread⟩
  · exact .breaksOff hl fun _ => hunfinished
  · have hs : Closed [sign] := closed_of_kind (by simp [hsign]) (by simp [hsign])
    have hn : Closed [name] := closed_of_kind (by simp [hname]) (by simp [hname])
    have hboth : Closed [sign, name] := hs.append hn
    cases hvalue hread with
    | breaksOff hl hunfinished =>
        refine .breaksOff hl ?_
        intro hclosed
        have hus := (Closed.of_append [sign, name] hclosed hboth.openBrackets_eq).2
        exact .value hsign hname (hunfinished hus)
    | @inside whole later t hsplit hclosed hinside hl =>
        exact .inside (sign :: name :: whole) later (by rw [hsplit]; rfl) (hboth.append hclosed)
          (hinside.value hboth.openBrackets_eq) hl
  · exact opens_runsOut helement hopens hread

/-- **At any depth.**  Whatever room there is for nesting, an expression runs out of tokens in no
other way. -/
theorem expression_runsOut (room : Nat) : ReaderRunsOut (expression room) := by
  -- elements of brackets have three less room, so the induction is over all smaller rooms
  induction room using Nat.strongRecOn with
  | ind room ih =>
      match room with
      | 0 =>
          intro last ts missing l rest h
          cases h
      | room + 1 =>
          rw [expression_succ]
          refine term_runsOut (ih room (Nat.lt_succ_self room)) ?_
          unfold elementWithin
          split
          · rename_i inner
            exact whole_runsOut (ih inner (by omega))
          · exact nestingTooDeep_runsOut

end Expression

/-! ## Programs -/

namespace Program

open Expression Segment

/-- **Where the input is said to end.**  If a program is refused because tokens are missing, the
message names a token after which the input is said to end.  It is the last significant token; or it
is not where the input ends at all, but the last of an unfinished part that stands inside balanced
brackets, right before a comma, a closing bracket or an arrow. -/
theorem unexpectedEnd_of_parse {tokens : List Token} {missing : ParseError.Missing}
    {last : Option Token} (h : parse tokens = .error (.unexpectedEnd missing last)) :
    ∃ t, last = some t ∧
      (ParseError.unexpectedEnd missing last).message =
        missing.message ++ ParseError.endsAfter t ∧
      ((significant tokens).getLast? = some t ∨
        ∃ outer whole later, significant tokens = outer ++ (whole ++ later) ∧ Balanced whole ∧
          UnfinishedInside missing t whole) := by
  cases hread : expressions (significant tokens).getLast? (significant tokens) with
  | done ns rest =>
      rw [parse, hread] at h
      cases h
  | fail e rest =>
      rw [parse, hread] at h
      cases h
      obtain ⟨ns, us, hleads, hus, htop⟩ := leads_of_expressions_fail hread
      obtain ⟨outer, houter⟩ := hleads.suffix
      cases expression_runsOut _ htop with
      | breaksOff hl _ =>
          have hne : significant tokens ≠ [] := by
            rw [← houter]
            simp [hus]
          obtain ⟨t, -, ht⟩ := exists_getLast? hne
          obtain rfl := hl.trans ht
          exact ⟨t, rfl, rfl, .inl ht⟩
      | @inside whole later t hsplit hclosed hinside hl =>
          subst hl
          refine ⟨t, rfl, rfl, .inr ⟨outer, whole, later, ?_, (closed_iff_balanced whole).1 hclosed,
            hinside⟩⟩
          rw [← houter, hsplit]

/-- In a map that stands in a list, the attribute before an arrow has no value.  The input is said to
end after the name of the attribute, which is not the last token. -/
theorem unexpectedEnd_of_parse_map :
    ∃ tokens missing last, tokens = Token.lex "[%\x7b@a => 1\x7d]" ∧
      parse tokens = .error (.unexpectedEnd missing last) ∧ (significant tokens).getLast? ≠ last ∧
      ∃ t outer whole later, last = some t ∧ significant tokens = outer ++ (whole ++ later) ∧
        Balanced whole ∧ UnfinishedInside missing t whole := by
  have h : parse (Token.lex "[%\x7b@a => 1\x7d]") =
      .error (.unexpectedEnd .next (some ⟨.identifier, ['a'], ⟨1, 5⟩⟩)) := by cbv
  have hlast : (significant (Token.lex "[%\x7b@a => 1\x7d]")).getLast? =
      some ⟨.delimiter, [']'], ⟨1, 12⟩⟩ := by cbv
  obtain ⟨t, ht, -, hend | ⟨outer, whole, later, hsplit, hbalanced, hinside⟩⟩ :=
    unexpectedEnd_of_parse h
  · rw [hlast, ← ht] at hend
    exact absurd hend (by decide)
  · exact ⟨_, _, _, rfl, h, by rw [hlast]; decide, t, outer, whole, later, ht, hsplit, hbalanced,
      hinside⟩

/-- In a list, the attribute has no value, and its name is named though the closing bracket is the
last token. -/
theorem unexpectedEnd_before_bracket :
    ∃ last, parse (Token.lex "[@a]") = .error (.unexpectedEnd .next last) ∧
      last ≠ (significant (Token.lex "[@a]")).getLast? := by
  refine ⟨some ⟨.identifier, ['a'], ⟨1, 3⟩⟩, by cbv, ?_⟩
  have hlast : (significant (Token.lex "[@a]")).getLast? = some ⟨.delimiter, [']'], ⟨1, 4⟩⟩ := by
    cbv
  rw [hlast]
  decide

end Program

end ElixirTerms
