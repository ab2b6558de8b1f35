/-
# Reports that go on after errors

A report that stops at the first error and one that goes on print the same up to there: both read
the same expressions and meet the same error first.  A text that parses holds no illegal token
(`illegalTokens_of_parse`), so both reports on it end with the line of success.  What is printed on
any other text is unticked (`unticked_output_of_error`), so it does not end with such a line.
-/
import ElixirTerms.Proofs.CheckMarks

namespace ElixirTerms

open Text

namespace Report

variable {settings : Settings} {text : Text} {ts : List Token} {ns : List Node}

/-- A text that parses holds no illegal token. -/
theorem illegalTokens_of_parse (h : Program.parse ts = .ok ns) : illegalTokens ts = [] := by
  apply List.filter_eq_nil_iff.2
  intro t ht hillegal
  have hkind : t.kind = .illegal := by simpa using hillegal
  -- an illegal token is significant, and the grammar names no such kind
  have hsignificant : t ∈ Program.significant ts := by
    apply List.mem_filter.2
    refine ⟨ht, ?_⟩
    rw [Token.isSignificant, hkind]
    rfl
  have hmem := (Grammar.derivesAll_of_parse h).kind_mem t hsignificant
  rw [hkind] at hmem
  exact absurd hmem (by decide)

/-! ## Results -/

/-- Expressions are the successes of themselves. -/
theorem successes_map_ok (ns : List Node) : successes (ns.map .ok) = ns := by
  induction ns with
  | nil => rfl
  | cons n ns ih => exact congrArg (n :: ·) ih

/-- The failures behind some expressions are those of what follows. -/
theorem failures_map_ok_append (ns : List Node) (results : List (Except ParseError Node)) :
    failures (ns.map .ok ++ results) = failures results := by
  induction ns with
  | nil => rfl
  | cons n ns ih => exact ih

/-! ## The two reports -/

/-- The settings of a report that goes on after errors, or of one that stops at the first. -/
def Settings.going (settings : Settings) (keepGoing : Bool) : Settings :=
  { settings with keepGoing := keepGoing }

/-- A report that stops at the first error. -/
theorem ofText_stopping (settings : Settings) (text : Text) :
    ofText (settings.going false) text =
      match Program.parseText text with
      | .ok ns => conclude settings (tokenLines settings (Token.lex text)) ns
          (illegalTokens (Token.lex text)).isEmpty
      | .error e => ⟨tokenLines settings (Token.lex text) ++ [errorLine e], none⟩ := rfl

/-- A report that goes on after errors. -/
theorem ofText_going (settings : Settings) (text : Text) :
    ofText (settings.going true) text =
      conclude settings
        (tokenLines settings (Token.lex text) ++
          (failures (Program.parseAll (Token.lex text))).map errorLine)
        (successes (Program.parseAll (Token.lex text)))
        ((illegalTokens (Token.lex text)).isEmpty &&
          (failures (Program.parseAll (Token.lex text))).isEmpty) := rfl

/-- A text that parses has one report, whether or not it would go on after errors. -/
theorem ofText_of_ok (h : Program.parseText text = .ok ns) (keepGoing : Bool) :
    ofText (settings.going keepGoing) text =
      conclude settings (tokenLines settings (Token.lex text)) ns true := by
  have hillegal : illegalTokens (Token.lex text) = [] := illegalTokens_of_parse h
  cases keepGoing with
  | false =>
      rw [ofText_stopping, h, hillegal]
      rfl
  | true =>
      have hall : Program.parseAll (Token.lex text) = ns.map .ok := Program.parseAll_of_parse h
      have hfailures : failures (ns.map .ok) = [] := by
        have happend := failures_map_ok_append ns []
        rwa [List.append_nil] at happend
      rw [ofText_going, hall, hfailures, successes_map_ok, hillegal, List.map_nil, List.append_nil]
      rfl

/-- A text that does not parse has a report up to its first error. -/
theorem lines_stopping_of_error {e : ParseError} (h : Program.parseText text = .error e) :
    (ofText (settings.going false) text).lines =
      tokenLines settings (Token.lex text) ++ [errorLine e] := by
  rw [ofText_stopping, h]

/-- A text that does not parse has a report that goes on after its first error, and that does not
conclude that all was well. -/
theorem exists_ofText_going_of_error (settings : Settings) {e : ParseError}
    (h : Program.parseText text = .error e) :
    ∃ later : List ParseError, ofText (settings.going true) text =
      conclude settings
        (tokenLines settings (Token.lex text) ++ errorLine e :: later.map errorLine)
        (successes (Program.parseAll (Token.lex text))) false := by
  obtain ⟨ns, later, hall⟩ := Program.exists_parseAll_of_error h
  have hfailures : failures (Program.parseAll (Token.lex text)) = e :: failures later :=
    hall ▸ failures_map_ok_append ns _
  refine ⟨failures later, ?_⟩
  rw [ofText_going, hfailures, List.map_cons, List.isEmpty_cons, Bool.and_false]

/-! ## The line of success -/

/-- Two texts that are the same have the same last line. -/
theorem eq_of_append_newline {s s' t t' : Text} (ht : '\n' ∉ t) (ht' : '\n' ∉ t')
    (h : s ++ '\n' :: t = s' ++ '\n' :: t') : t = t' := by
  rcases split_of_append_eq h with ⟨between, hlast⟩ | ⟨between, -, rfl⟩
  · cases between with
    | nil => exact (List.cons.inj hlast).2
    | cons c between =>
        obtain ⟨-, rfl⟩ := List.cons.inj hlast
        exact absurd (List.mem_append_right between List.mem_cons_self) ht
  · exact absurd (List.mem_append_right between List.mem_cons_self) ht'

/-- What ends with a line of success ends with no line of success that counts differently. -/
theorem successLine_suffix_append_iff (s : Text) {ns' : List Node} :
    successLine ns ++ ['\n'] <:+ s ++ (successLine ns' ++ ['\n']) ↔ ns.length = ns'.length := by
  have hline (ns : List Node) :
      '\n' ∉ ("✓ Parsed " ++ Text.ofNat ns.length ++ " expression(s)" : Text) := by
    simp [newline_not_mem_ofNat]
  constructor
  · rintro ⟨lead, hlead⟩
    rw [← List.append_assoc, ← List.append_assoc] at hlead
    have hlast := eq_of_append_newline (hline ns) (hline ns') (List.append_cancel_right hlead)
    exact Text.ofNat_injective (List.append_cancel_left (List.append_cancel_right hlast))
  · intro h
    unfold successLine
    rw [h]
    exact List.suffix_append s _

/-- The report on a text that parses ends with a line of success. -/
theorem exists_output_of_ok (settings : Settings) (h : Program.parseText text = .ok ns)
    (keepGoing : Bool) :
    ∃ before, (ofText (settings.going keepGoing) text).output =
      before ++ (successLine ns ++ ['\n']) := by
  refine ⟨printed (tokenLines settings (Token.lex text) ++ expressionLines settings ns), ?_⟩
  rw [ofText_of_ok h, output, conclude, printed, List.flatMap_append, ← printed]
  exact congrArg (printed _ ++ ·) (List.flatMap_singleton _ _)

/-- What is printed on a text that does not parse is unticked. -/
theorem unticked_output_of_error (settings : Settings) {e : ParseError}
    (h : Program.parseText text = .error e) (keepGoing : Bool) :
    Unticked (ofText (settings.going keepGoing) text).output := by
  apply unticked_printed
  cases keepGoing with
  | false =>
      rw [lines_stopping_of_error h, List.forall_mem_append]
      exact ⟨unticked_of_mem_tokenLines _, List.forall_mem_singleton.2 (unticked_errorLine e)⟩
  | true =>
      obtain ⟨later, hreport⟩ := exists_ofText_going_of_error settings h
      have hlexed : ∀ n ∈ successes (Program.parseAll (Token.lex text)),
          ∀ m ∈ n.subterms, m.Lexed :=
        fun n hn => Program.lexed_of_mem_parseAll (mem_successes_iff.1 hn)
      rw [hreport, conclude, List.forall_mem_append, List.forall_mem_append,
        List.forall_mem_append, ← List.map_cons, List.forall_mem_map]
      exact ⟨⟨⟨unticked_of_mem_tokenLines _, fun e _ => unticked_errorLine e⟩,
        unticked_of_mem_expressionLines hlexed⟩, List.forall_mem_nil _⟩

/-- A report that stops or goes on ends with a line of success just if the text parses, and counts
the expressions that it parses to. -/
theorem successLine_suffix_iff {keepGoing : Bool} :
    successLine ns ++ ['\n'] <:+ (ofText (settings.going keepGoing) text).output ↔
      ∃ ns', Program.parseText text = .ok ns' ∧ ns.length = ns'.length := by
  cases h : Program.parseText text with
  | ok ns' =>
      obtain ⟨before, houtput⟩ := exists_output_of_ok settings h keepGoing
      rw [houtput, successLine_suffix_append_iff]
      simp
  | error e =>
      refine iff_of_false ?_ (fun ⟨ns', hns', _⟩ => nomatch hns')
      exact not_successLine_suffix (unticked_output_of_error settings h keepGoing) ns

/-! ## Agreement -/

/-- The output of a report opens with what any report prints that stops within its lines. -/
theorem output_begins_of_lines {report report' : Report}
    (h : report.lines <+: report'.lines) : report.output <+: report'.output := by
  obtain ⟨later, hlater⟩ := h
  refine ⟨printed later, ?_⟩
  rw [output, output, ← hlater, printed, printed, printed, List.flatMap_append]

/-- What a report prints that stops at the first error opens what one prints that goes on. -/
theorem output_stopping_begins (settings : Settings) (text : Text) :
    (ofText (settings.going false) text).output <+:
      (ofText (settings.going true) text).output := by
  apply output_begins_of_lines
  cases h : Program.parseText text with
  | ok ns => rw [ofText_of_ok h, ofText_of_ok h]
  | error e =>
      obtain ⟨later, hgoing⟩ := exists_ofText_going_of_error settings h
      rw [lines_stopping_of_error h, hgoing]
      refine ⟨later.map errorLine ++
        expressionLines settings (successes (Program.parseAll (Token.lex text))), ?_⟩
      simp [conclude, linesIf]

/-- A text with an illegal token does not parse. -/
theorem parseText_ne_ok_of_illegal {t : Token} (ht : t ∈ Token.lex text) (hkind : t.kind = .illegal)
    (ns : List Node) : Program.parseText text ≠ .ok ns := by
  intro h
  have hmem : t ∈ illegalTokens (Token.lex text) := List.mem_filter.2 ⟨ht, by simpa using hkind⟩
  rw [illegalTokens_of_parse h] at hmem
  cases hmem

/-- **The two reports agree.**  Whatever a report is to show, what it prints when it stops at the
first error is a beginning of what it prints when it goes on, and the same if the text parses.
Either way what it prints ends with a line of success if and only if the text parses, with the
number of its expressions; so it does not on a text with an illegal token. -/
theorem stopping_going_agree (settings : Settings) (text : Text) :
    (ofText (settings.going false) text).output <+:
      (ofText (settings.going true) text).output ∧
    (∀ ns, Program.parseText text = .ok ns →
      (ofText (settings.going false) text).output = (ofText (settings.going true) text).output) ∧
    (∀ (keepGoing : Bool) (ns : List Node),
      successLine ns ++ ['\n'] <:+ (ofText (settings.going keepGoing) text).output ↔
        ∃ ns', Program.parseText text = .ok ns' ∧ ns.length = ns'.length) ∧
    (∀ t ∈ Token.lex text, t.kind = .illegal → ∀ (keepGoing : Bool) (ns : List Node),
      ¬ successLine ns ++ ['\n'] <:+ (ofText (settings.going keepGoing) text).output) := by
  refine ⟨output_stopping_begins settings text, fun ns h => ?_, fun keepGoing ns => ?_,
    fun t ht hkind keepGoing ns hsuffix => ?_⟩
  · rw [ofText_of_ok h, ofText_of_ok h]
  · exact successLine_suffix_iff
  · obtain ⟨ns', hparse, -⟩ := successLine_suffix_iff.1 hsuffix
    exact parseText_ne_ok_of_illegal ht hkind ns' hparse

/-- A list and an atom are parsed, and both reports on them are the same and end with a line of
success; a semicolon is illegal, and no report on it ends so, although it may show the source of a
string that holds such a line. -/
theorem stopping_going_agree_on_semicolon :
    (∃ ns, Program.parseText "[1] :a" = .ok ns ∧
      (ofText (Settings.going {} false) "[1] :a").output =
        (ofText (Settings.going {} true) "[1] :a").output ∧
      successLine ns ++ ['\n'] <:+ (ofText (Settings.going {} true) "[1] :a").output) ∧
    (∃ t ∈ Token.lex "; \"\n✓ Parsed 1 expression(s)\"", t.kind = .illegal ∧ ∀ keepGoing ns,
      ¬ successLine ns ++ ['\n'] <:+
        (ofText (Settings.going {} keepGoing) "; \"\n✓ Parsed 1 expression(s)\"").output) := by
  constructor
  · obtain ⟨ns, hns⟩ : ∃ ns, Program.parseText "[1] :a" = .ok ns := ⟨_, by cbv⟩
    obtain ⟨-, hsame, hsuccess, -⟩ := stopping_going_agree {} "[1] :a"
    exact ⟨ns, hns, hsame ns hns, (hsuccess true ns).2 ⟨ns, hns, rfl⟩⟩
  · have hmem : ⟨.illegal, ";", ⟨1, 1⟩⟩ ∈ Token.lex "; \"\n✓ Parsed 1 expression(s)\"" := by
      decide +kernel
    exact ⟨_, hmem, rfl, (stopping_going_agree {} _).2.2.2 _ hmem rfl⟩

end Report

end ElixirTerms
