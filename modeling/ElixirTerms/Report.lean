/-
# Reports on programs

A report on a text shows, as far as it is asked for, its tokens, its illegal tokens, its errors,
the outline of its expressions and their canonical source.  It ends with a line of success if the
text has no illegal token and no error.
-/
import ElixirTerms.Graph.Dot
import ElixirTerms.Json.Encode
import ElixirTerms.Node.Json
import ElixirTerms.Node.Outline
import ElixirTerms.Program
import ElixirTerms.Token.Listing

namespace ElixirTerms

namespace Report

/-- What a report shows. -/
structure Settings where
  showTokens : Bool := false
  showOutline : Bool := true
  showSource : Bool := true
  /-- Report every error, and not only the first. -/
  keepGoing : Bool := false

/-- The most tokens that a report lists. -/
def tokenLimit : Int := 50

end Report

/-- The lines of a report, and the expressions, unless an error has ended it. -/
structure Report where
  lines : List Text
  expressions : Option (List Node)

namespace Report

/-- Lines that stand in a report if they are asked for. -/
def linesIf (asked : Bool) (lines : List Text) : List Text := if asked then lines else []

/-- The line about an illegal token. -/
def illegalLine (t : Token) : Text :=
  "✗ Illegal input " ++ t.lexeme.quoted ++ " at " ++ t.position.describe

/-- The line about an error. -/
def errorLine (e : ParseError) : Text := "Syntax Error: " ++ e.message

/-- The tokens that no rule of the language covers. -/
def illegalTokens (ts : List Token) : List Token := ts.filter (·.kind = .illegal)

/-- The lines that come before the errors. -/
def tokenLines (settings : Settings) (ts : List Token) : List Text :=
  linesIf settings.showTokens [Token.listing ts (some tokenLimit)] ++
    (illegalTokens ts).map illegalLine

/-- The lines about expressions. -/
def expressionLines (settings : Settings) (ns : List Node) : List Text :=
  linesIf settings.showOutline ["\nAST:", Node.programOutline ns] ++
    linesIf settings.showSource ("\nSource:" :: ns.map fun n => "  " ++ n.source)

/-- The line of success. -/
def successLine (ns : List Node) : Text :=
  "\n✓ Parsed " ++ Text.ofNat ns.length ++ " expression(s)"

/-- The report after the tokens and the errors, where `clean` tells that there was nothing wrong. -/
def conclude (settings : Settings) (before : List Text) (ns : List Node) (clean : Bool) : Report :=
  ⟨before ++ expressionLines settings ns ++ linesIf clean [successLine ns], some ns⟩

/-- The expressions among results. -/
def successes (results : List (Except ParseError Node)) : List Node :=
  results.filterMap fun
    | .ok n => some n
    | .error _ => none

/-- The successes are the expressions that are among the results. -/
theorem mem_successes_iff {results : List (Except ParseError Node)} {n : Node} :
    n ∈ successes results ↔ .ok n ∈ results := by
  rw [successes, List.mem_filterMap]
  constructor
  · rintro ⟨_ | m, hresult, hm⟩
    · cases hm
    · cases hm
      exact hresult
  · exact fun hresult => ⟨.ok n, hresult, rfl⟩

/-- The errors among results. -/
def failures (results : List (Except ParseError Node)) : List ParseError :=
  results.filterMap fun
    | .ok _ => none
    | .error e => some e

/-- The report on a text. -/
def ofText (settings : Settings) (text : Text) : Report :=
  let ts := Token.lex text
  let before := tokenLines settings ts
  if settings.keepGoing then
    let results := Program.parseAll ts
    let errors := failures results
    conclude settings (before ++ errors.map errorLine) (successes results)
      ((illegalTokens ts).isEmpty && errors.isEmpty)
  else
    match Program.parse ts with
    | .ok ns => conclude settings before ns (illegalTokens ts).isEmpty
    | .error e => ⟨before ++ [errorLine e], none⟩

/-- Lines as they are printed. -/
def printed (lines : List Text) : Text := lines.flatMap (· ++ ['\n'])

/-- The report as it is printed. -/
def output (report : Report) : Text := printed report.lines

/-- The tokens of a text and its expressions as JSON text. -/
def jsonExport (text : Text) (ns : List Node) : Text :=
  (Json.record [("tokens", .array ((Token.lex text).map Token.toJson)),
    ("ast", .array (ns.map Node.toJson))]).encode

end Report

end ElixirTerms
