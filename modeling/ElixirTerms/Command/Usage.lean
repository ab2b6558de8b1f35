/-
# Usage of the command

What the command says about itself and about a way of calling it that it cannot follow.
-/
import ElixirTerms.Text.Quoted

namespace ElixirTerms.Command

/-- The options of the command. -/
inductive Flag where
  | help
  | file
  | interactive
  | printTokens
  | noAst
  | noSource
  | keepGoing
  | json
  | vizAst
  | vizFormat
  deriving DecidableEq

namespace Flag

/-- All options, in the order in which they are announced. -/
def all : List Flag :=
  [.help, .file, .interactive, .printTokens, .noAst, .noSource, .keepGoing, .json, .vizAst,
   .vizFormat]

/-- The spellings of an option. -/
def spellings : Flag → List Text
  | help => ["-h", "--help"]
  | file => ["--file", "-f"]
  | interactive => ["--interactive", "-i"]
  | printTokens => ["--print-tokens"]
  | noAst => ["--no-ast"]
  | noSource => ["--no-source"]
  | keepGoing => ["--keep-going"]
  | json => ["--json"]
  | vizAst => ["--viz-ast"]
  | vizFormat => ["--viz-format"]

/-- Whether an option needs a value. -/
def takesValue : Flag → Bool
  | file | json | vizAst | vizFormat => true
  | _ => false

/-- An option in messages: all its spellings. -/
def describe (flag : Flag) : Text := List.intercalate ['/'] flag.spellings

/-- Every spelling with its option. -/
def table : List (Text × Flag) := all.flatMap fun flag => flag.spellings.map (·, flag)

/-- The option with a spelling. -/
def ofSpelling? (s : Text) : Option Flag := table.lookup s

end Flag

/-- Why the command cannot be called in some way. -/
inductive UsageError where
  /-- The beginning of more than one spelling. -/
  | ambiguous (argument : Text) (candidates : List Text)
  /-- A value for an option that takes none. -/
  | ignoredValue (flag : Flag) (value : Text)
  | missingValue (flag : Flag)
  /-- Two options that exclude each other, the later first. -/
  | conflict (flag earlier : Flag)
  | unrecognized (arguments : List Text)

/-- The wording of an error about one option. -/
def aboutFlag (flag : Flag) (text : Text) : Text := "argument " ++ flag.describe ++ ": " ++ text

/-- The wording of an error. -/
def UsageError.message : UsageError → Text
  | ambiguous argument candidates =>
    "ambiguous option: " ++ argument ++ " could match " ++ Text.commaSeparated candidates
  | ignoredValue flag value => aboutFlag flag ("ignored explicit argument " ++ value.quoted)
  | missingValue flag => aboutFlag flag "expected one argument"
  | conflict flag earlier => aboutFlag flag ("not allowed with argument " ++ earlier.describe)
  | unrecognized arguments =>
    "unrecognized arguments: " ++ List.intercalate [' '] arguments

/-- The lines on how to call the command. -/
def usageLines : List Text :=
  ["usage: exparse [-h] [--file FILE | --interactive] [--print-tokens] [--no-ast]",
   "               [--no-source] [--keep-going] [--json JSON_PATH]",
   "               [--viz-ast VIZ_AST] [--viz-format VIZ_FORMAT]"]

/-- The lines on what the command does and on each option. -/
def helpLines : List Text :=
  ["",
   "Lex and parse Elixir-style source from a file or interactively from stdin",
   "",
   "options:",
   "  -h, --help            show this help message and exit",
   "  --file FILE, -f FILE  Path to source file to process",
   "  --interactive, -i     Start interactive REPL mode",
   "  --print-tokens        Print tokens",
   "  --no-ast              Do not print AST",
   "  --no-source           Do not print the canonical source of each expression",
   "  --keep-going          Report every parse error instead of stopping at the",
   "                        first",
   "  --json JSON_PATH      Path to write tokens+AST JSON",
   "  --viz-ast VIZ_AST     Path (without extension) to write Graphviz",
   "                        visualization of the AST",
   "  --viz-format VIZ_FORMAT",
   "                        Format for Graphviz output (svg, png, pdf, etc)"]

/-- What the command answers to a request for help. -/
def helpText : Text := (usageLines ++ helpLines).flatMap (· ++ ['\n'])

/-- What the command answers to a call that it cannot follow. -/
def UsageError.text (e : UsageError) : Text :=
  (usageLines ++ ["exparse: error: " ++ e.message]).flatMap (· ++ ['\n'])

end ElixirTerms.Command
