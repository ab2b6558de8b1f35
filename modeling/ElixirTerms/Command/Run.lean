/-
# Running the command

The command reports on a file and exports what it holds, or holds a session, or explains itself.
-/
import ElixirTerms.Command.Arguments
import ElixirTerms.Command.Host
import ElixirTerms.Command.Session
import ElixirTerms.Text.Lines
import ElixirTerms.Text.Utf8

namespace ElixirTerms.Command

/-- What a run of the command comes to. -/
structure Outcome where
  exit : Nat
  output : Text := []
  errors : Text := []

/-- Why a run of the command breaks off. -/
inductive Abort where
  /-- The bytes of the file are no text. -/
  | notText (error : Utf8.DecodeError)
  /-- The path of the file is no path. -/
  | notPath

/-- The wording of a cause to break off. -/
def Abort.message : Abort → Text
  | notText e => e.message
  | notPath => FileError.nullCharacter.message

/-! ## Exports -/

/-- The formats in which a graph can be rendered. -/
def graphFormats : List Text :=
  ["bmp", "canon", "cgimage", "cmap", "cmapx", "cmapx_np", "dot", "dot_json", "eps", "exr", "fig",
   "gd", "gd2", "gif", "gtk", "gv", "ico", "imap", "imap_np", "ismap", "jp2", "jpe", "jpeg", "jpg",
   "json", "json0", "pct", "pdf", "pic", "pict", "plain", "plain-ext", "png", "pov", "ps", "ps2",
   "psd", "sgi", "svg", "svg_inline", "svgz", "tga", "tif", "tiff", "tk", "vml", "vmlz", "vrml",
   "wbmp", "webp", "x11", "xdot", "xdot1.2", "xdot1.4", "xdot_json", "xlib"].map String.toList

/-- Why a graph is not rendered in a format. -/
def unknownFormat (format : Text) : Text :=
  "unknown format: " ++ format.quoted ++ " (must be one of [" ++
    Text.commaSeparated (graphFormats.map Text.quoted) ++ "])"

/-- Why a graph is not rendered without a format. -/
def noFormat : Text := "'list' object has no attribute 'lower'"

/-- Why a graph that has been written is not rendered: nothing here lays out graphs. -/
def noRenderer : Text :=
  "failed to execute PosixPath('dot'), make sure the Graphviz executables are on your systems' PATH"

section

variable {m : Type → Type} [Monad m]

/-- Write the tokens and the expressions of a text, and tell what came of it. -/
def exportJson (host : Host m) (text : Text) (ns : List Node) (path : Text) : m Text := do
  match ← host.writeFile path (Report.jsonExport text ns) with
  | .ok () => return "Wrote tokens+AST JSON to " ++ path
  | .error e => return "Failed to write JSON to " ++ path ++ ": " ++ e.message

/-- Write the graph of a program, and tell why it is not rendered. -/
def writeGraph (host : Host m) (ns : List Node) (path format : Text) : m Text := do
  if !graphFormats.contains format then return unknownFormat format
  match ← host.makeFolders path with
  | .error e => return e.message
  | .ok () =>
    match ← host.writeFile path (Graph.dot ns) with
    | .error e => return e.message
    | .ok () => return noRenderer

/-- Export the graph of a program, and tell what came of it. -/
def exportGraph (host : Host m) (ns : List Node) (format : Option Text) (path : Text) :
    m Text := do
  let why ← match format with
    | none => pure noFormat
    | some format => writeGraph host ns path (Unicode.lowerText format)
  return "Failed to render AST visualization to " ++ path ++ ": " ++ why

/-- An export to a path, if there is one that is not empty. -/
def exportTo (path : Option Text) (write : Text → m Text) : m (List Text) :=
  match path with
  | none | some [] => return []
  | some path => return [← write path]

/-! ## Runs -/

/-- Report on a text, and export it unless an error ended the report. -/
def runText (host : Host m) (options : Options) (text : Text) : m Outcome := do
  let report := Report.ofText options.settings text
  match report.expressions with
  | none => return { exit := 0, output := report.output }
  | some ns =>
    let json ← exportTo options.jsonPath (exportJson host text ns)
    let graph ← exportTo options.graphPath (exportGraph host ns options.graphFormat)
    return { exit := 0, output := report.output ++ Report.printed (json ++ graph) }

/-- Report on the file at a path. -/
def runFile (host : Host m) (options : Options) (path : Text) :
    m (Except Abort Outcome) := do
  match ← host.readFile path with
  | .error .nullCharacter => return .error .notPath
  | .error e =>
    let line := "Failed to read file " ++ path ++ ": " ++ e.message
    return .ok { exit := 1, output := Report.printed [line] }
  | .ok bytes =>
    match Utf8.decode bytes with
    | .error e => return .error (.notText e)
    | .ok text => return .ok (← runText host options (Text.unifyNewlines text))

/-- The outcome of explaining the command. -/
def Outcome.help : Outcome := { exit := 0, output := helpText }

/-- The outcome of a call that cannot be followed. -/
def Outcome.refused (e : UsageError) : Outcome := { exit := 2, errors := e.text }

/-- Run the command with its arguments and its whole input. -/
def run (host : Host m) (arguments : List Text) (input : Text) :
    m (Except Abort Outcome) :=
  match request arguments with
  | .help => return .ok .help
  | .refused e => return .ok (.refused e)
  | .run options =>
    if options.interactive then
      let lines := Text.splitLines (Text.unifyNewlines input)
      return .ok { exit := 0, output := Session.transcript options.settings lines }
    else
      match options.file with
      | none | some [] => return .ok .help
      | some path => runFile host options path

end

end ElixirTerms.Command
