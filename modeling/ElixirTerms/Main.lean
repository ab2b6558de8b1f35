/-
# The command

The command on the file system and the standard streams of the machine.
-/
import ElixirTerms.Command.Run

namespace ElixirTerms.Command

/-- The number and the wording of an error of the machine. -/
def codeOf : IO.Error → UInt32 × String
  | .alreadyExists _ code details | .interrupted _ code details
  | .noFileOrDirectory _ code details | .invalidArgument _ code details
  | .permissionDenied _ code details | .resourceExhausted _ code details
  | .inappropriateType _ code details | .noSuchThing _ code details
  | .otherError code details | .resourceBusy code details | .resourceVanished code details
  | .unsupportedOperation code details | .hardwareFault code details
  | .unsatisfiedConstraints code details | .illegalOperation code details
  | .protocolError code details | .timeExpired code details => (code, details)
  | .unexpectedEof => (5, "end of file")
  | .userError details => (5, details)

/-- The fault that an error of the machine stands for; the machine may give its number with a minus
sign. -/
def faultOfError (e : IO.Error) : FileFault :=
  let (code, details) := codeOf e
  .ofNumber code.toInt32.toInt.natAbs details.toList

/-- Try something on the machine. -/
def attempt {α : Type} (action : IO α) : IO (Except FileFault α) := do
  try return .ok (← action)
  catch e => return .error (faultOfError e)

/-- What comes of opening the file or folder at a path for reading. -/
def probe (path : Text) : IO (Except FileFault Unit) :=
  attempt do
    discard <| IO.FS.Handle.mk (String.ofList path) .read

/-- What comes of reading the file at a path. -/
def load (path : Text) : IO (Except FileFault (List UInt8)) :=
  attempt do
    return (← IO.FS.readBinFile (String.ofList path)).toList

/-- What comes of making a folder at a path, where there may be one already. -/
def makeFolder (path : Text) : IO (Except FileFault Unit) := do
  match ← attempt (IO.FS.createDir (String.ofList path)) with
  | .error .fileExists =>
    match ← load path with
    | .error .isADirectory => return .ok ()
    | _ => return .error .fileExists
  | made => return made

/-- The file system as a place where the command runs. -/
def machine : Host IO where
  read := load
  write path content := attempt (IO.FS.writeFile (String.ofList path) (String.ofList content))
  makeFolder := makeFolder
  isAt path := do
    match ← probe path with
    | .error .noSuchFile | .error .notADirectory | .error .nameTooLong => return false
    | _ => return true

/-- Hold a session on the standard streams. -/
partial def converse (settings : Report.Settings) : IO Unit := do
  let output ← IO.getStdout
  output.putStr (String.ofList Session.prompt)
  output.flush
  let line ← (← IO.getStdin).getLine
  if line.isEmpty then output.putStr (String.ofList Session.exiting)
  else
    match Session.answer? settings (Text.unifyNewlines line.toList) with
    | none => output.putStr (String.ofList Session.goodbye)
    | some answer =>
      output.putStr (String.ofList answer)
      converse settings

/-- Hold a session, or run the command on a file. -/
def execute (arguments : List Text) : IO UInt32 := do
  match request arguments with
  | .run { interactive := true, settings, .. } =>
    IO.print (String.ofList Session.banner)
    converse settings
    return 0
  | _ =>
    match ← run machine arguments [] with
    | .ok outcome =>
      IO.print (String.ofList outcome.output)
      IO.eprint (String.ofList outcome.errors)
      return outcome.exit.toUInt32
    | .error e =>
      IO.eprintln (String.ofList e.message)
      return 1

end ElixirTerms.Command

/-- Run the command with the arguments given. -/
def main (arguments : List String) : IO UInt32 :=
  ElixirTerms.Command.execute (arguments.map String.toList)
