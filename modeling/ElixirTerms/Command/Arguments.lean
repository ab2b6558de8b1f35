/-
# Arguments of the command

Arguments are classified first, all of them, and then taken in order.  An option may be spelled by
any beginning that fits it alone; options of one letter may be joined, and a value may be joined to
its option.  After a double dash nothing is an option.  A double dash joined to an option is no
value, though the option counts as given.
-/
import ElixirTerms.Command.Usage
import ElixirTerms.Report
import ElixirTerms.Unicode.Decimal

namespace ElixirTerms.Command

/-- What an argument is at first sight. -/
inductive Word where
  /-- A value, or nothing of use. -/
  | plain
  /-- The double dash after which nothing is an option. -/
  | separator
  /-- Looks like an option, but is none. -/
  | unknown
  /-- An option in a spelling, with the value joined to it. -/
  | option (flag : Flag) (spelling : Text) (value : Option Text)
  deriving DecidableEq

/-- The argument that ends the options. -/
def doubleDash : Text := ['-', '-']

/-! ## Classification -/

/-- A text split at its first equals sign. -/
def splitEquals? (s : Text) : Option (Text × Text) :=
  if '=' ∈ s then some (s.takeWhile (· ≠ '='), (s.dropWhile (· ≠ '=')).drop 1) else none

/-- The options that an argument with two dashes may be the beginning of. -/
def longCandidates (argument : Text) : List (Flag × Text × Option Text) :=
  let (beginning, value) := match splitEquals? argument with
    | some (beginning, value) => (beginning, some value)
    | none => (argument, none)
  Flag.table.filterMap fun (spelling, flag) =>
    if beginning.isPrefixOf spelling then some (flag, spelling, value) else none

/-- The options that an argument with one dash may be, with the rest of it as the value. -/
def shortCandidates (argument : Text) : List (Flag × Text × Option Text) :=
  Flag.table.filterMap fun (spelling, flag) =>
    if spelling = argument.take 2 then some (flag, spelling, some (argument.drop 2))
    else if argument.isPrefixOf spelling then some (flag, spelling, none)
    else none

/-- A text without the newline at its end. -/
def dropNewline (s : Text) : Text := if s.getLast? = some '\n' then s.dropLast else s

/-- A decimal number with a minus sign, with or without a fraction; a newline may end it. -/
def isNegativeNumber (argument : Text) : Bool :=
  match dropNewline argument with
  | '-' :: s =>
    match s.dropWhile Unicode.isDecimal with
    | [] => s ≠ []
    | '.' :: fraction => fraction ≠ [] && fraction.all Unicode.isDecimal
    | _ => false
  | _ => false

/-- Classify an argument that begins with a dash and is no exact spelling. -/
def classifyInexact (argument : Text) : Except UsageError Word :=
  let candidates :=
    if argument[1]? = some '-' then longCandidates argument else shortCandidates argument
  match candidates with
  | [] => .ok (if isNegativeNumber argument ∨ ' ' ∈ argument then .plain else .unknown)
  | [(flag, spelling, value)] => .ok (.option flag spelling value)
  | several => .error (.ambiguous argument (several.map fun (_, spelling, _) => spelling))

/-- Classify an argument. -/
def classify (argument : Text) : Except UsageError Word :=
  if argument.head? ≠ some '-' ∨ argument = ['-'] then .ok .plain
  else
    match Flag.ofSpelling? argument with
    | some flag => .ok (.option flag argument none)
    | none =>
      match splitEquals? argument with
      | none => classifyInexact argument
      | some (spelling, value) =>
        match Flag.ofSpelling? spelling with
        | some flag => .ok (.option flag spelling (some value))
        | none => classifyInexact argument

/-- Classify all arguments. -/
def classifyAll : List Text → Except UsageError (List (Text × Word))
  | [] => .ok []
  | argument :: later =>
    if argument = doubleDash then
      .ok ((argument, .separator) :: later.map (·, .plain))
    else do
      let word ← classify argument
      let words ← classifyAll later
      return (argument, word) :: words

/-! ## Options -/

/-- What the command has been asked to do. -/
structure Options where
  /-- The path of the file to report on; empty if it was given without a value. -/
  file : Option Text := none
  interactive : Bool := false
  settings : Report.Settings := {}
  jsonPath : Option Text := none
  graphPath : Option Text := none
  /-- The format of the graph, unless it was given without a value. -/
  graphFormat : Option Text := some "svg"

/-- What the arguments come to. -/
inductive Request where
  | help
  | refused (error : UsageError)
  | run (options : Options)

/-- An option that stops the taking of arguments. -/
inductive Stop where
  | help
  | refused (error : UsageError)

/-- Take one option with its value, if it has one. -/
def Options.apply (options : Options) (flag : Flag) (value : Option Text) :
    Except Stop Options :=
  match flag with
  | .help => .error .help
  | .file =>
    if options.interactive then .error (.refused (.conflict .file .interactive))
    else .ok { options with file := some (value.getD []) }
  | .interactive =>
    if options.file.isSome then .error (.refused (.conflict .interactive .file))
    else .ok { options with interactive := true }
  | .printTokens => .ok { options with settings.showTokens := true }
  | .noAst => .ok { options with settings.showOutline := false }
  | .noSource => .ok { options with settings.showSource := false }
  | .keepGoing => .ok { options with settings.keepGoing := true }
  | .json => .ok { options with jsonPath := value }
  | .vizAst => .ok { options with graphPath := value }
  | .vizFormat => .ok { options with graphFormat := value }

/-- The options joined in one argument: those before the last, the last, and the value joined to
it.  Only an option of one letter that takes no value lets another follow. -/
def unjoin (flag : Flag) (spelling : Text) : Option Text →
    Except UsageError (List Flag × Flag × Option Text)
  | none => .ok ([], flag, none)
  | some value =>
    if flag.takesValue then .ok ([], flag, some value)
    else letters flag spelling value
where
  /-- The options that letters after an option without a value stand for. -/
  letters (flag : Flag) (spelling : Text) : Text →
      Except UsageError (List Flag × Flag × Option Text)
    | [] => .error (.ignoredValue flag [])
    | letter :: later =>
      if spelling[1]? = some '-' then .error (.ignoredValue flag (letter :: later))
      else
        match Flag.ofSpelling? ['-', letter] with
        | none => .error (.ignoredValue flag (letter :: later))
        | some next =>
          if later = [] then .ok ([flag], next, none)
          else if next.takesValue then .ok ([flag], next, some later)
          else (letters next ['-', letter] later).map fun (before, last) => (flag :: before, last)

/-- Take the arguments in order, and collect those that are of no use. -/
def take : List (Text × Word) → Options → List Text → Except Stop (Options × List Text)
  | [], options, unused => .ok (options, unused)
  | (argument, word) :: later, options, unused =>
    match word with
    | .option flag spelling joined =>
      match unjoin flag spelling joined with
      | .error e => .error (.refused e)
      | .ok (before, last, value) =>
        if last.takesValue ∧ value.isNone then
          match later with
          | (next, .plain) :: beyond => do
            let options ← before.foldlM (·.apply · none) options
            let options ← options.apply last (some next)
            take beyond options unused
          | _ => .error (.refused (.missingValue last))
        else do
          let options ← before.foldlM (·.apply · none) options
          let options ← options.apply last (value.filter (· ≠ doubleDash))
          take later options unused
    | _ => take later options (unused ++ [argument])

/-- What the command is asked to do by its arguments. -/
def request (arguments : List Text) : Request :=
  match classifyAll arguments with
  | .error e => .refused e
  | .ok words =>
    match take words {} [] with
    | .error .help => .help
    | .error (.refused e) => .refused e
    | .ok (options, []) => .run options
    | .ok (_, unused) => .refused (.unrecognized unused)

end ElixirTerms.Command
