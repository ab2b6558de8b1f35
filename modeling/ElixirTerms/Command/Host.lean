/-
# Where the command runs

The command reads one file and may write two.  All it needs of its surroundings is a way to do so,
in any monad: the file system of a machine is one such place, a folder in memory another.
-/
import ElixirTerms.Command.Path
import ElixirTerms.Text.Quoted

namespace ElixirTerms.Command

/-- Why a file cannot be read or written. -/
inductive FileFault where
  | noSuchFile
  | fileExists
  | notADirectory
  | isADirectory
  | nameTooLong
  /-- Any other fault, by its number and its wording. -/
  | other (number : Nat) (reason : Text)
  deriving DecidableEq

namespace FileFault

/-- The number of a fault. -/
def number : FileFault → Nat
  | noSuchFile => 2
  | fileExists => 17
  | notADirectory => 20
  | isADirectory => 21
  | nameTooLong => 36
  | other number _ => number

/-- The wording of a fault. -/
def reason : FileFault → Text
  | noSuchFile => "No such file or directory"
  | fileExists => "File exists"
  | notADirectory => "Not a directory"
  | isADirectory => "Is a directory"
  | nameTooLong => "File name too long"
  | other _ reason => reason

/-- The fault with a number, and with a wording if it is none of those known by name. -/
def ofNumber (number : Nat) (reason : Text) : FileFault :=
  ([noSuchFile, fileExists, notADirectory, isADirectory, nameTooLong].find?
    (·.number = number)).getD (.other number reason)

end FileFault

/-- Why nothing comes of a path. -/
inductive FileError where
  /-- A fault that came up with a path. -/
  | atPath (path : Text) (fault : FileFault)
  /-- The path holds a null character, which no path does. -/
  | nullCharacter
  /-- Too many of the folders that lead to the path are not there. -/
  | tooDeep

/-- The wording of an error. -/
def FileError.message : FileError → Text
  | atPath path fault =>
    "[Errno " ++ Text.ofNat fault.number ++ "] " ++ fault.reason ++ ": " ++ path.quoted
  | nullCharacter => "embedded null byte"
  | tooDeep => "maximum recursion depth exceeded"

/-- A place where the command runs.  The paths that it is given hold no null character. -/
structure Host (m : Type → Type) where
  /-- The bytes of the file at a path. -/
  read : Text → m (Except FileFault (List UInt8))
  /-- Make a text the content of the file at a path. -/
  write : Text → Text → m (Except FileFault Unit)
  /-- Make a folder at a path; one that is there already will do. -/
  makeFolder : Text → m (Except FileFault Unit)
  /-- Whether there is anything at a path. -/
  isAt : Text → m Bool

namespace Host

variable {m : Type → Type} [Monad m]

/-- Do something with a path. -/
def withPath {α : Type} (path : Text) (action : m (Except FileFault α)) :
    m (Except FileError α) := do
  if path.contains '\x00' then return .error .nullCharacter
  else return (← action).mapError (.atPath path)

/-- The bytes of the file at a path. -/
def readFile (host : Host m) (path : Text) : m (Except FileError (List UInt8)) :=
  withPath path (host.read path)

/-- Make a text the content of the file at a path. -/
def writeFile (host : Host m) (path content : Text) : m (Except FileError Unit) :=
  withPath path (host.write path content)

/-- Whether a path leads to anything. -/
def leadsOn (host : Host m) (path : Text) : m Bool :=
  if path.contains '\x00' then return false else host.isAt path

/-- Make a folder at a path after the folders around it, with room for so many folders in all.
A file in the place of a folder around it is passed over here; it shows when the next folder is
made. -/
def makeAll (host : Host m) (path : Text) : (room : Nat) → m (Except FileError Unit)
  | 0 => return .error .tooDeep
  | room + 1 => do
    let (around, last) := Path.splitLast path
    if around ≠ [] ∧ last ≠ [] then
      if !(← host.leadsOn around) then
        match ← host.makeAll around room with
        | .ok () | .error (.atPath _ .fileExists) => if last = ['.'] then return .ok ()
        | .error e => return .error e
    withPath path (host.makeFolder path)

/-- The most folders that are made for one path. -/
def maxFolders : Nat := 980

/-- Make the folders that lead to a path. -/
def makeFolders (host : Host m) (path : Text) : m (Except FileError Unit) :=
  let around := (Path.splitLast path).1
  if around = [] then return .ok () else host.makeAll around maxFolders

end Host

end ElixirTerms.Command
