/-
# Folders in memory

A folder with files and folders inside it, as a place where the command can run.  A path is
followed name by name, and all its names but the last have to lead through folders.  Of the machine
around the folder only the usual folders at its top and the null device are known.
-/
import ElixirTerms.Command.Host

namespace ElixirTerms.Command

/-! ## Places -/

/-- Where names lead on from. -/
inductive Base where
  /-- So many levels above the folder; at none, the folder itself. -/
  | above (levels : Nat)
  /-- The top of the machine. -/
  | top
  deriving DecidableEq

/-- Where a file or a folder is. -/
structure Place where
  base : Base
  names : List Text
  deriving DecidableEq

namespace Place

/-- The folder itself. -/
def here : Place := ⟨.above 0, []⟩

/-- The top of the machine. -/
def top : Place := ⟨.top, []⟩

/-- The place around a place; around the top there is nothing else. -/
def up : Place → Place
  | ⟨.above levels, []⟩ => ⟨.above (levels + 1), []⟩
  | ⟨base, names⟩ => ⟨base, names.dropLast⟩

/-- The place of a name in a folder. -/
def child (place : Place) (name : Text) : Place := ⟨place.base, place.names ++ [name]⟩

/-- The device that forgets what is written to it. -/
def nullDevice : Place := (top.child "dev").child "null"

/-- The usual folders at the top of a machine. -/
def topFolders : List Place :=
  ["bin", "boot", "dev", "etc", "home", "lib", "media", "mnt", "opt", "proc", "root", "run", "sbin",
   "srv", "sys", "tmp", "usr", "var"].map fun name => top.child name.toList

end Place

/-- A folder and what is known around it: files with their bytes, and folders. -/
structure Folder where
  files : List (Place × List UInt8)
  folders : List Place

namespace Folder

/-- A folder with given files, and the folders that their names lead through. -/
def ofFiles (files : List (Text × List UInt8)) : Folder :=
  let named := files.map fun (path, content) => (Path.names path, content)
  let within := named.flatMap fun (names, _) =>
    (List.range' 1 (names.length - 1)).map fun n => ⟨.above 0, names.take n⟩
  ⟨(.nullDevice, []) :: named.map fun (names, content) => (⟨.above 0, names⟩, content),
    Place.topFolders ++ within⟩

/-- The bytes of the file at a place. -/
def content? (folder : Folder) (place : Place) : Option (List UInt8) := folder.files.lookup place

/-- Whether there is a folder at a place. -/
def hasFolder (folder : Folder) (place : Place) : Bool :=
  place.names.isEmpty || folder.folders.contains place

/-! ## Following paths -/

/-- What a path leads to. -/
inductive Target where
  | folder (place : Place)
  /-- A name in a folder, where there may be anything or nothing, and whether a slash follows. -/
  | name (place : Place) (slash : Bool)

/-- The name of a folder itself. -/
def selfName : Text := ['.']

/-- The name of the folder around a folder. -/
def upName : Text := ['.', '.']

/-- The folder that a name leads to from a folder. -/
def enter (folder : Folder) (place : Place) (name : Text) : Except FileFault Place :=
  if name = selfName then .ok place
  else if name = upName then .ok place.up
  else if Path.maxNameLength < Path.byteLength name then .error .nameTooLong
  else if folder.hasFolder (place.child name) then .ok (place.child name)
  else if (folder.content? (place.child name)).isSome then .error .notADirectory
  else .error .noSuchFile

/-- What a path leads to. -/
def follow (folder : Folder) (path : Text) : Except FileFault Target :=
  if path = [] then .error .noSuchFile
  else if Path.maxLength < Path.byteLength path then .error .nameTooLong
  else
    let start := if path.head? = some '/' then Place.top else Place.here
    let names := Path.names path
    match names.getLast? with
    | none => .ok (.folder start)
    | some last => do
      let around ← names.dropLast.foldlM folder.enter start
      if last = selfName ∨ last = upName then return .folder (← folder.enter around last)
      else return .name (around.child last) (path.getLast? = some '/')

/-- Whether the last name of a place is longer than a name may be. -/
def isTooLong (place : Place) : Bool :=
  place.names.getLast?.any fun name => Path.maxNameLength < Path.byteLength name

/-- Whether there is anything at a path. -/
def isAt (folder : Folder) (path : Text) : Bool :=
  match folder.follow path with
  | .ok (.folder _) => true
  | .ok (.name place slash) =>
    folder.hasFolder place || ((folder.content? place).isSome && !slash)
  | .error _ => false

/-! ## Reading and writing -/

/-- Put a file at a place. -/
def put (folder : Folder) (place : Place) (content : List UInt8) : Folder :=
  if place = .nullDevice then folder
  else { folder with files := folder.files.filter (·.1 ≠ place) ++ [(place, content)] }

/-- The bytes of the file at a path. -/
def read (folder : Folder) (path : Text) : Except FileFault (List UInt8) := do
  match ← folder.follow path with
  | .folder _ => .error .isADirectory
  | .name place slash =>
    if isTooLong place then .error .nameTooLong
    else if folder.hasFolder place then .error .isADirectory
    else
      match folder.content? place with
      | none => .error .noSuchFile
      | some bytes => if slash then .error .notADirectory else .ok bytes

/-- The folder after a text has become the content of the file at a path. -/
def write (folder : Folder) (path content : Text) : Except FileFault Folder := do
  match ← folder.follow path with
  | .folder _ => .error .isADirectory
  | .name place slash =>
    if slash then .error .isADirectory
    else if isTooLong place then .error .nameTooLong
    else if folder.hasFolder place then .error .isADirectory
    else .ok (folder.put place (String.ofList content).toUTF8.toList)

/-- The files inside the folder that an earlier one did not hold with their content. -/
def changedSince (folder before : Folder) : List (Text × List UInt8) :=
  (folder.files.filter fun (place, content) =>
    place.base = .above 0 ∧ before.content? place ≠ some content).map
    fun (place, content) => (List.intercalate ['/'] place.names, content)

/-! ## Making folders -/

/-- Make a folder at a path; one that is there already will do. -/
def makeFolder (folder : Folder) (path : Text) : Except FileFault Folder := do
  match ← folder.follow path with
  | .folder _ => .ok folder
  | .name place _ =>
    if isTooLong place then .error .nameTooLong
    else if folder.hasFolder place then .ok folder
    else if (folder.content? place).isSome then .error .fileExists
    else .ok { folder with folders := folder.folders ++ [place] }

/-! ## As a host -/

/-- Change the folder, unless that fails. -/
def change (f : Folder → Except FileFault Folder) : StateM Folder (Except FileFault Unit) :=
  fun folder =>
    match f folder with
    | .ok changed => (.ok (), changed)
    | .error e => (.error e, folder)

/-- The folder as a place where the command runs. -/
def host : Host (StateM Folder) where
  read path := fun folder => (folder.read path, folder)
  write path content := change (·.write path content)
  makeFolder path := change (·.makeFolder path)
  isAt path := fun folder => (folder.isAt path, folder)

end Folder

end ElixirTerms.Command
