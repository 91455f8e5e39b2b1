/-
Directories: files by name.

* `Location`: a folder or file, by the names on the way from the working directory or the root;
* `Directory`: the files, with the folders that they lie in;
* `Directory.lookup`: what a name stands for;
* `Directory.contains`, `Directory.read`, `Directory.write`: whether there is something with a
  name, the text of a file, and the directory with another one;
* `StepFault.message`: the wording of what a step on a file meets.

A name is followed part by part, and each part but the last has to be that of a folder.
-/

namespace HttpRouting

/-! ### Places -/

/-- Where a way starts: a number of levels above the working directory, or the root. -/
inductive Base where
  | above (levels : Nat)
  | root
deriving DecidableEq, Repr

/-- A place: where the way to it starts, and the names on the way down. -/
structure Location where
  base : Base
  names : List String := []
deriving DecidableEq, Repr

namespace Location

/-- The working directory. -/
def working : Location := { base := .above 0 }

/-- The place with a name in a folder. -/
def child (p : Location) (name : String) : Location :=
  { p with names := p.names ++ [name] }

/-- The folder around a place. The root lies in itself. -/
def parent (p : Location) : Location :=
  match p.names, p.base with
  | [], .above n => { base := .above (n + 1) }
  | [], .root => p
  | names, _ => { p with names := names.dropLast }

/-- The folders below the root that a system has. -/
def systemFolders : List String :=
  ["bin", "boot", "dev", "etc", "home", "lib", "media", "mnt", "opt", "proc", "root", "run", "sbin",
    "srv", "sys", "tmp", "usr", "var"]

/-- Whether there is a folder whatever files there are. -/
def isStanding (p : Location) : Bool :=
  match p.names, p.base with
  | [], _ => true
  | [name], .root => systemFolders.contains name
  | _, _ => false

/-- The file that is always empty. -/
def null : Location := { base := .root, names := ["dev", "null"] }

/-- Whether a place lies somewhere in a folder. -/
def isBelow (p folder : Location) : Bool :=
  p.base == folder.base && folder.names.isPrefixOf p.names && p.names != folder.names

end Location

/-! ### Names -/

/-- The parts of a name between slashes. -/
def pathParts (path : String) : List String :=
  (path.splitOn "/").filter (· != "")

/-- Where the way to a name starts. -/
def pathStart (path : String) : Location :=
  if path.toList.head? == some '/' then { base := .root } else .working

/-- Whether a name can only be one of a folder. -/
def endsInSlash (path : String) : Bool :=
  path.toList.getLast? == some '/'

/-- The number of bytes that a part of a name may have. -/
def maxPartSize : Nat := 255

/-- The number of bytes that a name may have. -/
def maxPathSize : Nat := 4095

/-- Why a step on a file fails. -/
inductive StepFault where
  | missing
  | notFolder
  | isFolder
  | tooLong
deriving DecidableEq, Repr

/-- The wording. -/
def StepFault.message : StepFault → String
  | missing => "No such file or directory (os error 2)"
  | notFolder => "Not a directory (os error 20)"
  | isFolder => "Is a directory (os error 21)"
  | tooLong => "File name too long (os error 36)"

/-! ### Directories -/

/-- Files, by place. -/
structure Directory where
  files : List (Location × String) := []
deriving DecidableEq, Repr

/-- What a name stands for. -/
inductive DirectoryEntry where
  | file (place : Location) (text : String)
  | folder (place : Location)
  /-- Nothing, in a folder that is there. -/
  | vacancy (place : Location)
  /-- The way to the name ends before its last part. -/
  | unreachable (f : StepFault)
deriving DecidableEq, Repr

namespace Directory

/-- The directory whose files have the given names in the working directory or below it. -/
def ofNames (files : List (String × String)) : Directory :=
  ⟨files.map fun (name, text) =>
    ({ base := .above 0, names := (pathParts name).filter (· != ".") }, text)⟩

/-- The text of the file at a place. -/
def textAt? (d : Directory) (p : Location) : Option String :=
  (d.files.find? (·.1 == p)).map (·.2)

/-- Whether there is a folder at a place. -/
def hasFolder (d : Directory) (p : Location) : Bool :=
  p.isStanding || d.files.any (·.1.isBelow p)

/-- What a place stands for. -/
def entryAt (d : Directory) (p : Location) : DirectoryEntry :=
  match d.textAt? p with
  | some text => .file p text
  | none =>
    if d.hasFolder p then .folder p else if p = .null then .file p "" else .vacancy p

/-- What a part of a name stands for in a folder. -/
def step (d : Directory) (p : Location) (part : String) : DirectoryEntry :=
  if part = "." then .folder p
  else if part = ".." then .folder p.parent
  else if maxPartSize < part.utf8ByteSize then .unreachable .tooLong
  else d.entryAt (p.child part)

/-- What the parts of a name stand for, one after the other, from a folder. -/
def follow (d : Directory) (p : Location) : List String → DirectoryEntry
  | [] => .folder p
  | [part] => d.step p part
  | part :: parts =>
    match d.step p part with
    | .folder q => d.follow q parts
    | .file .. => .unreachable .notFolder
    | .vacancy _ => .unreachable .missing
    | .unreachable f => .unreachable f

/-- What a name stands for. -/
def lookup (d : Directory) (path : String) : DirectoryEntry :=
  if maxPathSize < path.utf8ByteSize then .unreachable .tooLong
  else d.follow (pathStart path) (pathParts path)

/-- Whether a name stands for a file or a folder. -/
def contains (d : Directory) (path : String) : Bool :=
  match d.lookup path with
  | .file .. => !endsInSlash path
  | .folder _ => true
  | .vacancy _ | .unreachable _ => false

/-- The text of a file. -/
def read (d : Directory) (path : String) : Except StepFault String :=
  match d.lookup path with
  | .file _ text => if endsInSlash path then .error .notFolder else .ok text
  | .folder _ => .error .isFolder
  | .vacancy _ => .error .missing
  | .unreachable f => .error f

/-- Files with a text for a place. -/
def setText (p : Location) (text : String) : List (Location × String) → List (Location × String)
  | [] => [(p, text)]
  | (q, t) :: files => if q = p then (p, text) :: files else (q, t) :: setText p text files

/-- The directory with a text for a place. What is written to the empty file is lost. -/
def put (d : Directory) (p : Location) (text : String) : Directory :=
  if p = .null then d else ⟨setText p text d.files⟩

/-- The directory with a text for a name. A new file needs its folder. -/
def write (d : Directory) (path text : String) : Except StepFault Directory :=
  match d.lookup path with
  | .file p _ | .vacancy p => if endsInSlash path then .error .isFolder else .ok (d.put p text)
  | .folder _ => .error .isFolder
  | .unreachable f => .error f

end Directory

end HttpRouting
