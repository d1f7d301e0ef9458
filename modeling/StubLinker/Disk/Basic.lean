import StubLinker.Disk.Folder
import StubLinker.Disk.Path

namespace StubLinker

/-- A tree of files with a current folder. -/
structure Disk where
  root : Folder := .empty
  current : Location := []
  deriving DecidableEq, Repr

/-- Why the disk refuses an operation. -/
inductive DiskError where
  | notFound
  | notAFolder
  | isAFolder
  | alreadyExists
  | folderNotEmpty
  | invalidArgument
  | busy
  | nameTooLong
  | nulInPath
  deriving DecidableEq, Repr

def DiskError.message : DiskError → String
  | notFound => "No such file or directory (os error 2)"
  | notAFolder => "Not a directory (os error 20)"
  | isAFolder => "Is a directory (os error 21)"
  | alreadyExists => "File exists (os error 17)"
  | folderNotEmpty => "Directory not empty (os error 39)"
  | invalidArgument => "Invalid argument (os error 22)"
  | busy => "Device or resource busy (os error 16)"
  | nameTooLong => "File name too long (os error 36)"
  | nulInPath => "file name contained an unexpected NUL byte"

/-- A place where an entry is or could be: a folder that exists, the last step of a path, and
whether the path goes on with a slash. -/
structure Spot where
  folder : Location
  name : String
  slash : Bool
  deriving DecidableEq, Repr

namespace Spot

/-- Whether the last step is one from folder to folder, or there is none. -/
def isSpecial (s : Spot) : Bool :=
  s.name = "" || s.name = "." || s.name = ".."

def location (s : Spot) : Location :=
  s.folder ++ [s.name]

end Spot

namespace Disk

def checkPath (path : String) : Except DiskError Unit := do
  if path.toList.contains (Char.ofNat 0) then throw .nulInPath
  if path.isEmpty then throw .notFound
  if 4095 < path.utf8ByteSize then throw .nameTooLong

def checkName (name : String) : Except DiskError Unit := do
  if 255 < name.utf8ByteSize then throw .nameTooLong

def step (d : Disk) (l : Location) (name : String) : Except DiskError Location :=
  match d.root.at? l with
  | none => .error .notFound
  | some (.file _) => .error .notAFolder
  | some (.folder inside) =>
    if name = "" || name = "." then .ok l
    else if name = ".." then .ok l.dropLast
    else do
      checkName name
      if (inside.find? name).isSome then return l ++ [name] else throw .notFound

def start (d : Disk) (path : String) : Location :=
  if Path.isAbsolute path then [] else d.current

def resolve (d : Disk) (path : String) : Except DiskError Location := do
  checkPath path
  (Path.steps path).foldlM d.step (d.start path)

def get (d : Disk) (path : String) : Except DiskError Entry := do
  match d.root.at? (← d.resolve path) with
  | some entry => return entry
  | none => throw .notFound

def has (d : Disk) (path : String) : Bool :=
  match d.get path with
  | .ok _ => true
  | .error _ => false

def hasFolder (d : Disk) (path : String) : Bool :=
  match d.get path with
  | .ok (.folder _) => true
  | _ => false

def read (d : Disk) (path : String) : Except DiskError Bytes := do
  match ← d.get path with
  | .file contents => return contents
  | .folder _ => throw .isAFolder

def getFolder (d : Disk) (path : String) : Except DiskError Folder := do
  match ← d.get path with
  | .file _ => throw .notAFolder
  | .folder inside => return inside

/-- The spot that a path names. Its folder has to exist, its entry need not. -/
def spot (d : Disk) (path : String) : Except DiskError Spot := do
  checkPath path
  let back := (Path.steps path).reverse
  let slash := back.head? = some ""
  match back.dropWhile (· == "") with
  | [] => return ⟨[], "", true⟩
  | name :: above =>
    let folder ← above.reverse.foldlM d.step (d.start path)
    return ⟨← d.step folder "", name, slash⟩

def put (d : Disk) (l : Location) (entry : Entry) : Disk :=
  { d with root := d.root.put entry l }

def remove (d : Disk) (l : Location) : Disk :=
  { d with root := d.root.remove l }

def makeFolder (d : Disk) (path : String) : Except DiskError Disk := do
  let s ← d.spot path
  if s.isSpecial then throw .alreadyExists
  checkName s.name
  if (d.root.at? s.location).isSome then throw .alreadyExists
  return d.put s.location (.folder .empty)

def write (d : Disk) (path : String) (contents : Bytes) : Except DiskError Disk := do
  let s ← d.spot path
  if s.isSpecial || s.slash then throw .isAFolder
  checkName s.name
  match d.root.at? s.location with
  | some (.folder _) => throw .isAFolder
  | _ => return d.put s.location (.file contents)

def moveIn (d : Disk) (path : String) (contents : Bytes) : Except DiskError Disk := do
  let s ← d.spot path
  if s.isSpecial then throw .busy
  checkName s.name
  if s.slash then throw .notAFolder
  match d.root.at? s.location with
  | some (.folder _) => throw .isAFolder
  | _ => return d.put s.location (.file contents)

def removeFile (d : Disk) (path : String) : Except DiskError Disk := do
  let s ← d.spot path
  if s.isSpecial then throw .isAFolder
  checkName s.name
  match d.root.at? s.location with
  | none => throw .notFound
  | some (.folder _) => throw .isAFolder
  | some (.file _) =>
    if s.slash then throw .notAFolder
    return d.remove s.location

def removeFolder (d : Disk) (path : String) : Except DiskError Disk := do
  let s ← d.spot path
  if s.name = "." then throw .invalidArgument
  if s.name = ".." then throw .folderNotEmpty
  if s.name = "" then throw .busy
  checkName s.name
  match d.root.at? s.location with
  | none => throw .notFound
  | some (.file _) => throw .notAFolder
  | some (.folder .empty) => return d.remove s.location
  | some (.folder _) => throw .folderNotEmpty

end Disk

end StubLinker
