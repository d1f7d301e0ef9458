import StubLinker.Archive.Basic
import StubLinker.Disk.Basic
import StubLinker.Report.Basic
import StubLinker.Text.Shown

namespace StubLinker

/-- Why a report cannot be made. -/
inductive ReportError where
  | badClass (origin : String) (cause : LinkError)
  | unreadable (path : String) (cause : DiskError)
  | unopened (path : String) (cause : DiskError)
  | badArchive (path : String) (cause : ArchiveError)
  | badEntry (index : Nat) (path : String) (cause : ArchiveError)
  | badContents (name : String) (cause : ArchiveError)
  | uncreated (path : String) (cause : DiskError)
  deriving DecidableEq, Repr

def ReportError.message : ReportError → String
  | badClass origin cause => s!"Failed to inspect '{origin}': {cause.message}"
  | unreadable path cause => s!"Failed to read {Text.shown path}: {cause.message}"
  | unopened path cause => s!"Failed to open JAR file {Text.shown path}: {cause.message}"
  | badArchive path cause => s!"Failed to read JAR archive {Text.shown path}: {cause.message}"
  | badEntry index path cause =>
    s!"Failed to read entry {index} of {Text.shown path}: {cause.message}"
  | badContents name cause => s!"Failed to read '{name}' from JAR: {cause.message}"
  | uncreated path cause => s!"Failed to create output file {Text.shown path}: {cause.message}"

namespace Report

def addClass (origin : String) (bytes : Bytes) (r : Report) : Except ReportError Report :=
  match ClassFile.summaries {} bytes with
  | .ok stubs => .ok (stubs.foldl add r)
  | .error e => .error (.badClass origin e)

/-- Adds the stubs of an entry of an archive, if it is a class. An entry that cannot be
opened fails whatever it is. -/
def addEntry (path : String) (r : Report) (indexed : ArchiveEntry × Nat) :
    Except ReportError Report :=
  let (e, index) := indexed
  let isClass := ".class".toList.isSuffixOf e.name.toList
  match e.contents with
  | .ok bytes => if isClass then r.addClass s!"{path}!{e.name}" bytes else .ok r
  | .error cause =>
    if !cause.isInContents then .error (.badEntry index path cause)
    else if isClass then .error (.badContents e.name cause)
    else .ok r

def addArchive (path : String) (bytes : Bytes) (r : Report) : Except ReportError Report :=
  match Archive.read bytes with
  | .ok entries => (entries.zip (List.range entries.length)).foldlM (addEntry path) r
  | .error e => .error (.badArchive path e)

def isArchive (path : String) : Bool :=
  Path.extension? path = some "jar"

def isClass (path : String) : Bool :=
  Path.extension? path = some "class"

/-- Adds the stubs of the classes and archives in a folder, in the order of their names. -/
def addFolder (path : String) : Folder → Report → Except ReportError Report
  | .empty, r => .ok r
  | .file name contents rest, r => do
    let entry := Path.join path name
    let r ←
      if isArchive entry then r.addArchive entry contents
      else if isClass entry then r.addClass entry contents
      else .ok r
    addFolder path rest r
  | .folder name inside rest, r => do
    let r ← addFolder (Path.join path name) inside r
    addFolder path rest r

def addInput (d : Disk) (r : Report) (path : String) : Except ReportError Report :=
  match d.get path with
  | .ok (.folder inside) => addFolder path inside r
  | .ok (.file contents) =>
    if isArchive path then r.addArchive path contents else r.addClass path contents
  | .error e =>
    if isArchive path then .error (.unopened path e) else .error (.unreadable path e)

def ofInputs (d : Disk) (inputs : List String) : Except ReportError Report :=
  (inputs.foldlM (addInput d) {}).map sorted

end Report

end StubLinker
