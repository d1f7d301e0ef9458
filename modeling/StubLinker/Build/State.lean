import StubLinker.Json.Reader
import StubLinker.Json.Writer
import StubLinker.Sha256
import StubLinker.SortedMap

namespace StubLinker

/-- What happened to an input since the build before. -/
inductive Change where
  | added
  | changed
  | notChanged
  | removed
  deriving DecidableEq, Repr

def Change.name : Change → String
  | added => "Added"
  | changed => "Changed"
  | notChanged => "NotChanged"
  | removed => "Removed"

/-- The record of a build. Inputs are named by their paths, with `/` between names. -/
structure BuildState where
  settings : String := ""
  files : SortedMap String := .empty
  deriving DecidableEq, Repr

namespace BuildState

def record (s : BuildState) (path : String) (contents : Bytes) : BuildState :=
  { s with files := s.files.insert path (sha256 contents) }

/-- What happened to an input that there is now, told by its digest from before. -/
def statusOf (previous : Option String) (digest : String) : Change :=
  match previous with
  | none => .added
  | some previous => if previous = digest then .notChanged else .changed

/-- What happened to each input of either build, in the order of their paths. -/
def changes (old new : BuildState) : List (String × Change) :=
  let current := new.files.entries.map fun e => (e.1, statusOf (old.files.get? e.1) e.2)
  let gone := old.files.keys.filter fun path => (new.files.get? path).isNone
  (current ++ gone.map fun path => (path, Change.removed)).mergeSort fun a b => a.1 ≤ b.1

def toJson (s : BuildState) : String :=
  Json.prettyObject 0
    [("settings", Json.quote s.settings),
      ("files", Json.prettyObject 1 (s.files.entries.map fun e => (e.1, Json.quote e.2)))]

/-- The parts of a record that a text has given so far. -/
structure Given where
  settings : Option String := none
  files : Option (SortedMap String) := none

def ofGiven (g : Given) : Except JsonFault BuildState :=
  match g.files with
  | some files => .ok ⟨g.settings.getD "", files⟩
  | none => .error .mismatch

def readDigest (files : SortedMap String) (path : String) (cs : List Char) :
    Except JsonFault (SortedMap String × List Char) := do
  let (digest, rest) ← Json.readText (← Json.readColon cs)
  return (files.insert path digest, rest)

/-- Reads the files of a record. The last digest of a path counts. -/
def readFiles (cs : List Char) : Except JsonFault (SortedMap String × List Char) := do
  match Json.skipSpace cs with
  | '{' :: rest =>
    let (files, rest) ← Json.readObject readDigest .empty rest
    return (files, ← Json.close .object rest)
  | other => throw (Json.mismatchFault other)

def readField (g : Given) (key : String) (cs : List Char) :
    Except JsonFault (Given × List Char) := do
  if key = "settings" then
    if g.settings.isSome then throw .mismatch
    let (settings, rest) ← Json.readText (← Json.readColon cs)
    return ({ g with settings := some settings }, rest)
  else if key = "files" then
    if g.files.isSome then throw .mismatch
    let (files, rest) ← readFiles (← Json.readColon cs)
    return ({ g with files := some files }, rest)
  else
    return (g, ← Json.skipValue (← Json.readColon cs))

def readFields (cs : List Char) : Except JsonFault (BuildState × List Char) := do
  let (given, rest) ← Json.readObject readField {} cs
  return (← ofGiven given, rest)

def readElements (cs : List Char) : Except JsonFault (BuildState × List Char) := do
  let some rest ← Json.nextElement true cs | throw .mismatch
  let (settings, rest) ← Json.readText rest
  let some rest ← Json.nextElement false rest | throw .mismatch
  let (files, rest) ← readFiles rest
  return (⟨settings, files⟩, rest)

def ofJson (s : String) : Except JsonFault BuildState :=
  Json.readAll (Json.readRecord readFields readElements) s

end BuildState

end StubLinker
