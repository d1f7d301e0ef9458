import StubLinker.Archive.Basic
import StubLinker.Build.State
import StubLinker.Disk.Session
import StubLinker.Link
import StubLinker.Pattern.Filter
import StubLinker.Settings.Json

namespace StubLinker

inductive BuildError where
  | disk (cause : DiskError)
  | outputHoldsInput (output input : Location)
  | stateNotText
  | badClass (path : String) (cause : LinkError)
  | archive (cause : ArchiveError)
  | unreadArchive (cause : DiskError)
  deriving DecidableEq, Repr

def BuildError.message : BuildError → String
  | disk cause => cause.message
  | outputHoldsInput output input =>
    s!"output directory {output.display} must not contain the input directory {input.display}"
  | stateNotText => "stream did not contain valid UTF-8"
  | badClass path cause => s!"{path}: {cause.message}"
  | archive cause => cause.message
  | unreadArchive cause => "i/o error: " ++ cause.message

/-- A disk and the lines logged so far. -/
structure World where
  disk : Disk := {}
  log : List LogLine := []
  deriving DecidableEq, Repr

abbrev Action := ExceptT BuildError (StateM World)

namespace Action

def report (level : Level) (message : String) : Action Unit :=
  modify fun w => { w with log := w.log ++ [⟨.build, level, message⟩] }

def append (lines : List LogLine) : Action Unit :=
  modify fun w => { w with log := w.log ++ lines }

def onDisk {α : Type} (work : Session α) : Action α := do
  let w ← get
  let (result, disk) := work.run.run w.disk
  set { w with disk }
  match result with
  | .ok a => return a
  | .error e => throw (.disk e)

def look {α : Type} (f : Disk → α) : Action α := do
  return f (← get).disk

def read (path : String) : Action Bytes :=
  onDisk (Session.look (·.read path))

end Action

/-- What a build counts. -/
structure Summary where
  rewritten : Nat := 0
  copied : Nat := 0
  unchanged : Nat := 0
  removed : Nat := 0
  deriving DecidableEq, Repr

/-- The settings of a build. Only classes that the filter selects are linked. -/
structure Build where
  settings : Settings := {}
  filter : Option PathFilter := none

namespace Build

def links (b : Build) (path : String) : Bool :=
  ".class".toList.isSuffixOf path.toList && b.filter.all (·.selects path)

/-- What an input becomes: a class is linked, anything else stays as it is. -/
def outcome (b : Build) (path : String) (contents : Bytes) : Except LinkError Bytes :=
  if b.links path then (ClassFile.linkBytes b.settings contents).1 else .ok contents

def settingsText (b : Build) : String :=
  b.settings.toJson ++ "\n" ++ (b.filter.map (·.text)).getD ""

def settingsDigest (b : Build) : String :=
  sha256 (Bytes.ofText b.settingsText)

def link (b : Build) (path : String) (contents : Bytes) : Action Bytes := do
  let (result, lines) := ClassFile.linkBytes b.settings contents
  Action.append lines
  match result with
  | .ok linked => return linked
  | .error e => throw (.badClass path e)

end Build

end StubLinker
