import StubLinker.Build.Basic

namespace StubLinker

namespace BuildState

def fileName : String :=
  ".bytecoder-state.json"

/-- The record in an output folder. There is none if its file is missing or makes no sense. -/
def load (output : String) : Action BuildState := do
  let path := Path.join output fileName
  match ← Action.look (·.read path) with
  | .error .notFound => return {}
  | .error e => throw (.disk e)
  | .ok bytes =>
    match Bytes.toText? bytes with
    | none => throw .stateNotText
    | some text =>
      match ofJson text with
      | .ok state => return state
      | .error _ =>
        Action.report .warn s!"Ignoring corrupt {path}"
        return {}

def save (s : BuildState) (output : String) : Action Unit :=
  Action.onDisk (Session.writeFile (Path.join output fileName) (Bytes.ofText s.toJson))

end BuildState

namespace Build

/-- Refuses an output that exists and is the input or a folder above it. -/
def checkOutput (input output : String) : Action Unit := do
  if ← Action.look (·.has output) then
    let input ← Action.onDisk (Session.look (·.resolve input))
    let output ← Action.onDisk (Session.look (·.resolve output))
    if output.isPrefixOf input then throw (.outputHoldsInput output input)

/-- The inputs with their contents, by their paths below the input folder. A record at its top is
none of them. -/
def inputs (input : String) : Action (List (String × Bytes)) := do
  let inside ← Action.onDisk (Session.look (·.getFolder input))
  let named := inside.files.map fun f => ("/".intercalate f.1, f.2)
  return named.filter fun f => f.1 != BuildState.fileName

def record (b : Build) (files : List (String × Bytes)) : BuildState :=
  files.foldl (fun s f => s.record f.1 f.2) { settings := b.settingsDigest }

/-- The record to go on from. If there is none for these settings, the output is removed. -/
def prepare (b : Build) (output : String) (incremental : Bool) : Action BuildState := do
  let old ← if incremental then BuildState.load output else pure {}
  if old.settings = b.settingsDigest then return old
  if incremental && !old.files.entries.isEmpty then
    Action.report .warn "Build settings changed since the last run, rebuilding everything"
  if ← Action.look (·.has output) then
    Action.onDisk (Session.removeTree output)
  return {}

def removeOutput (path : String) : Action Unit := do
  let w ← get
  match w.disk.removeFile path with
  | .ok disk => set { w with disk }
  | .error .notFound => return ()
  | .error e => throw (.disk e)

def update (b : Build) (input output path : String) (change : Change) (s : Summary) :
    Action Summary := do
  let contents ← Action.read (Path.join input path)
  if b.links path then
    Action.report .info s!"Processing {path} ({change.name})"
    let linked ← b.link path contents
    Action.onDisk (Session.writeFile (Path.join output path) linked)
    return { s with rewritten := s.rewritten + 1 }
  else
    Action.onDisk (Session.writeFile (Path.join output path) contents)
    return { s with copied := s.copied + 1 }

def apply (b : Build) (input output : String) (s : Summary) : String × Change → Action Summary
  | (_, .notChanged) => return { s with unchanged := s.unchanged + 1 }
  | (path, .removed) => do
    Action.report .info s!"Removing {path}"
    removeOutput (Path.join output path)
    return { s with removed := s.removed + 1 }
  | (path, change) => b.update input output path change s

def directory (b : Build) (input output : String) (incremental : Bool) : Action Summary := do
  checkOutput input output
  let old ← b.prepare output incremental
  Action.onDisk (Session.makeFolders output)
  let new := b.record (← inputs input)
  let summary ← (old.changes new).foldlM (b.apply input output) {}
  new.save output
  Action.onDisk (Session.prune output)
  return summary

end Build

end StubLinker
