import StubLinker.Disk.Basic

namespace StubLinker

abbrev Session := ExceptT DiskError (StateM Disk)

namespace Session

def look {α : Type} (f : Disk → Except DiskError α) : Session α := do
  match f (← get) with
  | .ok a => return a
  | .error e => throw e

def change (f : Disk → Except DiskError Disk) : Session Unit := do
  match f (← get) with
  | .ok d => set d
  | .error e => throw e

def ensureFolder (path : String) : Session Unit := do
  let d ← get
  match d.makeFolder path with
  | .ok made => set made
  | .error e => if d.hasFolder path then return () else throw e

/-- Makes a folder, given the paths above it from the nearest one on, which are made first where
they are missing. -/
def makeFolderBelow (path : String) : (above : List String) → Session Unit
  | [] => ensureFolder path
  | nearest :: above => do
    match (← get).makeFolder path with
    | .error .notFound =>
      makeFolderBelow nearest above
      ensureFolder path
    | _ => ensureFolder path

def makeFolders (path : String) : Session Unit :=
  if path.isEmpty then pure () else makeFolderBelow path (Path.ancestors path)

def removeTree (path : String) : Session Unit := do
  let l ← look (·.resolve path)
  let _ ← look (·.getFolder path)
  modify fun d => d.put l (.folder .empty)
  match (← get).removeFolder path with
  | .ok d => set d
  | .error .notFound => return ()
  | .error e => throw e

/-- Writes a file by moving it into place once it is complete; its folder is made if it is
missing. -/
def writeFile (path : String) (contents : Bytes) : Session Unit := do
  makeFolders (Path.folder path)
  change (·.moveIn path contents)

/-- Removes the folders below a folder that hold no file, given its entries as they are listed, from
the last one back, and tells whether the folder is left without entries. -/
def pruneEach (path : String) : Folder → Session Bool
  | .empty => return true
  | .file _ _ rest => do
    let _ ← pruneEach path rest
    return false
  | .folder name inside rest => do
    let others ← pruneEach path rest
    let below := Path.join path name
    let _ ← look (·.getFolder below)
    if ← pruneEach below inside then
      change (·.removeFolder below)
      return others
    else return false

def prune (path : String) : Session Unit := do
  let inside ← look (·.getFolder path)
  -- one order of the entries is enough: as long as the path leads on, each order leaves the same
  let _ ← pruneEach path inside

end Session

end StubLinker
