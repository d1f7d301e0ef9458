import StubLinker.Archive.Writer
import StubLinker.Build.Basic

namespace StubLinker.Build

/-- Opens an archive. A folder can be opened too, but not be read. -/
def openArchive (path : String) : Action (List ArchiveEntry) := do
  if ← Action.look (·.hasFolder path) then throw (.unreadArchive .isAFolder)
  match Archive.read (← Action.read path) with
  | .ok entries => return entries
  | .error e => throw (.archive e)

/-- The contents of an entry. A folder has none, but it has to open. -/
def contentsOf (e : ArchiveEntry) : Action Bytes :=
  match e.contents with
  | .ok contents => return if e.isFolder then [] else contents
  | .error cause =>
    if e.isFolder && cause.isInContents then return [] else throw (.archive cause)

/-- Takes over one entry: what is built so far, with the entry and its count. -/
def convert (b : Build) (input : String) (built : List (String × Bytes) × Summary)
    (e : ArchiveEntry) : Action (List (String × Bytes) × Summary) := do
  let (entries, s) := built
  let contents ← contentsOf e
  if e.isFolder then
    return (entries ++ [(e.name, [])], s)
  else if b.links e.name then
    Action.report .info s!"Processing {e.name} from {input}"
    let linked ← b.link e.name contents
    return (entries ++ [(e.name, linked)], { s with rewritten := s.rewritten + 1 })
  else
    return (entries ++ [(e.name, contents)], { s with copied := s.copied + 1 })

def jar (b : Build) (input output : String) : Action Summary := do
  let entries ← openArchive input
  Action.onDisk (Session.makeFolders (Path.folder output))
  let (built, summary) ← entries.foldlM (b.convert input) ([], {})
  Action.onDisk (Session.change (·.moveIn output (Archive.write built)))
  return summary

end StubLinker.Build
