import StubLinker.CommandLine.Tool

namespace StubLinker.CommandLine

/-- Reads a file, or a folder with all below it. -/
partial def readEntry (path : String) : IO Entry := do
  let found ← IO.FS.realPath path
  if ← found.isDir then
    let names := (← found.readDir).map fun e => e.fileName
    let inside ← names.foldlM (fun f name => do
      return f.place name (← readEntry (Path.join path name))) Folder.empty
    return .folder inside
  else
    return .file (← IO.FS.readBinFile path).data.toList

def isThere (path : String) : IO Bool := do
  try
    (← IO.FS.realPath path).pathExists
  catch _ => return false

def locate (current : Location) (path : String) : Location :=
  (Path.components path).foldl
    (fun l step => if step = "." then l else if step = ".." then l.dropLast else l ++ [step])
    (if Path.isAbsolute path then [] else current)

/-- Takes what is at a location onto the disk, with the folders above it. -/
def takeIn (disk : Disk) (l : Location) : IO Disk :=
  (List.range (l.length + 1)).foldlM
    (fun d n => do
      let above : Location := l.take n
      if !(← isThere above.display) then return d
      if n = l.length then return d.put above (← readEntry above.display)
      if (d.root.at? above).isSome then return d
      return d.put above (.folder .empty))
    disk

def gather (args : List String) : IO Disk := do
  let current := locate [] (← IO.currentDir).toString
  let start := (List.range current.length).foldl
    (fun d n => d.put (current.take (n + 1)) (.folder .empty)) ({ current } : Disk)
  (args.map (locate current)).foldlM takeIn start

/-- Removes the entries of a folder that have gone or have become something else. -/
def removeGone (path : String) (old new : Folder) : IO Unit :=
  old.entries.forM fun (name, entry) => do
    let there := Path.join path name
    match entry, new.find? name with
    | .file _, some (.file _) => return ()
    | .folder _, some (.folder _) => return ()
    | .file _, _ => IO.FS.removeFile there
    | .folder _, _ => IO.FS.removeDirAll there

def writeBack (path : String) (old : Folder) : (new : Folder) → IO Unit
  | .empty => return ()
  | .file name contents rest => do
    if old.find? name ≠ some (.file contents) then
      IO.FS.writeBinFile (Path.join path name) ⟨contents.toArray⟩
    writeBack path old rest
  | .folder name inside rest => do
    let there := Path.join path name
    match old.find? name with
    | some (.folder before) =>
      removeGone there before inside
      writeBack there before inside
    | _ =>
      IO.FS.createDir there
      writeBack there .empty inside
    writeBack path old rest

def run (tool : List String → Disk → Outcome) (args : List String) : IO UInt32 := do
  let disk ← gather args
  let outcome := tool args disk
  removeGone "/" disk.root outcome.disk.root
  writeBack "/" disk.root outcome.disk.root
  outcome.complaints.forM IO.eprintln
  IO.print outcome.printed
  return outcome.code.toUInt32

end StubLinker.CommandLine

def main (args : List String) : IO UInt32 :=
  match args with
  | "link" :: rest => StubLinker.CommandLine.run StubLinker.Linking.run rest
  | "report" :: rest => StubLinker.CommandLine.run (StubLinker.Reporting.run "report") rest
  | _ => do
    IO.eprintln "expected link or report as the first argument"
    return 1
