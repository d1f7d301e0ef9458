import StubLinker.Bytes

namespace StubLinker

/-- The entries of a folder. -/
inductive Folder where
  | empty
  | file (name : String) (contents : Bytes) (rest : Folder)
  | folder (name : String) (inside rest : Folder)
  deriving DecidableEq, Repr, Inhabited

/-- What a name in a folder stands for. -/
inductive Entry where
  | file (contents : Bytes)
  | folder (inside : Folder)
  deriving DecidableEq, Repr

abbrev Location := List String

def Location.display (l : Location) : String :=
  "/" ++ "/".intercalate l

namespace Folder

def cons (name : String) (entry : Entry) (rest : Folder) : Folder :=
  match entry with
  | .file contents => file name contents rest
  | .folder inside => folder name inside rest

def entries : Folder → List (String × Entry)
  | empty => []
  | file name contents rest => (name, .file contents) :: rest.entries
  | folder name inside rest => (name, .folder inside) :: rest.entries

def find? (name : String) : Folder → Option Entry
  | empty => none
  | file n contents rest => if n = name then some (.file contents) else rest.find? name
  | folder n inside rest => if n = name then some (.folder inside) else rest.find? name

/-- Puts an entry in its place; an entry of the same name makes room for it. -/
def place (name : String) (entry : Entry) : Folder → Folder
  | empty => cons name entry empty
  | file n contents rest =>
    if name < n then cons name entry (file n contents rest)
    else if name = n then cons name entry rest
    else file n contents (rest.place name entry)
  | folder n inside rest =>
    if name < n then cons name entry (folder n inside rest)
    else if name = n then cons name entry rest
    else folder n inside (rest.place name entry)

def erase (name : String) : Folder → Folder
  | empty => empty
  | file n contents rest => if n = name then rest else file n contents (rest.erase name)
  | folder n inside rest => if n = name then rest else folder n inside (rest.erase name)

def at? : Folder → Location → Option Entry
  | f, [] => some (.folder f)
  | f, name :: rest =>
    match f.find? name with
    | some (.folder inside) => inside.at? rest
    | some (.file contents) => if rest.isEmpty then some (.file contents) else none
    | none => none

def put (entry : Entry) : Folder → Location → Folder
  | f, [] =>
    match entry with
    | .folder inside => inside
    | .file _ => f
  | f, [name] => f.place name entry
  | f, name :: rest =>
    match f.find? name with
    | some (.folder inside) => f.place name (.folder (put entry inside rest))
    | _ => f

def remove : Folder → Location → Folder
  | f, [] => f
  | f, [name] => f.erase name
  | f, name :: rest =>
    match f.find? name with
    | some (.folder inside) => f.place name (.folder (remove inside rest))
    | _ => f

def files : Folder → List (Location × Bytes)
  | empty => []
  | file name contents rest => ([name], contents) :: rest.files
  | folder name inside rest => inside.files.map (fun f => (name :: f.1, f.2)) ++ rest.files

@[simp] theorem find?_cons (name n : String) (entry : Entry) (rest : Folder) :
    (cons n entry rest).find? name = if n = name then some entry else rest.find? name := by
  cases entry <;> rfl

theorem find?_place (name n : String) (entry : Entry) (f : Folder) :
    (f.place n entry).find? name = if n = name then some entry else f.find? name := by
  induction f with
  | empty => simp [place]
  | file m contents rest ih => grind [place, find?, find?_cons]
  | folder m inside rest _ ih => grind [place, find?, find?_cons]

end Folder

end StubLinker
