import StubLinker.Text.Pieces

namespace StubLinker.Path

def isAbsolute (path : String) : Bool :=
  path.toList.head? = some '/'

/-- The steps of a path as they are written, empty ones included. -/
def steps (path : String) : List String :=
  Text.pieces '/' path

/-- The steps of a path that count: empty ones and every `.` but a leading one do not. -/
def components (path : String) : List String :=
  match steps path with
  | "." :: rest => "." :: rest.filter fun s => s != "" && s != "."
  | all => all.filter fun s => s != "" && s != "."

def ofComponents (absolute : Bool) (components : List String) : String :=
  (if absolute then "/" else "") ++ "/".intercalate components

/-- A path continued by another; one that starts at the root takes its place. -/
def join (base path : String) : String :=
  if isAbsolute path then path
  else if base.isEmpty || base.toList.getLast? = some '/' then base ++ path
  else base ++ "/" ++ path

/-- The path without its last component; none if it has no component. -/
def parent? (path : String) : Option String :=
  match components path with
  | [] => none
  | cs => some (ofComponents (isAbsolute path) cs.dropLast)

/-- The paths above a path, from the nearest one on. The empty path is not among them. -/
def ancestors (path : String) : List String :=
  let cs := components path
  let proper := (List.range cs.length).reverse.map fun n =>
    ofComponents (isAbsolute path) (cs.take n)
  proper.filter fun p => !p.isEmpty

def folder (path : String) : String :=
  match parent? path with
  | none => "."
  | some p => if p.isEmpty then "." else p

def fileName? (path : String) : Option String :=
  match (components path).getLast? with
  | none => none
  | some name => if name = "." || name = ".." then none else some name

/-- The part of a file name behind its last point. A point at the front does not start one. -/
def extension? (path : String) : Option String :=
  (fileName? path).bind fun name =>
    let back := name.toList.reverse
    match back.dropWhile (· != '.') with
    | _ :: _ :: _ => some (String.ofList (back.takeWhile (· != '.')).reverse)
    | _ => none

end StubLinker.Path
