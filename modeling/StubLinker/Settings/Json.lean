import StubLinker.Json.Reader
import StubLinker.Json.Writer
import StubLinker.Settings

namespace StubLinker.Settings

/-- The settings that a text has given so far. -/
structure Given where
  annotationPackage : Option String := none
  linkFailureClass : Option String := none
  deriving DecidableEq, Repr

/-- The settings, with a default for each one that is not given. -/
def ofGiven (g : Given) : Settings :=
  let defaults : Settings := {}
  ⟨g.annotationPackage.getD defaults.annotationPackage,
    g.linkFailureClass.getD defaults.linkFailureClass⟩

def readOnce (given : Option String) (cs : List Char) :
    Except JsonFault (String × List Char) := do
  if given.isSome then throw .mismatch
  Json.readText (← Json.readColon cs)

def readField (g : Given) (key : String) (cs : List Char) :
    Except JsonFault (Given × List Char) := do
  if key = "annotation_package" then
    let (name, rest) ← readOnce g.annotationPackage cs
    return ({ g with annotationPackage := some name }, rest)
  else if key = "link_failure_class" then
    let (name, rest) ← readOnce g.linkFailureClass cs
    return ({ g with linkFailureClass := some name }, rest)
  else
    return (g, ← Json.skipValue (← Json.readColon cs))

def readElements (cs : List Char) : Except JsonFault (Given × List Char) := do
  match ← Json.nextElement true cs with
  | none => return ({}, cs)
  | some rest =>
    let (package, rest) ← Json.readText rest
    match ← Json.nextElement false rest with
    | none => return (⟨some package, none⟩, rest)
    | some rest =>
      let (failure, rest) ← Json.readText rest
      return (⟨some package, some failure⟩, rest)

def ofJson (s : String) : Except JsonFault Settings :=
  (Json.readAll (Json.readRecord (Json.readObject readField {}) readElements) s).map ofGiven

def toJson (s : Settings) : String :=
  Json.compactObject
    [("annotation_package", s.annotationPackage), ("link_failure_class", s.linkFailureClass)]

end StubLinker.Settings
