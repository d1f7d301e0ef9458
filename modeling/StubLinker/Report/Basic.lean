import StubLinker.Json.Writer
import StubLinker.Link
import StubLinker.SortedMap

namespace StubLinker

/-- Stubs by the names of their classes, and how many there are. -/
structure Report where
  count : Nat := 0
  classes : SortedMap (List StubSummary) := .empty
  deriving DecidableEq, Repr

namespace StubSummary

def precedes (a b : StubSummary) : Bool :=
  a.method < b.method || (a.method = b.method && a.descriptor ≤ b.descriptor)

def optionalText : Option String → String
  | some s => Json.quote s
  | none => "null"

def toJson (level : Nat) (s : StubSummary) : String :=
  Json.prettyObject level
    [("class", Json.quote s.className), ("method", Json.quote s.method),
      ("descriptor", Json.quote s.descriptor), ("kind", Json.quote s.operation.name),
      ("target_class", optionalText s.target), ("member_name", optionalText s.member),
      ("parameter_overrides",
        Json.prettyObject (level + 1)
          (s.parameterOverrides.map fun o => (toString o.1, Json.quote o.2))),
      ("return_override", optionalText s.returnOverride)]

end StubSummary

namespace Report

def add (r : Report) (s : StubSummary) : Report :=
  let before := (r.classes.get? s.className).getD []
  ⟨r.count + 1, r.classes.insert s.className (before ++ [s])⟩

/-- The report with the stubs of each class in order. Stubs that agree on method and descriptor stay
as they were found. -/
def sorted (r : Report) : Report :=
  { r with classes := r.classes.map fun stubs => stubs.mergeSort StubSummary.precedes }

def toJson (r : Report) : String :=
  Json.prettyObject 0
    [("stub_count", toString r.count),
      ("classes", Json.prettyObject 1
        (r.classes.entries.map fun e => (e.1, Json.prettyList 2 (e.2.map (StubSummary.toJson 3)))))]

end Report

end StubLinker
