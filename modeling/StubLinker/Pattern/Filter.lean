import StubLinker.Pattern.Match
import StubLinker.Pattern.Parser

namespace StubLinker

/-- A pattern that selects paths, with the text it stands for. -/
structure PathFilter where
  text : String
  pattern : Pattern
  pattern_eq : Pattern.ofText text = .ok pattern

namespace PathFilter

def ofText (s : String) : Except Pattern.Fault PathFilter :=
  match h : Pattern.ofText s with
  | .ok p => .ok ⟨s, p, h⟩
  | .error e => .error e

def selects (f : PathFilter) (path : String) : Bool :=
  f.pattern.occursIn path

end PathFilter

end StubLinker
