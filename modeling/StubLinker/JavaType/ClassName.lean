import StubLinker.Text.Blank

namespace StubLinker.ClassName

def isSeparator (c : Char) : Bool :=
  c == '.' || c == '/'

/-- A character inside a segment: no separator, no punctuation of descriptors, no white space. -/
def isSegmentChar (c : Char) : Bool :=
  !isSeparator c && !(c == ';' || c == '[' || c == '<' || c == '>') && !Text.isBlank c

/-- Whether the characters complete a class name; `fresh` says that a segment has yet to begin. -/
def completes (fresh : Bool) : List Char → Bool
  | [] => !fresh
  | c :: cs =>
    if isSeparator c then !fresh && completes true cs
    else isSegmentChar c && completes false cs

def isValid (name : String) : Bool :=
  completes true name.toList

def internal (name : String) : String :=
  Text.replaceIf (· == '.') '/' name

def source (name : String) : String :=
  Text.replaceIf (· == '/') '.' name

def object : String :=
  "java/lang/Object"

end StubLinker.ClassName
