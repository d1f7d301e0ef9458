import StubLinker.Unicode.Age
import StubLinker.Unicode.Break

namespace StubLinker.CharSet

/-- A name in plain letters. An `is` with nothing but a `c` behind it is the name of comments. -/
def plainName (name : List Char) : String :=
  let hasIs := ((name.take 2).map Char.toLower) = ['i', 's']
  let plain := ((if hasIs then name.drop 2 else name).filter fun c =>
    c.toNat < 0x80 && c != ' ' && c != '_' && c != '-').map Char.toLower
  if hasIs && plain = ['c'] then "isc" else String.ofList plain

def lookUp (name : String) (sets : List (List String × CharSet)) : Option CharSet :=
  (sets.find? fun e => e.1.contains name).map (·.2)

def named? (name : List Char) : Option CharSet :=
  let name := plainName name
  (lookUp name Property.named <|> lookUp name Category.named) <|>
    (Script.find? name).map Script.set

/-- The set of the characters for which what is named first has the value that is named second. -/
def valued? (kind value : List Char) : Option CharSet :=
  let value := plainName value
  match plainName kind with
  | "gc" | "generalcategory" => lookUp value Category.named
  | "sc" | "script" => (Script.find? value).map Script.set
  | "scx" | "scriptextensions" => (Script.find? value).map Script.extensions
  | "age" => Age.upTo? value
  | "gcb" | "graphemeclusterbreak" => lookUp value ClusterBreak.named
  | "wb" | "wordbreak" => lookUp value WordBreak.named
  | "sb" | "sentencebreak" => lookUp value SentenceBreak.named
  | _ => none

end StubLinker.CharSet
