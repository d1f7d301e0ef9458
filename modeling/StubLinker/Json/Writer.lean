import StubLinker.Json.Quoted

namespace StubLinker.Json

def compactObject (fields : List (String × String)) : String :=
  "\x7b" ++ ",".intercalate (fields.map fun f => quote f.1 ++ ":" ++ quote f.2) ++ "\x7d"

def indent (level : Nat) : String :=
  String.ofList ('\n' :: List.replicate (2 * level) ' ')

/-- Items between an opening and a closing character, each on a line of the level below. -/
def layOut (level : Nat) (opening closing : String) (items : List String) : String :=
  if items.isEmpty then opening ++ closing
  else
    opening ++ ",".intercalate (items.map fun item => indent (level + 1) ++ item) ++
      indent level ++ closing

/-- An object at a level, with its values as they are written at the level below. -/
def prettyObject (level : Nat) (fields : List (String × String)) : String :=
  layOut level "\x7b" "\x7d" (fields.map fun f => quote f.1 ++ ": " ++ f.2)

/-- A list at a level, with its elements as they are written at the level below. -/
def prettyList (level : Nat) (elements : List String) : String :=
  layOut level "[" "]" elements

end StubLinker.Json
