namespace StubLinker.Text

def cut (separator : Char) : List Char → List (List Char)
  | [] => [[]]
  | c :: cs =>
    if c = separator then [] :: cut separator cs
    else
      match cut separator cs with
      | [] => [[c]]
      | piece :: pieces => (c :: piece) :: pieces

def pieces (separator : Char) (s : String) : List String :=
  (cut separator s.toList).map String.ofList

end StubLinker.Text
