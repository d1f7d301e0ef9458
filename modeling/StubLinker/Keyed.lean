namespace StubLinker.Keyed

variable {κ α : Type} [BEq κ]

/-- Puts a value under a key: in place of the old value of the key, or at the end. -/
def put (key : κ) (value : α) : List (κ × α) → List (κ × α)
  | [] => [(key, value)]
  | (k, v) :: rest => if k == key then (k, value) :: rest else (k, v) :: put key value rest

def ofPairs (pairs : List (κ × α)) : List (κ × α) :=
  pairs.foldl (fun found p => put p.1 p.2 found) []

end StubLinker.Keyed
