namespace StubLinker

/-- The output with a piece of it, some bytes back, repeated at its end. The piece may overlap what
it becomes, and in front of the output there are zeros. -/
def copyBack (out : Array UInt8) (distance : Nat) : (length : Nat) → Array UInt8
  | 0 => out
  | n + 1 =>
    let b := if distance ≤ out.size then out.getD (out.size - distance) 0 else 0
    copyBack (out.push b) distance n

end StubLinker
