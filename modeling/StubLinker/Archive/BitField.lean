import StubLinker.Power

namespace StubLinker

/-- The number that some bits from a position on form, the lowest one first; there are zeros behind
the last byte. -/
def bitsAt (data : Array UInt8) (position : Nat) : (bits : Nat) → Nat
  | 0 => 0
  | n + 1 =>
    let b := (data.getD (position / 8) 0).toNat.testBit (position % 8)
    b.toNat + 2 * bitsAt data (position + 1) n

/-- The number that some bytes from a position on form, the lowest one first; there are zeros behind
the last one. -/
def bytesAt (data : Array UInt8) (position : Nat) : (count : Nat) → Nat
  | 0 => 0
  | n + 1 => (data.getD position 0).toNat + 256 * bytesAt data (position + 1) n

end StubLinker
