import StubLinker.Text.Extender
import StubLinker.Text.Glyphless

namespace StubLinker.Text

def isWithin (ranges : List (Nat × Nat)) (c : Char) : Bool :=
  ranges.any fun r => r.1 ≤ c.toNat && c.toNat ≤ r.2

def isPlain (c : Char) : Bool :=
  !isWithin glyphlessRanges c && !isWithin extenderRanges c

end StubLinker.Text
