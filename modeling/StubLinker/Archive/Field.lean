import StubLinker.Bytes

namespace StubLinker.Archive

def littleEndian (bs : Bytes) : Nat :=
  bs.foldr (fun b n => b.toNat + 256 * n) 0

def toLittleEndian (n : Nat) : (width : Nat) → Bytes
  | 0 => []
  | width + 1 => n.toUInt8 :: toLittleEndian (n / 256) width

/-- The number in a field of a record, given by its first byte and its width. -/
def field (record : Bytes) (start width : Nat) : Nat :=
  littleEndian ((record.drop start).take width)

/-- The first bytes and what follows them, if there are so many. -/
def split? (n : Nat) (bs : Bytes) : Option (Bytes × Bytes) :=
  let first := bs.take n
  if first.length = n then some (first, bs.drop n) else none

/-- The bytes that open the record of an entry in the directory. -/
def directoryMark : Bytes :=
  [0x50, 0x4B, 0x01, 0x02]

def entryMark : Bytes :=
  [0x50, 0x4B, 0x03, 0x04]

def endMark : Bytes :=
  [0x50, 0x4B, 0x05, 0x06]

/-- The bytes that open the wide record at the end of an archive. -/
def wideEndMark : Bytes :=
  [0x50, 0x4B, 0x06, 0x06]

def locatorMark : Bytes :=
  [0x50, 0x4B, 0x06, 0x07]

/-- The positions of a mark in bytes of which the first has a position, in front of those found
before; the last one comes first. -/
def marksFrom (mark : Bytes) : (position : Nat) → (found : List Nat) → Bytes → List Nat
  | _, found, [] => found
  | position, found, b :: bs =>
    let found := if mark.isPrefixOf (b :: bs) then position :: found else found
    marksFrom mark (position + 1) found bs

/-- The positions of a mark that lies between two positions, in order. -/
def marksBetween (mark : Bytes) (start stop : Nat) (bs : Bytes) : List Nat :=
  (marksFrom mark start [] ((bs.take stop).drop start)).reverse

end StubLinker.Archive
