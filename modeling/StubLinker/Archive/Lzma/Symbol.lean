import StubLinker.Archive.Lzma.Coder

namespace StubLinker.Lzma

/-- How many bits of the byte before, and of the position, tell bytes apart, and how many bits of
the position tell other symbols apart. -/
structure Shape where
  lastBits : Nat
  placeBits : Nat
  roundBits : Nat

def Shape.ofNumber (n : Nat) : Shape :=
  ⟨n % 9, n / 9 % 5, n / 45⟩

inductive Symbol where
  | byte (b : UInt8)
  | piece (distance length : Nat)
  | stop

def isPiece (phase round : Nat) : Nat :=
  16 * phase + round

/-- The kind of the bit that tells known distances from new ones. -/
def isKnown (phase : Nat) : Nat :=
  192 + phase

/-- The kinds of the bits that tell the last distance from those before it, the last but one from
those before it, and the third from the fourth. -/
def isBefore (depth phase : Nat) : Nat :=
  204 + 12 * depth + phase

/-- The kind of the bit that tells pieces at the last distance from those of one byte. -/
def isLong (phase round : Nat) : Nat :=
  240 + 16 * phase + round

/-- The first kind of bits for the slot of a distance, given the length of the piece. -/
def slots (length : Nat) : Nat :=
  432 + 64 * min (length - 2) 3

def shortDistances : Nat :=
  688

def longDistances : Nat :=
  816

/-- The first kind of bits for the lengths of pieces, at new and at known distances. -/
def lengths (isKnown : Bool) : Nat :=
  832 + 514 * isKnown.toNat

def bytes : Nat :=
  1860

def evenChances (s : Shape) : Array Nat :=
  Array.replicate (bytes + 768 * 2 ^ (s.lastBits + s.placeBits)) 1024

/-- What the symbols before the next one leave: the phase, which tells their kinds, and the last
four distances. -/
structure Past where
  shape : Shape
  phase : Nat := 0
  distances : Nat × Nat × Nat × Nat := (1, 1, 1, 1)

def length (first round : Nat) : Scan Nat := do
  if (← Coder.bit first) = 0 then return 2 + (← Coder.tree (first + 2 + 8 * round) 3)
  if (← Coder.bit (first + 1)) = 0 then return 10 + (← Coder.tree (first + 130 + 8 * round) 3)
  return 18 + (← Coder.tree (first + 258) 8)

/-- Reads the distance of a piece. Its slot gives the two highest bits and how many follow; of many
bits only the last four have chances of their own. -/
def distance (length : Nat) : Scan Nat := do
  let slot ← Coder.tree (slots length) 6
  if slot < 4 then return slot + 1
  let bits := slot / 2 - 1
  let least := (2 + slot % 2) * 2 ^ bits
  if slot < 14 then
    return 1 + least + (← Coder.reversedTree (shortDistances + least - slot) bits 1)
  let high ← Coder.evenBits (bits - 4) 0
  return 1 + least + 16 * high + (← Coder.reversedTree longDistances 4 1)

namespace Past

/-- Reads a byte behind some output, at a position. Behind a piece it is read beside the byte that
would go on with the piece. -/
def readByte (p : Past) (out : Array UInt8) (position : Nat) : Scan UInt8 := do
  let last := if position = 0 then 0 else (out.getD (out.size - 1) 0).toNat
  let context :=
    position % 2 ^ p.shape.placeBits * 2 ^ p.shape.lastBits + last / 2 ^ (8 - p.shape.lastBits)
  let first := bytes + 768 * context
  let b ←
    if p.phase < 7 then Coder.branch first 8 1
    else Coder.beside first (out.getD (out.size - p.distances.1) 0).toNat 8 1
  return b.toUInt8

/-- Reads which of the distances but the last one a piece has, and puts it first. -/
def readEarlier (p : Past) : Scan (Nat × Nat × Nat × Nat) := do
  let (a, b, c, d) := p.distances
  if (← Coder.bit (isBefore 1 p.phase)) = 0 then return (b, a, c, d)
  if (← Coder.bit (isBefore 2 p.phase)) = 0 then return (c, a, b, d)
  return (d, a, b, c)

def read (p : Past) (out : Array UInt8) (position : Nat) : Scan (Symbol × Past) := do
  let round := position % 2 ^ p.shape.roundBits
  let behind (byte piece : Nat) := if p.phase < 7 then byte else piece
  if (← Coder.bit (isPiece p.phase round)) = 0 then
    let phase := if p.phase < 4 then 0 else if p.phase < 10 then p.phase - 3 else p.phase - 6
    return (.byte (← p.readByte out position), { p with phase })
  if (← Coder.bit (isKnown p.phase)) = 0 then
    let length ← length (lengths false) round
    let distance ← distance length
    let (a, b, c, _) := p.distances
    let symbol := if distance = 2 ^ 32 then .stop else .piece distance length
    return (symbol, { p with phase := behind 7 10, distances := (distance, a, b, c) })
  if (← Coder.bit (isBefore 0 p.phase)) = 0 then
    if (← Coder.bit (isLong p.phase round)) = 0 then
      return (.piece p.distances.1 1, { p with phase := behind 9 11 })
    let length ← length (lengths true) round
    return (.piece p.distances.1 length, { p with phase := behind 8 11 })
  let distances ← p.readEarlier
  let length ← length (lengths true) round
  return (.piece distances.1 length, { p with phase := behind 8 11, distances })

end Past

end StubLinker.Lzma
