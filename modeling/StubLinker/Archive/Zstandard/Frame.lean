import StubLinker.Archive.Zstandard.Checksum
import StubLinker.Archive.Zstandard.Sequences
import StubLinker.Bytes

namespace StubLinker.Zstandard

/-- The head of a frame: how far back pieces may lie, how many bytes it stands for, and whether it
ends with a checksum. -/
structure Head where
  window : Nat
  size : Option Nat
  hasChecksum : Bool

/-- The number of bytes in which the head of a frame has its size. -/
def sizeWidth (isSingle : Bool) (kind : Nat) : Nat :=
  if kind = 0 then isSingle.toNat else 2 ^ kind

def readHead (data : Array UInt8) (start : Nat) : Except Fault (Head × Nat) := do
  if data.size ≤ start then throw .cut
  let marks := bytesAt data start 1
  let isSingle := marks.testBit 5
  let nameWidth := [0, 1, 2, 4].getD (marks % 4) 0
  let width := sizeWidth isSingle (marks / 64)
  let name := start + 1 + (!isSingle).toNat
  let behind := name + nameWidth + width
  if data.size < behind then throw .cut
  if marks.testBit 3 then throw .unknownHeader
  let shape := bytesAt data (start + 1) 1
  if !isSingle && 21 < shape / 8 then throw .tooMuchMemory
  let size := bytesAt data (name + nameWidth) width + if width = 2 then 256 else 0
  let size := if width = 0 then none else some size
  let room := 2 ^ (shape / 8 + 10)
  let window := if isSingle then size.getD 0 else room + room / 8 * (shape % 8)
  if bytesAt data name nameWidth ≠ 0 then throw .otherDictionary
  return (⟨window, size, marks.testBit 2⟩, behind)

namespace Head

def most (h : Head) : Nat :=
  min h.window (2 ^ 17)

/-- The bytes that go round while the blocks of a frame are read one after the other. -/
def ring (h : Head) : Nat :=
  let enough := max h.window 1024 + 2 * h.most + 64
  (h.size.getD enough).min enough

/-- The place of a block in the ring, given the end of the block before it. -/
def place (h : Head) (position : Nat) : Nat :=
  if h.size.all (h.ring < ·) && h.ring < position + h.most then 0 else position

/-- Whether a frame does not stand for as many bytes as it says. -/
def isOtherSize (h : Head) (m : Memory) : Bool :=
  h.size.any (· ≠ m.out.size)

end Head

/-- The head of a block: whether it is the last one, whether it is stored, one byte many times or
compressed, the size it gives, and where it starts and ends. -/
structure BlockHead where
  isLast : Bool
  kind : Nat
  size : Nat
  start : Nat
  stop : Nat

def readBlockHead (data : Array UInt8) (start : Nat) : BlockHead :=
  let head := bytesAt data start 3
  let kind := head / 2 % 4
  let packed := if kind = 1 then 1 else head / 8
  ⟨head % 2 = 1, kind, head / 8, start + 3, start + 3 + packed⟩

/-- Reads a block of up to `most` bytes where there is room for `room` bytes. -/
def BlockHead.read (b : BlockHead) (data : Array UInt8) (most room : Nat) (m : Memory) :
    Except Fault Memory := do
  if b.kind = 3 then throw .damaged
  if b.kind = 2 then return ← readBlock data b.start b.stop most room m
  if room < b.size then throw .noRoom
  let bytes :=
    if b.kind = 0 then data.extract b.start b.stop
    else Array.replicate b.size (data.getD b.start 0)
  return { m with out := m.out ++ bytes }

/-- The position behind the blocks of a frame if they are all there. Each takes three bytes at
least, so `fuel` need not exceed the number of bytes. -/
def endOfBlocks (data : Array UInt8) : (fuel start : Nat) → Option Nat
  | 0, _ => none
  | fuel + 1, start =>
    let b := readBlockHead data start
    if data.size < b.stop || b.kind = 3 then none
    else if b.isLast then some b.stop
    else endOfBlocks data fuel b.stop

def smallSize : Nat :=
  32

def readSmall (data : Array UInt8) (h : Head) :
    (fuel start : Nat) → Memory → Except Fault (Memory × Nat)
  | 0, _, _ => .error .cut
  | fuel + 1, start, m => do
    let b := readBlockHead data start
    let m ← b.read data h.most (smallSize - m.out.size) m
    if !b.isLast then readSmall data h fuel b.stop m
    else if h.isOtherSize m then throw .damaged
    else return (m, b.stop)

/-- Reads the blocks of a frame one after the other, from a place in the ring on. An empty block is
not looked at, and a frame that ends with one may have another size than it says. -/
def readBlocks (data : Array UInt8) (h : Head) :
    (fuel start place : Nat) → Memory → Except Fault (Memory × Nat)
  | 0, _, _, _ => .error .cut
  | fuel + 1, start, place, m => do
    if data.size < start + 3 then throw .cut
    let b := readBlockHead data start
    if b.kind = 3 || h.most < b.stop - b.start then throw .damaged
    if b.stop = b.start then
      if b.isLast then return (m, b.stop) else return ← readBlocks data h fuel b.stop place m
    let room := h.ring - place
    if b.kind = 0 && room < min b.size (data.size - b.start) then throw .noRoom
    if data.size < b.stop then throw .cut
    let next ← b.read data h.most room m
    let size := next.out.size - m.out.size
    if h.most < size then throw .damaged
    if !b.isLast then readBlocks data h fuel b.stop (h.place (place + size)) next
    else if h.isOtherSize next then throw .damaged
    else return (next, b.stop)

/-- Whether a frame is read in one go: it is small and is there as a whole. -/
def isSmall (data : Array UInt8) (h : Head) (start : Nat) : Bool :=
  h.size.any (· ≤ smallSize) &&
    (endOfBlocks data data.size start).any (· + 4 * h.hasChecksum.toNat ≤ data.size)

def readFrame (data : Array UInt8) (start : Nat) : Except Fault (Array UInt8 × Nat) := do
  let (head, position) ← readHead data start
  let isSmall := isSmall data head position
  if !isSmall && 2 ^ 27 + 1 < head.window then throw .tooMuchMemory
  let (m, position) ←
    if isSmall then readSmall data head data.size position {}
    else readBlocks data head data.size position 0 {}
  if !head.hasChecksum then return (m.out, position)
  if data.size < position + 4 then throw .cut
  if bytesAt data position 4 ≠ (checksum m.out).toNat % 2 ^ 32 then throw .wrongChecksum
  return (m.out, position + 4)

def mark : Nat :=
  0xFD2FB528

/-- The lowest of the sixteen marks of frames that are skipped. -/
def skipMark : Nat :=
  0x184D2A50

def isFrame (data : Array UInt8) (start : Nat) : Bool :=
  let there := min 4 (data.size - start)
  bytesAt data start there = mark % 256 ^ there

/-- Whether what is there of a mark is that of a frame that is skipped. -/
def isSkipped (data : Array UInt8) (start : Nat) : Bool :=
  let there := min 4 (data.size - start)
  bytesAt data start there / 16 = skipMark % 256 ^ there / 16

/-- Reads frames. Each takes four bytes at least, so `fuel` need not exceed the number of bytes. -/
def readFrames (data : Array UInt8) :
    (fuel start : Nat) → Array UInt8 → Except Fault (Array UInt8)
  | 0, _, out => .ok out
  | fuel + 1, start, out => do
    if data.size ≤ start then throw .cut
    let behind ←
      if isFrame data start then
        if data.size < start + 5 then throw .cut
        let (content, behind) ← readFrame data (start + 4)
        pure (out ++ content, behind)
      else if isSkipped data start then
        let behind := start + 8 + bytesAt data (start + 4) 4
        if data.size < start + 8 || data.size < behind then throw .cut
        pure (out, behind)
      else throw .unknownMark
    if behind.2 = data.size then return behind.1
    readFrames data fuel behind.2 behind.1

def unpack (data : Bytes) : Except Fault Bytes :=
  (readFrames data.toArray (data.length + 1) 0 #[]).map Array.toList

end StubLinker.Zstandard
