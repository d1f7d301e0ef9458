import StubLinker.Archive.Xz.Block

namespace StubLinker.Xz

def headMark : Bytes :=
  [0xFD, 0x37, 0x7A, 0x58, 0x5A, 0x00]

def footMark : Bytes :=
  [0x59, 0x5A]

def slice (data : Array UInt8) (start size : Nat) : Bytes :=
  (data.extract start (start + size)).toList

def isChecksumOf (data : Array UInt8) (position start size : Nat) : Bool :=
  bytesAt data position 4 = (crc32 (slice data start size)).toNat

def kindAt (data : Array UInt8) (position : Nat) : Except Fault Nat :=
  let marks := bytesAt data position 2
  if marks % 256 = 0 && marks / 256 < 16 then .ok (marks / 256) else .error .unknownOption

def readHead (data : Array UInt8) : Except Fault Nat := do
  if data.size < 12 then throw .cut
  if slice data 0 6 ≠ headMark then throw .otherFormat
  if !isChecksumOf data 8 6 2 then throw .damaged
  kindAt data 6

/-- The sums of sizes: of the blocks with their padding, of their contents, and of the index. -/
def sums (sizes : List BlockSize) : Nat × Nat × Nat :=
  let sum (f : BlockSize → Nat) := (sizes.map f).foldr (· + ·) 0
  (sum fun s => (s.packed + 3) / 4 * 4, sum (·.content),
    sum fun s => numberSize s.packed + numberSize s.content)

def areWithin (sizes others : List BlockSize) : Bool :=
  let (a, b, c) := sums sizes
  let (d, e, f) := sums others
  a ≤ d && b ≤ e && c ≤ f

/-- Reads a number of sizes, which together must not exceed those of the blocks. -/
def readSizes (data : Array UInt8) (blocks : List BlockSize) :
    (count position : Nat) → (sizes : List BlockSize) → Except Fault (List BlockSize × Nat)
  | 0, position, sizes => .ok (sizes, position)
  | count + 1, position, sizes => do
    let (packed, position) ← readNumber data data.size position
    if packed < 5 || 2 ^ 63 - 4 < packed then throw .damaged
    let (content, position) ← readNumber data data.size position
    let sizes := sizes ++ [⟨packed, content⟩]
    if !areWithin sizes blocks then throw .damaged
    readSizes data blocks count position sizes

/-- Reads the checksum at the end of the index, as far as it is there. -/
def readIndexChecksum (data : Array UInt8) (start position : Nat) : Except Fault Nat :=
  let there := min 4 (data.size - position)
  let expected := (crc32 (slice data start (position - start))).toNat
  if bytesAt data position there ≠ expected % 256 ^ there then .error .damaged
  else if there < 4 then .error .cut
  else .ok (position + 4)

def readIndex (data : Array UInt8) (start : Nat) (blocks : List BlockSize) : Except Fault Nat := do
  let (count, position) ← readNumber data data.size (start + 1)
  if count ≠ blocks.length then throw .damaged
  let (sizes, position) ← readSizes data blocks count position []
  let padding := (4 - (position - start) % 4) % 4
  if (data.extract position (position + padding)).any (· ≠ 0) then throw .damaged
  let position := position + padding
  if data.size ≤ position then throw .cut
  if sizes ≠ blocks then throw .damaged
  readIndexChecksum data start position

def readFoot (data : Array UInt8) (kind indexSize position : Nat) : Except Fault Unit := do
  if data.size < position + 12 then throw .cut
  if slice data (position + 10) 2 ≠ footMark then throw .damaged
  if !isChecksumOf data position (position + 4) 6 then throw .damaged
  let other ← kindAt data (position + 8)
  if 4 * (bytesAt data (position + 4) 4 + 1) ≠ indexSize || other ≠ kind then throw .damaged
  if position + 12 < data.size then throw .tooLong

/-- Reads blocks, and the index and the foot behind them. A block takes eight bytes at least, so
`fuel` need not exceed the number of bytes. -/
def readBlocks (data : Array UInt8) (kind : Nat) :
    (fuel position : Nat) → (blocks : List BlockSize) → Array UInt8 → Except Fault (Array UInt8)
  | 0, _, _, _ => .error .cut
  | fuel + 1, position, blocks, out => do
    if data.size ≤ position then throw .cut
    if bytesAt data position 1 = 0 then
      let behind ← readIndex data position blocks
      readFoot data kind (behind - position) behind
      return out
    let (content, size, behind) ← readBlock data kind position
    readBlocks data kind fuel behind (blocks ++ [size]) (out ++ content)

def unpack (data : Bytes) : Except Fault Bytes := do
  let data := data.toArray
  let kind ← readHead data
  return (← readBlocks data kind data.size 12 [] #[]).toList

end StubLinker.Xz
