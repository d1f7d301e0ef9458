import StubLinker.Archive.Zstandard.States

namespace StubLinker.Zstandard

/-- A part of coded bytes that is read side by side with others: where it starts and ends, its bits
with those in front of them, and what was read. -/
structure Part where
  start : Nat
  stop : Nat
  bits : BackBits
  out : Array UInt8 := #[]

namespace Part

/-- A part that was not read yet, with the bits in front of it from `low` on. The highest bit of its
last byte marks the end; a byte of zeros has no mark. -/
def of (data : Array UInt8) (low start stop : Nat) : Part :=
  let last := bytesAt data (stop - 1) 1
  let left := 8 * (stop - 1 - low) + if last = 0 then 8 else Nat.log2 last
  { start, stop, bits := ⟨data, low, left⟩ }

def place (p : Part) : Nat :=
  p.bits.start + ((p.bits.left + 7) / 8).toNat

end Part

/-- Codes of up to some bits: for each number of so many bits, the byte that it starts with and the
bits of its code. -/
structure Tree where
  longest : Nat
  rows : Array (UInt8 × Nat)

namespace Tree

def ofWeights (longest : Nat) (weights : List Nat) : Tree :=
  let numbered := weights.zip (List.range weights.length)
  let rows := (List.range longest).flatMap fun i =>
    (numbered.filter fun p => p.1 = i + 1).flatMap fun p =>
      List.replicate (2 ^ i) (p.2.toUInt8, longest - i)
  ⟨longest, rows.toArray⟩

/-- The codes with some weights and a last one that fills the table. No code has more than twelve
bits, and there are some of the least weight. -/
def complete? (weights : List Nat) : Option Tree := do
  if weights.any (12 < ·) then none
  let total := (weights.map fun w => 2 ^ w / 2).foldr (· + ·) 0
  if total = 0 then none
  let longest := Nat.log2 total + 1
  if 12 < longest then none
  let rest := 2 ^ longest - total
  if 2 ^ Nat.log2 rest ≠ rest then none
  let weights := weights ++ [Nat.log2 rest + 1]
  if weights.count 1 < 2 || weights.count 1 % 2 = 1 then none
  return ofWeights longest weights

def read (t : Tree) : (count : Nat) → Array UInt8 → BackBits → Array UInt8 × BackBits
  | 0, out, b => (out, b)
  | n + 1, out, b =>
    let (byte, bits) := t.rows.getD (b.peek t.longest) (0, 1)
    t.read n (out.push byte) (b.skip bits)

def readAll (t : Tree) (data : Array UInt8) (start stop count : Nat) (out : Array UInt8) :
    Option (Array UInt8) := do
  let (out, b) := t.read count out (← BackBits.of? data start stop)
  if b.left = 0 then some out else none

def readPart (t : Tree) (count : Nat) (p : Part) : Part :=
  let (out, bits) := t.read count p.out p.bits
  { p with out, bits }

/-- Reads parts side by side, five bytes of each at a time, as long as the last one has so many
left, the first one is seven bytes behind the start of the data, and no part has overtaken the one
before it. Each round reads five bytes at least, so `fuel` need not exceed their number. -/
def readTogether (t : Tree) (last : Nat) : (fuel : Nat) → List Part → List Part
  | 0, parts => parts
  | fuel + 1, parts =>
    match parts with
    | [] => []
    | first :: _ =>
      let rounds := min ((last - first.out.size) / 5) ((first.place - 8 - first.bits.start) / 7)
      let places := parts.map (·.place)
      let isInOrder := (places.zip (places.drop 1)).all fun (a, b) => a ≤ b
      if rounds = 0 || !isInOrder then parts
      else readTogether t last fuel (parts.map (t.readPart (5 * rounds)))

/-- Reads four parts side by side, and what is left then one after the other. It is enough that the
parts last as long as they are read side by side. -/
def readFast (t : Tree) (data : Array UInt8) (low part last : Nat) (bounds : List (Nat × Nat)) :
    Option (Array UInt8) := do
  let parts := t.readTogether last last (bounds.map fun (start, stop) => .of data low start stop)
  if parts.any fun p => p.stop - p.start < p.stop - p.place then none
  let counts := [part, part, part, last]
  return (parts.zip counts).foldl
    (fun out (p, n) => out ++ (t.readPart (n - p.out.size) p).out) #[]

/-- Reads bytes that are in four parts, of which the first three tell their sizes. If none is short
and no code is long, they are read side by side. -/
def readFour (t : Tree) (data : Array UInt8) (start stop count : Nat) : Option (Array UInt8) := do
  if stop < start + 10 then none
  let first := start + 6 + bytesAt data start 2
  let second := first + bytesAt data (start + 2) 2
  let third := second + bytesAt data (start + 4) 2
  let part := (count + 3) / 4
  if stop < third || count < 3 * part then none
  let last := count - 3 * part
  let bounds := [(start + 6, first), (first, second), (second, third), (third, stop)]
  if t.longest ≤ 11 && 0 < last && bounds.all fun (a, b) => a + 8 ≤ b then
    t.readFast data start part last bounds
  else
    let out ← t.readAll data (start + 6) first part #[]
    let out ← t.readAll data first second part out
    let out ← t.readAll data second third part out
    t.readAll data third stop last out

end Tree

/-- Reads weights by two states that take turns, until the bits have run out. There are 255 at most,
so `fuel` need not exceed them. -/
def readTurns (t : StateTable) : (fuel : Nat) → (state other : Nat) → (back : List Nat) → BackBits →
    Option (List Nat)
  | 0, _, _, _, _ => none
  | fuel + 1, state, other, back, b =>
    if 254 ≤ back.length then none
    else
      let back := (t.cell state).symbol :: back
      let (next, b) := t.next state b
      if b.left < 0 then some ((t.cell other).symbol :: back).reverse
      else readTurns t fuel other next back b

def readWeights (data : Array UInt8) (start stop : Nat) : Option (List Nat × Nat) := do
  if stop ≤ start then none
  let head := bytesAt data start 1
  if 128 ≤ head then
    let count := head - 127
    let behind := start + 1 + (count + 1) / 2
    if stop < behind then none
    let weights := (List.range count).map fun i =>
      let pair := bytesAt data (start + 1 + i / 2) 1
      if i % 2 = 0 then pair / 16 else pair % 16
    return (weights, behind)
  else
    let behind := start + 1 + head
    if stop < behind then none
    let (t, position) ← readTable data (start + 1) behind 256 6
    let b ← BackBits.of? data position behind
    let (first, b) := t.start b
    let (second, b) := t.start b
    if b.left < 0 then none
    return (← readTurns t 256 first second [] b, behind)

/-- The literals of a block, the tree that was read last and the position behind them. -/
structure Literals where
  bytes : Array UInt8
  tree : Option Tree
  position : Nat

/-- The sizes in the head of literals: of those that are stored, and the bytes of the head. -/
def plainSize (data : Array UInt8) (start : Nat) : Nat × Nat :=
  match bytesAt data start 1 / 4 % 4 with
  | 1 => (bytesAt data start 2 / 16, 2)
  | 3 => (bytesAt data start 3 / 16, 3)
  | _ => (bytesAt data start 1 / 8, 1)

/-- Reads literals by codes; the codes are those read last, or come first. -/
def readCoded (data : Array UInt8) (start stop most room : Nat) (tree : Option Tree)
    (isNew : Bool) : Except Fault Literals := do
  if !isNew && tree.isNone then throw .noTree
  if stop < start + 5 then throw .damaged
  let form := bytesAt data start 1 / 4 % 4
  let head := bytesAt data start 5 / 16
  let (width, length) := if form < 2 then (10, 3) else if form = 2 then (14, 4) else (18, 5)
  let size := head % 2 ^ width
  let packed := head / 2 ^ width % 2 ^ width
  if most < size then throw .damaged
  if form ≠ 0 && size < 6 then throw .fewLiterals
  let codes := start + length
  let behind := codes + packed
  if stop < behind then throw .damaged
  if room < size then throw .noRoom
  let fresh := do
    let (weights, position) ← readWeights data codes behind
    return (← Tree.complete? weights, position)
  let some (t, position) := if isNew then fresh else tree.map fun t => (t, codes) | throw .damaged
  let read :=
    if form = 0 then t.readAll data position behind size #[]
    else t.readFour data position behind size
  let some bytes := read | throw .damaged
  return ⟨bytes, some t, behind⟩

/-- Reads the literals of a block, of which there are up to `most`, where there is room for `room`
bytes. -/
def readLiterals (data : Array UInt8) (start stop most room : Nat) (tree : Option Tree) :
    Except Fault Literals := do
  if stop < start + 2 then throw .damaged
  let kind := bytesAt data start 1 % 4
  if 2 ≤ kind then return ← readCoded data start stop most room tree (kind = 2)
  let (size, length) := plainSize data start
  let behind := start + length + if kind = 0 then size else 1
  if stop < start + length + kind || most < size then throw .damaged
  if room < size then throw .noRoom
  if stop < behind then throw .damaged
  let bytes :=
    if kind = 0 then data.extract (start + length) behind
    else Array.replicate size (data.getD (start + length) 0)
  return ⟨bytes, tree, behind⟩

end StubLinker.Zstandard
