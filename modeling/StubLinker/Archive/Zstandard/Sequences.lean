import StubLinker.Archive.CopyBack
import StubLinker.Archive.Zstandard.Literals

namespace StubLinker.Zstandard

/-- The least number of literals and the extra bits for each code. -/
def literalCodes : List (Nat × Nat) :=
  (List.range 16).map (·, 0) ++
    [(16, 1), (18, 1), (20, 1), (22, 1), (24, 2), (28, 2), (32, 3), (40, 3), (48, 4), (64, 6),
      (128, 7), (256, 8), (512, 9), (1024, 10), (2048, 11), (4096, 12), (8192, 13), (16384, 14),
      (32768, 15), (65536, 16)]

/-- The least length of a piece and the extra bits for each code. -/
def lengthCodes : List (Nat × Nat) :=
  ((List.range 32).map fun n => (n + 3, 0)) ++
    [(35, 1), (37, 1), (39, 1), (41, 1), (43, 2), (47, 2), (51, 3), (59, 3), (67, 4), (83, 4),
      (99, 5), (131, 7), (259, 8), (515, 9), (1027, 10), (2051, 11), (4099, 12), (8195, 13),
      (16387, 14), (32771, 15), (65539, 16)]

/-- The chances of codes for literals in a block that gives none. -/
def literalChances : List Int :=
  [4, 3, 2, 2, 2, 2, 2, 2, 2, 2, 2, 2, 2, 1, 1, 1, 2, 2, 2, 2, 2, 2, 2, 2, 2, 3, 2, 1, 1, 1, 1, 1,
    -1, -1, -1, -1]

/-- The chances of codes for distances in a block that gives none. -/
def distanceChances : List Int :=
  [1, 1, 1, 1, 1, 1, 2, 2, 2, 1, 1, 1, 1, 1, 1, 1, 1, 1, 1, 1, 1, 1, 1, 1, -1, -1, -1, -1, -1]

/-- The chances of codes for lengths in a block that gives none. -/
def lengthChances : List Int :=
  [1, 4, 3, 2, 2, 2, 2, 2, 2, 1, 1, 1, 1, 1, 1, 1, 1, 1, 1, 1, 1, 1, 1, 1, 1, 1, 1, 1, 1, 1, 1, 1,
    1, 1, 1, 1, 1, 1, 1, 1, 1, 1, 1, 1, 1, 1, -1, -1, -1, -1, -1, -1, -1]

/-- The tables for the codes of sequences. -/
structure Tables where
  literals : StateTable
  distances : StateTable
  lengths : StateTable

/-- What a block leaves for the next one: what was read, the codes of literals, the tables of
sequences and the last three distances. -/
structure Memory where
  out : Array UInt8 := #[]
  tree : Option Tree := none
  tables : Option Tables := none
  distances : Nat × Nat × Nat := (1, 4, 8)

/-- Reads one table of sequences for up to a number of codes: the known one, one of a single code,
one with its chances, or the last one. -/
def readCodes (data : Array UInt8) (start stop kind count most : Nat) (known : StateTable)
    (last : Option StateTable) : Option (StateTable × Nat) :=
  match kind with
  | 0 => some (known, start)
  | 1 =>
    let code := bytesAt data start 1
    if stop ≤ start || count ≤ code then none else some (.single code, start + 1)
  | 2 => readTable data start stop count most
  | _ => last.map (·, start)

/-- Reads the tables of sequences, each of the kind that two bits of a byte tell. -/
def readTables (data : Array UInt8) (start stop : Nat) (last : Option Tables) :
    Option (Tables × Nat) := do
  let kinds := bytesAt data start 1
  let (literals, position) ← readCodes data (start + 1) stop (kinds / 64) 36 9
    (.ofChances 6 literalChances) (last.map (·.literals))
  let (distances, position) ← readCodes data position stop (kinds / 16 % 4) 32 8
    (.ofChances 5 distanceChances) (last.map (·.distances))
  let (lengths, position) ← readCodes data position stop (kinds / 4 % 4) 53 9
    (.ofChances 6 lengthChances) (last.map (·.lengths))
  return (⟨literals, distances, lengths⟩, position)

/-- The distance that a number stands for, and the last three distances then. The first numbers
stand for one of them; without literals the first of them does not count. -/
def distanceOf (number : Nat) (noLiterals : Bool) (last : Nat × Nat × Nat) :
    Nat × (Nat × Nat × Nat) :=
  let (a, b, c) := last
  if 3 < number then (number - 3, (number - 3, a, b))
  else
    match number + noLiterals.toNat with
    | 1 => (a, last)
    | 2 => (b, (b, a, c))
    | 3 => (c, (c, a, b))
    | _ => (a - 1, (a - 1, a, b))

/-- Where reading sequences stands: the three states, the bits that are left, the literals that were
copied, and what was read. -/
structure Reading where
  states : Nat × Nat × Nat
  bits : BackBits
  copied : Nat := 0
  out : Array UInt8
  distances : Nat × Nat × Nat

/-- Reads a number of sequences into up to `limit` bytes; the states do not go on behind the last
one. -/
def readSequences (t : Tables) (literals : Array UInt8) (limit : Nat) :
    (count : Nat) → Reading → Except Fault Reading
  | 0, r => .ok r
  | n + 1, r => do
    let (literal, distance, lengthState) := r.states
    let literalCode := (t.literals.cell literal).symbol
    let distanceCode := (t.distances.cell distance).symbol
    let (leastCount, countBits) := literalCodes.getD literalCode (0, 0)
    let (leastLength, lengthBits) := lengthCodes.getD (t.lengths.cell lengthState).symbol (0, 0)
    let (extra, bits) := r.bits.read distanceCode
    let (moreLength, bits) := bits.read lengthBits
    let (moreCount, bits) := bits.read countBits
    let (back, distances) :=
      distanceOf (2 ^ distanceCode + extra) (literalCode = 0) r.distances
    let length := leastLength + moreLength
    let copied := r.copied + (leastCount + moreCount)
    if limit < r.out.size + (copied - r.copied) + length then throw .noRoom
    if literals.size < copied then throw .damaged
    let out := r.out ++ literals.extract r.copied copied
    if back = 0 || out.size < back then throw .damaged
    let out := copyBack out back length
    if n = 0 then return { r with bits, copied, out, distances }
    let (literal, bits) := t.literals.next literal bits
    let (lengthState, bits) := t.lengths.next lengthState bits
    let (distance, bits) := t.distances.next distance bits
    readSequences t literals limit n
      ⟨(literal, distance, lengthState), bits, copied, out, distances⟩

def readCount (data : Array UInt8) (start stop : Nat) : Option (Nat × Nat) :=
  let head := bytesAt data start 1
  let length := if head < 128 then 1 else if head < 255 then 2 else 3
  if stop < start + length then none
  else if head < 128 then some (head, start + length)
  else if head < 255 then some ((head - 128) * 256 + bytesAt data (start + 1) 1, start + length)
  else some (0x7F00 + bytesAt data (start + 1) 2, start + length)

/-- Reads a block of literals and sequences of up to `most` bytes where there is room for `room`
bytes. -/
def readBlock (data : Array UInt8) (start stop most room : Nat) (m : Memory) :
    Except Fault Memory := do
  if most < stop - start then throw .wrongSize
  let literals ← readLiterals data start stop most room m.tree
  let some (count, position) := readCount data literals.position stop | throw .wrongSize
  let m := { m with tree := literals.tree }
  if count = 0 then
    if position ≠ stop then throw .damaged
    return { m with out := m.out ++ literals.bytes }
  if stop ≤ position then throw .wrongSize
  if bytesAt data position 1 % 4 ≠ 0 then throw .damaged
  let some (t, position) := readTables data position stop m.tables | throw .damaged
  if room = 0 then throw .noRoom
  let some bits := BackBits.of? data position stop | throw .damaged
  let (literal, bits) := t.literals.start bits
  let (distance, bits) := t.distances.start bits
  let (length, bits) := t.lengths.start bits
  let limit := m.out.size + room
  let r ← readSequences t literals.bytes limit count
    ⟨(literal, distance, length), bits, 0, m.out, m.distances⟩
  if r.bits.left ≠ 0 then throw .damaged
  let out := r.out ++ literals.bytes.extract r.copied literals.bytes.size
  if limit < out.size then throw .noRoom
  return { m with tables := some t, distances := r.distances, out }

end StubLinker.Zstandard
