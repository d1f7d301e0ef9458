import StubLinker.Archive.BitField
import StubLinker.Archive.Inflate

namespace StubLinker.InflateFar

/-- A table of codes. A row for each value of the next `width` bits holds a symbol, or a negative
number `-n` that leads to the `n`-th fork behind the rows. A fork takes two cells, for a bit that is
zero and for one that is set. A cell that was never filled holds the first symbol. -/
structure Table where
  width : Nat
  lengths : Array Nat
  cells : Array Int

namespace Table

def reversed (n : Nat) : (bits : Nat) → Nat
  | 0 => 0
  | bits + 1 => n % 2 * 2 ^ bits + reversed (n / 2) bits

def fork (t : Table) (n : Nat) (bit : Bool) : Nat :=
  2 ^ t.width + 2 * (n - 1) + bit.toNat

def putShort (t : Table) (symbol code length : Nat) : Table :=
  let rows := (List.range (2 ^ (t.width - length))).map fun i => code + i * 2 ^ length
  { t with cells := rows.foldl (fun cells row => cells.setIfInBounds row symbol) t.cells }

/-- Puts a symbol at the end of a code, `left` bits behind a cell and `depth` bits behind its start.
A cell that does not hold another symbol becomes a fork. -/
def putLong (t : Table) (symbol code : Nat) : (left depth cell : Nat) → Option Table
  | 0, _, cell => some { t with cells := t.cells.setIfInBounds cell symbol }
  | left + 1, depth, cell =>
    let held := t.cells.getD cell 0
    if 0 < held then none
    else if held = 0 then
      let n := (t.cells.size - 2 ^ t.width) / 2 + 1
      let cells := ((t.cells.setIfInBounds cell (-(n : Int))).push 0).push 0
      putLong { t with cells } symbol code left (depth + 1) (t.fork n (code.testBit depth))
    else putLong t symbol code left (depth + 1) (t.fork held.natAbs (code.testBit depth))

def put (t : Table) (symbol code length : Nat) : Option Table :=
  let code := reversed code length
  if length ≤ t.width then some (t.putShort symbol code length)
  else t.putLong symbol code (length - t.width) t.width (code % 2 ^ t.width)

/-- The first code of each length up to fifteen, given how many codes of each length there are. -/
def firstCodes (counts : Nat → Nat) : Nat → Nat
  | 0 => 0
  | n + 1 => 2 * (firstCodes counts n + if n = 0 then 0 else counts n)

def ofLengths (width : Nat) (lengths : List Nat) : Option Table := do
  let counts := (List.range 16).map fun n => lengths.count n
  let first := (List.range 16).map fun n => firstCodes (fun k => counts.getD k 0) n
  let start : Table := ⟨width, lengths.toArray, Array.replicate (2 ^ width) 0⟩
  let (t, _) ← (lengths.zip (List.range lengths.length)).foldlM
    (fun ((t, next) : Table × Array Nat) ((length, symbol) : Nat × Nat) =>
      if length = 0 then some (t, next)
      else (t.put symbol (next.getD length 0) length).map fun t => (t, next.modify length (· + 1)))
    (start, first.toArray)
  return t

def follow (t : Table) (bits : Nat) : (left depth cell : Nat) → Nat
  | 0, _, _ => 0
  | left + 1, depth, cell =>
    let held := t.cells.getD cell 0
    if held < 0 then follow t bits left (depth + 1) (t.fork held.natAbs (bits.testBit depth))
    else held.natAbs

/-- The symbol that the bits of a number start with, the lowest one first. -/
def symbolAt (t : Table) (bits : Nat) : Nat :=
  t.follow bits 17 t.width (bits % 2 ^ t.width)

end Table

inductive Stop where
  | cut
  | damaged

/-- The position of the next bit, and what was read so far. -/
structure State where
  position : Nat := 0
  out : Array UInt8 := #[]

abbrev Scan := ReaderT (Array UInt8) (ExceptT Stop (StateM State))

def left : Scan Nat := do
  return 8 * (← read).size - (← get).position

def skip (bits : Nat) : Scan Unit :=
  modify fun s => { s with position := s.position + bits }

def emit (f : Array UInt8 → Array UInt8) : Scan Unit :=
  modify fun s => { s with out := f s.out }

def number (bits : Nat) : Scan Nat := do
  if (← left) < bits then throw .cut
  let n := bitsAt (← read) (← get).position bits
  skip bits
  return n

def symbol (t : Table) : Scan Nat := do
  let available ← left
  if available = 0 then throw .cut
  let s := t.symbolAt (bitsAt (← read) (← get).position 16)
  let length := t.lengths.getD s 0
  if length = 0 then throw .damaged
  if available < length then throw .cut
  skip length
  return s

def makeTable (width : Nat) (lengths : List Nat) : Scan Table :=
  match Table.ofLengths width lengths with
  | some t => pure t
  | none => throw .damaged

/-- Reads the number that a code stands for together with its extra bits. -/
def extended (codes : List (Nat × Nat)) (code : Nat) : Scan Nat :=
  match codes[code]? with
  | some (least, bits) => return least + (← number bits)
  | none => throw .damaged

/-- Reads the code of a distance; without a table it has five bits. -/
def distanceCode : Option Table → Scan Nat
  | some t => symbol t
  | none => return Table.reversed (← number 5) 5

/-- Reads the codes of a block. Each takes a bit at least, so `fuel` need not exceed the number of
bits. -/
def coded (literals : Table) (distances : Option Table) : (fuel : Nat) → Scan Unit
  | 0 => throw .damaged
  | fuel + 1 => do
    let s ← symbol literals
    if s < 256 then
      emit (·.push s.toUInt8)
      coded literals distances fuel
    else if 256 < s then
      let length ← extended (Inflate.lengthCodes ++ [(3, 16)]) (s - 257)
      let distance ←
        extended (Inflate.distanceCodes ++ [(32769, 14), (49153, 14)]) (← distanceCode distances)
      emit (copyBack · distance length)
      coded literals distances fuel

/-- Reads bytes that are stored as they are, as many as there are. -/
def bytes : Nat → Scan Unit
  | 0 => pure ()
  | n + 1 => do
    let b ← number 8
    emit (·.push b.toUInt8)
    bytes n

def stored : Scan Unit := do
  skip ((← left) % 8)
  let length ← number 16
  if length + (← number 16) ≠ 65535 then throw .damaged
  bytes length

/-- Reads lengths of codes until there are enough; `back` holds those read, the last one first. Each
takes a bit at least, so `fuel` need not exceed the number of lengths. -/
def lengths (t : Table) (count : Nat) : (fuel : Nat) → (back : List Nat) → Scan (List Nat)
  | 0, back => pure back.reverse
  | fuel + 1, back => do
    if count ≤ back.length then return back.reverse
    let s ← symbol t
    let (repeated, times) ←
      if s < 16 then pure (s, 1)
      else if s = 16 then
        match back with
        | [] => throw .damaged
        | last :: _ => pure (last, 3 + (← number 2))
      else if s = 17 then pure (0, 3 + (← number 3))
      else pure (0, 11 + (← number 7))
    if count < back.length + times then throw .damaged
    lengths t count fuel (List.replicate times repeated ++ back)

def triples : Nat → Scan (List Nat)
  | 0 => pure []
  | n + 1 => return (← number 3) :: (← triples n)

/-- Reads the tables of a block that has its own. There has to be a code for the end of the
block. -/
def tables : Scan (Table × Table) := do
  let literals := 257 + (← number 5)
  let distances := 1 + (← number 5)
  let given := 4 + (← number 4)
  let listed := Inflate.lengthOrder.zip (← triples given)
  let t ← makeTable 7 ((List.range 19).map fun s => (listed.lookup s).getD 0)
  let all ← lengths t (literals + distances) (literals + distances) []
  let literalLengths := all.take literals ++ List.replicate (288 - literals) 0
  if literalLengths.getD 256 0 = 0 then throw .damaged
  let literalTable ← makeTable 9 literalLengths
  let distanceTable ← makeTable 7 (all.drop literals ++ List.replicate (32 - distances) 0)
  return (literalTable, distanceTable)

/-- Reads blocks up to the last one. A block takes a bit at least, so `fuel` need not exceed the
number of bits. -/
def blocks : (fuel : Nat) → Scan Unit
  | 0 => throw .damaged
  | fuel + 1 => do
    let last ← number 1
    let kind ← number 2
    if kind = 0 then stored
    else if kind = 1 then
      coded (← makeTable 9 Inflate.fixedLengths) none (fuel + 1)
    else if kind = 2 then
      let (literals, distances) ← tables
      coded literals (some distances) (fuel + 1)
    else throw .damaged
    if last = 0 then blocks fuel

end StubLinker.InflateFar

namespace StubLinker

/-- The bytes that compressed data of the far variant stands for. -/
def inflateFar (data : Bytes) : Except ArchiveError Bytes :=
  match (InflateFar.blocks (8 * data.length + 1)).run data.toArray |>.run |>.run {} with
  | (.error .damaged, _) => .error .badFarData
  | (_, s) => .ok s.out.toList

end StubLinker
