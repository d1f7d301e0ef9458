import StubLinker.Archive.BlockMask
import StubLinker.Archive.Codes
import StubLinker.Archive.Error
import StubLinker.Bytes

namespace StubLinker.BlockSort

abbrev Scan := StateT (List Bool) (Except ArchiveError)

def bitsOf (b : UInt8) : List Bool :=
  ((List.range 8).map fun i => b.toNat.testBit i).reverse

def bit : Scan Bool
  | [] => .error .cutSorted
  | b :: rest => .ok (b, rest)

def number (bits : Nat) : Scan Nat :=
  (List.range bits).foldlM (fun n _ => return 2 * n + (← bit).toNat) 0

def expect (fault : ArchiveError) : List Nat → Scan Unit
  | [] => pure ()
  | b :: bs => do
    if (← number 8) ≠ b then throw fault
    expect fault bs

/-- Reads a bit for each number below a count, and gives those that are marked. -/
def marked (count : Nat) : Scan (List Nat) :=
  (List.range count).filterM fun _ => bit

def bytesInUse : Scan (List UInt8) := do
  let groups ← marked 16
  let bytes ← groups.mapM fun g => return (← marked 16).map fun i => (16 * g + i).toUInt8
  return bytes.flatten

/-- Reads how many bits are set up to one that is not; there are fewer than a limit. -/
def ones : (limit : Nat) → Scan Nat
  | 0 => throw .badSorted
  | limit + 1 => do
    if ← bit then return (← ones limit) + 1 else return 0

/-- What stands at a place in a list, and the list with it moved to the front. -/
def toFront {α : Type} (place : Nat) (xs : List α) : Except ArchiveError (α × List α) :=
  match xs[place]? with
  | some x => .ok (x, x :: xs.eraseIdx place)
  | none => .error .badSorted

/-- Reads which table is used for each group of symbols, from the first group on. -/
def selectors : (count : Nat) → (tables : List Nat) → Scan (List Nat)
  | 0, _ => pure []
  | count + 1, tables => do
    let (table, tables') ← toFront (← ones tables.length) tables
    return table :: (← selectors count tables')

/-- Reads the length of a code by its steps from the one before. Each step takes a bit at least, so
`fuel` need not exceed the number of bits. -/
def nextLength : (fuel : Nat) → (length : Nat) → Scan Nat
  | 0, _ => throw .badSorted
  | fuel + 1, length => do
    if length < 1 || 20 < length then throw .badSorted
    if ← bit then
      if ← bit then nextLength fuel (length - 1) else nextLength fuel (length + 1)
    else return length

/-- Reads the lengths of a number of codes, given the length before them. -/
def lengths (fuel : Nat) : (count : Nat) → (length : Nat) → Scan (List Nat)
  | 0, _ => pure []
  | count + 1, length => do
    let length ← nextLength fuel length
    return length :: (← lengths fuel count length)

/-- Reads a table of a number of codes. That there is no code shows behind the longest possible
one. -/
def table (fuel count : Nat) : Scan Codes := do
  return .ofLengths 21 (← lengths fuel count (← number 5))

/-- The tables of a block, and which is used for each group of fifty symbols. -/
structure Tables where
  selectors : Array Nat
  codes : Array Codes

def Tables.symbol (t : Tables) (n : Nat) : Scan Nat := do
  let some codes := (t.selectors[n / 50]?).bind (t.codes[·]?) | throw .badSorted
  let some s ← codes.read bit | throw .badSorted
  return s

/-- Reads the last column of a block behind a number of symbols, up to a symbol that ends it. The
first two symbols are the digits of how often the byte seen last comes again; `run` is that number
so far and `weight` the weight of the next digit. Each symbol takes a bit at least, so `fuel` need
not exceed the number of bits. -/
def column (t : Tables) (stop limit : Nat) : (fuel n : Nat) → (seen : List UInt8) →
    (run weight : Nat) → Array UInt8 → Scan (Array UInt8)
  | 0, _, _, _, _, _ => throw .badSorted
  | fuel + 1, n, seen, run, weight, out => do
    let s ← t.symbol n
    if s < 2 then
      if 2 ^ 21 ≤ weight then throw .badSorted
      column t stop limit fuel (n + 1) seen (run + weight * (s + 1)) (2 * weight) out
    else
      if limit < out.size + run then throw .badSorted
      let out := out ++ Array.replicate run (seen.headD 0)
      if s = stop then return out
      if out.size = limit then throw .badSorted
      let (b, seen) ← toFront (s - 1) seen
      column t stop limit fuel (n + 1) seen 0 1 (out.push b)

/-- Where the rotations start that begin with each byte, in the order of the bytes. -/
def rotationStarts (column : Array UInt8) : Array Nat :=
  let counts := column.foldl (fun c b => c.modify b.toNat (· + 1)) (Array.replicate 256 0)
  (counts.foldl (fun (p : Array Nat × Nat) n => (p.1.push p.2, p.2 + n)) (#[], 0)).1

def rotationsAfter (column : Array UInt8) : Array Nat :=
  let step (p : Array Nat × Array Nat) (i : Nat) : Array Nat × Array Nat :=
    let b := (column.getD i 0).toNat
    (p.1.modify b (· + 1), p.2.setIfInBounds (p.1.getD b 0) i)
  ((List.range column.size).foldl step (rotationStarts column, Array.replicate column.size 0)).2

/-- The bytes of a text from a rotation on, behind those in `out`. -/
def follow (column : Array UInt8) (after : Array Nat) (out : Array UInt8) :
    (count row : Nat) → Array UInt8
  | 0, _ => out
  | count + 1, row =>
    let row := after.getD row 0
    follow column after (out.push (column.getD row 0)) count row

/-- The text of which the rotations have a last column, given which of them starts it. -/
def unsort (column : Array UInt8) (origin : Nat) : Array UInt8 :=
  follow column (rotationsAfter column) #[] column.size origin

/-- The bytes with runs at their full length: behind four equal bytes stands how many more there
are. `equal` of the bytes before are equal to `last`. -/
def lengthen (out : Array UInt8) (last : UInt8) (equal : Nat) :
    Bytes → Except ArchiveError (Array UInt8)
  | [] => if equal = 4 then .error .badSorted else .ok out
  | b :: bs =>
    if equal = 4 then lengthen (out ++ Array.replicate b.toNat last) 0 0 bs
    else lengthen (out.push b) b (if 0 < equal && b == last then equal + 1 else 1) bs

def checkBit (c : UInt32) : UInt32 :=
  if c &&& 0x80000000 ≠ 0 then (c <<< 1) ^^^ 0x04C11DB7 else c <<< 1

def checkByte (c : UInt32) (b : UInt8) : UInt32 :=
  (List.range 8).foldl (fun c _ => checkBit c) (c ^^^ (b.toUInt32 <<< 24))

def checksum (bs : Array UInt8) : UInt32 :=
  ~~~ bs.foldl checkByte 0xFFFFFFFF

/-- Reads a block of a limited size behind its mark, and gives its checksum too. -/
def block (fuel limit : Nat) : Scan (Array UInt8 × UInt32) := do
  let expected := (← number 32).toUInt32
  let isMasked ← bit
  let origin ← number 24
  if limit + 10 < origin then throw .badSorted
  let bytes ← bytesInUse
  if bytes.isEmpty then throw .badSorted
  let count ← number 3
  if count < 2 || 6 < count then throw .badSorted
  let groups ← number 15
  if groups = 0 then throw .badSorted
  let selected ← selectors groups (List.range count)
  let codes ← (List.range count).mapM fun _ => table fuel (bytes.length + 2)
  let sorted ← column ⟨selected.toArray, codes.toArray⟩ (bytes.length + 1) limit fuel 0 bytes 0 1 #[]
  if sorted.size ≤ origin then throw .badSorted
  let bytes := unsort sorted origin
  let text ← lengthen #[] 0 0 (if isMasked then unmask #[] 0 [] bytes.toList else bytes).toList
  if checksum text ≠ expected then throw .badSorted
  return (text, expected)

/-- Reads blocks up to the mark of the end; `total` is made of the checksums of those before. A
block takes a bit at least, so `fuel` need not exceed the number of bits. -/
def blocks (bits limit : Nat) : (fuel : Nat) → (total : UInt32) → Array UInt8 → Scan (Array UInt8)
  | 0, _, _ => throw .badSorted
  | fuel + 1, total, out => do
    let mark ← number 8
    if mark = 0x31 then
      expect .badSorted [0x41, 0x59, 0x26, 0x53, 0x59]
      let (text, sum) ← block bits limit
      blocks bits limit fuel (((total <<< 1) ||| (total >>> 31)) ^^^ sum) (out ++ text)
    else if mark = 0x17 then
      expect .badSorted [0x72, 0x45, 0x38, 0x50, 0x90]
      if (← number 32).toUInt32 ≠ total then throw .badSorted
      return out
    else throw .badSorted

/-- Reads the mark of the start, with the size of the blocks in it, and all blocks. -/
def all (bits : Nat) : Scan (Array UInt8) := do
  expect .notSorted [0x42, 0x5A, 0x68]
  let level ← number 8
  if level < 0x31 || 0x39 < level then throw .notSorted
  blocks bits (100000 * (level - 0x30)) (bits + 1) 0 #[]

end StubLinker.BlockSort

namespace StubLinker

/-- The bytes that data stands for that is compressed by sorting. -/
def unsortAll (data : Bytes) : Except ArchiveError Bytes :=
  let bits := data.flatMap BlockSort.bitsOf
  ((BlockSort.all bits.length).run bits).map fun p => p.1.toList

end StubLinker
