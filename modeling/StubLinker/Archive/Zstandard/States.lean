import StubLinker.Archive.BitField
import StubLinker.Archive.Zstandard.Fault

namespace StubLinker.Zstandard

/-- Bytes that are read as bits from the end back: where they start and how many bits are left;
fewer than none if more were read than there are. -/
structure BackBits where
  data : Array UInt8
  start : Nat
  left : Int

namespace BackBits

/-- The bits in front of the highest one of the last byte, which only marks the end. -/
def of? (data : Array UInt8) (start stop : Nat) : Option BackBits :=
  let last := (data.getD (stop - 1) 0).toNat
  if stop ≤ start || last = 0 then none
  else some ⟨data, start, (8 * (stop - 1 - start) + Nat.log2 last : Nat)⟩

/-- The number that the last bits form; behind the first one there are zeros. -/
def peek (b : BackBits) (bits : Nat) : Nat :=
  let there := b.left.toNat
  if bits ≤ there then bitsAt b.data (8 * b.start + (there - bits)) bits
  else bitsAt b.data (8 * b.start) there * 2 ^ (bits - there)

def skip (b : BackBits) (bits : Nat) : BackBits :=
  { b with left := b.left - bits }

def read (b : BackBits) (bits : Nat) : Nat × BackBits :=
  (b.peek bits, b.skip bits)

end BackBits

/-- A state: its symbol, and the bits that lead from a first state to the next one. -/
structure Cell where
  symbol : Nat := 0
  bits : Nat := 0
  first : Nat := 0
  deriving Inhabited

/-- A table of states, as many as some bits can tell apart. -/
structure StateTable where
  log : Nat
  cells : Array Cell

namespace StateTable

def single (symbol : Nat) : StateTable :=
  ⟨0, #[{ symbol }]⟩

/-- The place behind a place, in steps that come to all places of a table; the places from `stop` on
are taken. -/
def nextPlace (size stop : Nat) : (fuel place : Nat) → Nat
  | 0, place => place
  | fuel + 1, place =>
    let next := (place + size / 2 + size / 8 + 3) % size
    if stop ≤ next then nextPlace size stop fuel next else next

/-- The symbols of the states, given the chances of each; one with less than a whole chance has a
state at the end. -/
def spread (size : Nat) (chances : List Int) : Array Nat :=
  let numbered := chances.zip (List.range chances.length)
  let rare := (numbered.filter fun p => p.1 = -1).map (·.2)
  let stop := size - rare.length
  let common := numbered.flatMap fun p => List.replicate p.1.toNat p.2
  let (symbols, _) := common.foldl
    (fun ((symbols, place) : Array Nat × Nat) symbol =>
      (symbols.setIfInBounds place symbol, nextPlace size stop size place))
    (Array.replicate size 0, 0)
  (rare.zip (List.range rare.length)).foldl
    (fun symbols p => symbols.setIfInBounds (size - 1 - p.2) p.1) symbols

/-- The table for the chances of each symbol, which are `2 ^ log` in all. -/
def ofChances (log : Nat) (chances : List Int) : StateTable :=
  let counts := (chances.map fun n => if n = -1 then 1 else n.toNat).toArray
  let (cells, _) := (spread (2 ^ log) chances).foldl
    (fun ((cells, counts) : Array Cell × Array Nat) symbol =>
      let n := counts.getD symbol 1
      let bits := log - Nat.log2 n
      (cells.push ⟨symbol, bits, n * 2 ^ bits - 2 ^ log⟩, counts.setIfInBounds symbol (n + 1)))
    (#[], counts)
  ⟨log, cells⟩

def cell (t : StateTable) (state : Nat) : Cell :=
  t.cells.getD state {}

def start (t : StateTable) (b : BackBits) : Nat × BackBits :=
  b.read t.log

def next (t : StateTable) (state : Nat) (b : BackBits) : Nat × BackBits :=
  let c := t.cell state
  (c.first + b.peek c.bits, b.skip c.bits)

end StateTable

/-- Chances that are being read: those read, from the last one back, the chances that are left and
one more, and the position of the next bit. -/
structure Chances where
  back : List Int := []
  left : Nat
  position : Nat

/-- Reads how many symbols have no chance: two bits each time, for three and no end, or for less. -/
def readZeros (data : Array UInt8) : (fuel : Nat) → Chances → Chances
  | 0, c => c
  | fuel + 1, c =>
    let n := bitsAt data c.position 2
    let c := { c with back := List.replicate n 0 ++ c.back, position := c.position + 2 }
    if n = 3 then readZeros data fuel c else c

/-- Reads the chances of symbols until none are left. The fewer are left the fewer bits a number
takes, and small numbers may take one bit less. There are `count` symbols at most, so `fuel` need
not exceed them. -/
def readChances (data : Array UInt8) (count : Nat) : (fuel : Nat) → Chances → Option Chances
  | 0, _ => none
  | fuel + 1, c =>
    if count ≤ c.back.length then none
    else
      let bits := Nat.log2 c.left
      let low := bitsAt data c.position bits
      let short := 2 * 2 ^ bits - 1 - c.left
      let full := bitsAt data c.position (bits + 1)
      let (number, used) :=
        if low < short then (low, bits)
        else (if 2 ^ bits ≤ full then full - short else full, bits + 1)
      let chance : Int := number - 1
      let c : Chances := ⟨chance :: c.back, c.left - chance.natAbs, c.position + used⟩
      if c.left ≤ 1 then if c.left = 1 then some c else none
      else
        readChances data count fuel (if chance = 0 then readZeros data data.size c else c)

/-- Reads a table for up to a number of symbols, of which the states can be told apart by up to
`most` bits. It ends with a whole byte. -/
def readTable (data : Array UInt8) (start stop count most : Nat) : Option (StateTable × Nat) := do
  let within := data.extract 0 stop
  let log := bitsAt within (8 * start) 4 + 5
  if most < log then none
  let c ← readChances within count (count + 1) ⟨[], 2 ^ log + 1, 8 * start + 4⟩
  let position := (c.position + 7) / 8
  if stop < position then none
  return (.ofChances log c.back.reverse, position)

end StubLinker.Zstandard
