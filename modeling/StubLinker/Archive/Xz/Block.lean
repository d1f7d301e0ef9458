import StubLinker.Archive.Xz.Branch
import StubLinker.Archive.Xz.Check
import StubLinker.Archive.Xz.Chunk

namespace StubLinker.Xz

/-- Reads a number of up to nine bytes of seven bits each, the lowest one first; the last byte has
no highest bit, and it is zero only if it is the first one. -/
def readNumber (data : Array UInt8) (stop : Nat) (position : Nat) : Except Fault (Nat × Nat) :=
  let rec go : (left depth n : Nat) → Except Fault (Nat × Nat)
    | 0, _, _ => .error .damaged
    | left + 1, depth, n =>
      if stop ≤ position + depth then .error .cut
      else
        let b := bytesAt data (position + depth) 1
        let n := n + b % 128 * 128 ^ depth
        if 128 ≤ b then go left (depth + 1) n
        else if b = 0 && 0 < depth then .error .damaged
        else .ok (n, position + depth + 1)
  go 9 0 0

def numberSize (n : Nat) : Nat :=
  n.log2 / 7 + 1

/-- A filter: bytes as differences to those some bytes before, branches as targets, or packing with
a window. -/
inductive Filter where
  | delta (distance : Nat)
  | branches (machine : Machine) (start : UInt32)
  | packed (window : Nat)

def Filter.of? (number : Nat) (properties : List Nat) : Option Filter :=
  let branches (m : Machine) : Option Filter :=
    match properties with
    | [] => some (.branches m 0)
    | [a, b, c, d] =>
      let start := a + 256 * (b + 256 * (c + 256 * d))
      if start % m.alignment = 0 then some (.branches m start.toUInt32) else none
    | _ => none
  match number, properties with
  | 3, [n] => some (.delta (n + 1))
  | 4, _ => branches .x86
  | 5, _ => branches .powerPc
  | 6, _ => branches .ia64
  | 7, _ => branches .arm
  | 8, _ => branches .armThumb
  | 9, _ => branches .sparc
  | 10, _ => branches .arm64
  | 0x21, [n] =>
    if 40 < n then none else some (.packed (min ((2 + n % 2) * 2 ^ (n / 2 + 11)) (2 ^ 32 - 1)))
  | _, _ => none

def undelta (distance : Nat) (content : Array UInt8) : Array UInt8 :=
  content.foldl
    (fun out b =>
      out.push (b + if out.size < distance then 0 else out.getD (out.size - distance) 0)) #[]

def Filter.undo (content : Array UInt8) : Filter → Array UInt8
  | .delta distance => undelta distance content
  | .branches machine start => machine.turn start content
  | .packed _ => content

def readFilters (data : Array UInt8) (stop : Nat) :
    (count position : Nat) → Except Fault (List Filter × Nat)
  | 0, position => .ok ([], position)
  | count + 1, position => do
    let (number, position) ← readNumber data stop position
    if 2 ^ 62 ≤ number then throw .damaged
    let (size, position) ← readNumber data stop position
    if stop < position + size then throw .damaged
    let properties := (List.range size).map fun i => bytesAt data (position + i) 1
    let some filter := Filter.of? number properties | throw .unknownOption
    let (filters, position) ← readFilters data stop count (position + size)
    return (filter :: filters, position)

/-- The window of packing if it is the last filter and the others do not pack, and those in
front. -/
def chain? : List Filter → Option (Nat × List Filter)
  | [.packed window] => some (window, [])
  | .packed _ :: _ => none
  | [] => none
  | f :: rest => (chain? rest).map fun (window, filters) => (window, f :: filters)

/-- The head of a block: the size it was packed to and its size if they are told, and its
filters. -/
structure BlockHead where
  packed : Option Nat
  size : Option Nat
  window : Nat
  filters : List Filter

def readNumberIf (isThere : Bool) (data : Array UInt8) (stop position : Nat) :
    Except Fault (Option Nat × Nat) :=
  if isThere then (readNumber data stop position).map fun (n, position) => (some n, position)
  else .ok (none, position)

/-- Reads the head of a block, which ends with its checksum. `outside` is the number of bytes of a
block besides its packed content. -/
def readBlockHead (data : Array UInt8) (start size outside : Nat) : Except Fault BlockHead := do
  let stop := start + size - 4
  if (crc32 (data.extract start stop).toList).toNat ≠ bytesAt data stop 4 then throw .damaged
  let marks := bytesAt data (start + 1) 1
  if marks / 4 % 16 ≠ 0 then throw .unknownOption
  let within {α : Type} (r : Except Fault α) : Except Fault α :=
    r.mapError fun e => if e = .cut then .damaged else e
  let (packed, position) ← within (readNumberIf (marks.testBit 6) data stop (start + 2))
  if packed.any fun n => n = 0 || 2 ^ 63 - 4 < n + outside then throw .damaged
  let (content, position) ← within (readNumberIf (marks.testBit 7) data stop position)
  let (filters, position) ← within (readFilters data stop (marks % 4 + 1) position)
  if (data.extract position stop).any (· ≠ 0) then throw .unknownOption
  let some (window, filters) := chain? filters | throw .unknownOption
  return ⟨packed, content, window, filters⟩

/-- Reads the packed content of a block and what is in front of the filters of it. A block that
tells the size it was packed to does not go on behind it. -/
def readContent (data : Array UInt8) (h : BlockHead) (start : Nat) :
    Except Fault (Array UInt8 × Nat) := do
  let stop := (h.packed.map (start + ·)).getD data.size
  let limits : Limits := ⟨min stop data.size, (max h.window 4096 + 15) / 16 * 16, h.size⟩
  let chunks := readChunks data limits (data.size + 1) start {}
  let (m, position) ←
    chunks.mapError fun e => if e = .cut && h.packed.isSome && stop ≤ data.size then .damaged else e
  if h.packed.any (· ≠ position - start) || h.size.any (· ≠ m.out.size) then throw .damaged
  return (h.filters.foldr (fun f content => f.undo content) m.out, position)

/-- What the index tells of a block: its size without padding, and the size of its content. -/
structure BlockSize where
  packed : Nat
  content : Nat
  deriving DecidableEq

/-- Reads a block with a kind of check: its content, its sizes and the position behind it. -/
def readBlock (data : Array UInt8) (kind start : Nat) :
    Except Fault (Array UInt8 × BlockSize × Nat) := do
  let size := 4 * (bytesAt data start 1 + 1)
  if data.size < start + size then throw .cut
  let h ← readBlockHead data start size (size + checkSize kind)
  let (content, position) ← readContent data h (start + size)
  let packed := position - start - size
  let padding := (4 - packed % 4) % 4
  if (data.extract position (position + padding)).any (· ≠ 0) then throw .damaged
  let check := position + padding
  let behind := check + checkSize kind
  if data.size < behind then throw .cut
  let isRight := isCheckOf kind (data.extract check behind).toList content.toList
  if !isRight then throw .damaged
  return (content, ⟨size + packed + checkSize kind, content.size⟩, behind)

end StubLinker.Xz
