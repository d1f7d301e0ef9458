import StubLinker.Archive.Codes
import StubLinker.Archive.CopyBack
import StubLinker.Archive.Error
import StubLinker.Bytes

namespace StubLinker.Inflate

/-- Data that is read bit by bit: the bits left of the byte at hand, and the bytes behind it. -/
structure Bits where
  pending : List Bool
  rest : Bytes

abbrev Scan := StateT Bits (Except ArchiveError)

def bitsOf (b : UInt8) : List Bool :=
  (List.range 8).map fun i => b.toNat.testBit i

def bit : Scan Bool := fun s =>
  match s.pending, s.rest with
  | b :: pending, rest => .ok (b, ⟨pending, rest⟩)
  | [], byte :: rest =>
    match bitsOf byte with
    | b :: pending => .ok (b, ⟨pending, rest⟩)
    | [] => .error .cutData
  | [], [] => .error .cutData

def number : (bits : Nat) → Scan Nat
  | 0 => pure 0
  | n + 1 => do
    let low ← bit
    let high ← number n
    pure (low.toNat + 2 * high)

/-- The codes that lengths stand for, without lengths behind the longest code. -/
def codesOf (lengths : List Nat) : Codes :=
  .ofLengths (lengths.foldl max 1) lengths

/-- The codes of a block. The table has to be complete, but that it may be empty or have one code,
of one bit. -/
def codesOfBlock (lengths : List Nat) : Scan Codes := do
  let c := codesOf lengths
  if !c.isComplete && (1 < c.symbols.size || 1 < c.counts.length) then throw .badData
  return c

def symbol (c : Codes) : Scan Nat := do
  match ← c.read bit with
  | some s => pure s
  | none => throw .badData

/-- The shortest length and the extra bits of each code of lengths but the last one. -/
def lengthCodes : List (Nat × Nat) :=
  [(3, 0), (4, 0), (5, 0), (6, 0), (7, 0), (8, 0), (9, 0), (10, 0), (11, 1), (13, 1), (15, 1), (17, 1),
    (19, 2), (23, 2), (27, 2), (31, 2), (35, 3), (43, 3), (51, 3), (59, 3), (67, 4), (83, 4), (99, 4),
    (115, 4), (131, 5), (163, 5), (195, 5), (227, 5)]

/-- The shortest distance and the extra bits of each code of distances. -/
def distanceCodes : List (Nat × Nat) :=
  [(1, 0), (2, 0), (3, 0), (4, 0), (5, 1), (7, 1), (9, 2), (13, 2), (17, 3), (25, 3), (33, 4), (49, 4),
    (65, 5), (97, 5), (129, 6), (193, 6), (257, 7), (385, 7), (513, 8), (769, 8), (1025, 9),
    (1537, 9), (2049, 10), (3073, 10), (4097, 11), (6145, 11), (8193, 12), (12289, 12), (16385, 13),
    (24577, 13)]

/-- Reads the number that a code stands for together with its extra bits. -/
def extended (codes : List (Nat × Nat)) (code : Nat) : Scan Nat :=
  match codes[code]? with
  | some (least, bits) => do
    let extra ← number bits
    pure (least + extra)
  | none => throw .badData

/-- Reads the codes of a block. Each takes a bit at least, so `fuel` need not exceed the number of
bits. -/
def coded (literals distances : Codes) : (fuel : Nat) → Array UInt8 → Scan (Array UInt8)
  | 0, _ => throw .badData
  | fuel + 1, out => do
    let s ← symbol literals
    if s < 256 then coded literals distances fuel (out.push s.toUInt8)
    else if s = 256 then pure out
    else
      let length ← extended (lengthCodes ++ [(258, 0)]) (s - 257)
      let distance ← extended distanceCodes (← symbol distances)
      coded literals distances fuel (copyBack out distance length)

def stored (out : Array UInt8) : Scan (Array UInt8) := do
  let start ← get
  match start.rest with
  | a :: b :: c :: d :: rest =>
    let length := a.toNat + 256 * b.toNat
    let inverse := c.toNat + 256 * d.toNat
    if length + inverse ≠ 65535 then throw .badData
    if rest.length < length then throw .cutData
    set (⟨[], rest.drop length⟩ : Bits)
    return out ++ (rest.take length).toArray
  | _ => throw .cutData

def fixedLengths : List Nat :=
  List.replicate 144 8 ++ List.replicate 112 9 ++ List.replicate 24 7 ++ List.replicate 8 8

def fixedLiterals : Codes :=
  codesOf fixedLengths

def fixedDistances : Codes :=
  codesOf (List.replicate 32 5)

/-- The order in which the lengths of the codes for lengths are given. -/
def lengthOrder : List Nat :=
  [16, 17, 18, 0, 8, 7, 9, 6, 10, 5, 11, 4, 12, 3, 13, 2, 14, 1, 15]

/-- Reads lengths of codes until there are enough; `back` holds those read, the last one first. Each
takes a bit at least, so `fuel` need not exceed the number of lengths. -/
def lengths (codes : Codes) (count : Nat) : (fuel : Nat) → (back : List Nat) → Scan (List Nat)
  | 0, back => if back.length = count then pure back.reverse else throw .badData
  | fuel + 1, back => do
    if count ≤ back.length then
      if back.length = count then pure back.reverse else throw .badData
    else
      let s ← symbol codes
      if s < 16 then lengths codes count fuel (s :: back)
      else if s = 16 then
        match back with
        | [] => throw .badData
        | last :: _ => do
          let n ← number 2
          lengths codes count fuel (List.replicate (n + 3) last ++ back)
      else if s = 17 then do
        let n ← number 3
        lengths codes count fuel (List.replicate (n + 3) 0 ++ back)
      else do
        let n ← number 7
        lengths codes count fuel (List.replicate (n + 11) 0 ++ back)

def triples : Nat → Scan (List Nat)
  | 0 => pure []
  | n + 1 => do
    let first ← number 3
    let rest ← triples n
    pure (first :: rest)

/-- Reads the tables of a block that has its own. The table for lengths has to be complete. -/
def tables : Scan (Codes × Codes) := do
  let literals := 257 + (← number 5)
  let distances := 1 + (← number 5)
  let given := 4 + (← number 4)
  if 286 < literals || 30 < distances then throw .badData
  let table := lengthOrder.zip (← triples given)
  let codes := codesOf ((List.range 19).map fun s => (table.lookup s).getD 0)
  if !codes.isComplete then throw .badData
  let all ← lengths codes (literals + distances) (literals + distances) []
  let distanceCodes ← codesOfBlock (all.drop literals)
  let literalCodes ← codesOfBlock (all.take literals)
  pure (literalCodes, distanceCodes)

/-- Reads blocks up to the last one. A block takes a bit at least, so `fuel` need not exceed the
number of bits. -/
def blocks : (fuel : Nat) → Array UInt8 → Scan (Array UInt8)
  | 0, _ => throw .badData
  | fuel + 1, out => do
    let last ← bit
    let kind ← number 2
    let out ←
      if kind = 0 then stored out
      else if kind = 1 then coded fixedLiterals fixedDistances (fuel + 1) out
      else if kind = 2 then do
        let (literals, distances) ← tables
        coded literals distances (fuel + 1) out
      else throw .badData
    if last then pure out else blocks fuel out

end StubLinker.Inflate

namespace StubLinker

def inflate (data : Bytes) : Except ArchiveError Bytes :=
  ((Inflate.blocks (8 * data.length + 1) #[]).run ⟨[], data⟩).map fun p => p.1.toList

end StubLinker
