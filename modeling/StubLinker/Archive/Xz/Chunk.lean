import StubLinker.Archive.BitField
import StubLinker.Archive.CopyBack
import StubLinker.Archive.Lzma.Symbol
import StubLinker.Archive.Xz.Fault

namespace StubLinker.Xz

open Lzma (Past Coder Shape Symbol evenChances)

/-- Where packed data is read up to, the size of the window, and the most bytes that it may stand
for. -/
structure Limits where
  stop : Nat
  window : Nat
  most : Option Nat

/-- What the chunks before the next one leave: their bytes, where the window starts in them, whether
there must be a new window or a new shape, and what symbols leave. -/
structure Memory where
  out : Array UInt8 := #[]
  start : Nat := 0
  needsWindow : Bool := true
  needsShape : Bool := true
  past : Past := { shape := ⟨0, 0, 0⟩ }
  chances : Array Nat := #[]

/-- The shape that a number stands for. At most four bits tell bytes apart. -/
def shape? (number : Nat) : Option Shape :=
  let s := Shape.ofNumber number
  if 225 ≤ number || 4 < s.lastBits + s.placeBits then none else some s

/-- The fault of a chunk that reads on behind the end of the data: the data is cut short if the
chunk was not to end before. -/
def faultBehind (l : Limits) (stop : Nat) : Fault :=
  if stop < l.stop then .damaged else .cut

/-- Reads symbols until there are `size` bytes; the symbols must end where the chunk does. A symbol
may take no byte of the data, but it gives a byte at least, so `fuel` need not exceed the size. -/
def readSymbols (l : Limits) (start stop size : Nat) :
    (fuel : Nat) → Past → Coder → Array UInt8 → Except Fault (Past × Coder × Array UInt8)
  | 0, _, _, _ => .error .damaged
  | fuel + 1, p, c, out => do
    if l.most.any (· < out.size) then throw .damaged
    if size ≤ out.size then
      let c := c.widen
      if l.stop < c.position then throw (faultBehind l stop)
      if size < out.size || c.code ≠ 0 || c.position ≠ stop then throw .damaged
      return (p, c, out)
    let ((symbol, p), c) := p.read out (out.size - start) c
    if l.stop < c.position then throw (faultBehind l stop)
    match symbol with
    | .byte b => readSymbols l start stop size fuel p c (out.push b)
    | .piece distance length =>
      if min l.window (out.size - start) < distance || size - out.size < length then throw .damaged
      readSymbols l start stop size fuel p c (copyBack out distance length)
    | .stop => throw .damaged

/-- Reads a chunk of symbols from its code on, up to `size` bytes more. -/
def readCoded (data : Array UInt8) (l : Limits) (first stop size : Nat) (m : Memory) :
    Except Fault Memory := do
  if l.stop ≤ first then throw .cut
  if bytesAt data first 1 ≠ 0 then throw .damaged
  if l.stop < first + 5 then throw (faultBehind l stop)
  let code := (List.range 4).foldl (fun code i => 256 * code + bytesAt data (first + 1 + i) 1) 0
  let data := data.extract 0 l.stop
  let ⟨out, start, _, _, past, chances⟩ := m
  let coder : Coder := { data, position := first + 5, code := code.toUInt32, chances }
  let size := out.size + size
  let (past, coder, out) ← readSymbols l start stop size (size + 1) past coder out
  return ⟨out, start, false, false, past, coder.chances⟩

def readStored (data : Array UInt8) (l : Limits) (first stop : Nat) (m : Memory) :
    Except Fault Memory := do
  let out := m.out ++ data.extract first (min stop l.stop)
  if l.most.any (· < out.size) then throw .damaged
  if l.stop < stop then throw .cut
  return { m with out }

def Memory.renewed (m : Memory) (shape : Shape) : Memory :=
  { m with past := { shape }, chances := evenChances shape, needsShape := false }

/-- Reads a number of two bytes, the highest one first, and adds one. -/
def sizeAt (data : Array UInt8) (position : Nat) : Nat :=
  256 * bytesAt data position 1 + bytesAt data (position + 1) 1 + 1

/-- Reads chunks up to the mark of the end: what they leave and the position behind them. Each takes
a byte at least, so `fuel` need not exceed their number. -/
def readChunks (data : Array UInt8) (l : Limits) :
    (fuel position : Nat) → Memory → Except Fault (Memory × Nat)
  | 0, _, _ => .error .cut
  | fuel + 1, position, m => do
    if l.stop ≤ position then throw .cut
    let kind := bytesAt data position 1
    if kind = 0 then return (m, position + 1)
    let isNew := kind = 1 || 0xE0 ≤ kind
    if m.needsWindow && !isNew then throw .damaged
    let m :=
      if isNew then { m with start := m.out.size, needsWindow := false, needsShape := true } else m
    if kind < 0x80 then
      if 2 < kind then throw .damaged
      if l.stop < position + 3 then throw .cut
      let stop := position + 3 + sizeAt data (position + 1)
      readChunks data l fuel stop (← readStored data l (position + 3) stop m)
    else
      let hasShape := decide (0xC0 ≤ kind)
      if m.needsShape && !hasShape then throw .damaged
      if l.stop < position + 5 then throw .cut
      let size := kind % 32 * 2 ^ 16 + sizeAt data (position + 1)
      let packed := sizeAt data (position + 3)
      let first := position + 5 + hasShape.toNat
      if l.stop < first then throw .cut
      let m ←
        if hasShape then
          let some shape := shape? (bytesAt data (position + 5) 1) | throw .damaged
          pure (m.renewed shape)
        else if 0xA0 ≤ kind then pure (m.renewed m.past.shape)
        else pure m
      readChunks data l fuel (first + packed) (← readCoded data l first (first + packed) size m)

end StubLinker.Xz
