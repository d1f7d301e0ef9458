import StubLinker.Archive.BitField
import StubLinker.Archive.CopyBack
import StubLinker.Archive.Lzma.Fault
import StubLinker.Archive.Lzma.Symbol

namespace StubLinker.Lzma

/-- The head: the shape, the size of the window, and the size of the whole if it is known. -/
structure Head where
  shape : Shape
  window : Nat
  size : Option Nat

/-- The number of bytes in front of the symbols. Behind the head are a byte that says nothing and
the first four bytes of the code. -/
def startSize : Nat :=
  18

def readHead (data : Array UInt8) : Head :=
  let size := bytesAt data 5 8
  { shape := .ofNumber (bytesAt data 0 1)
    window := max 0x1000 (bytesAt data 1 4)
    size := if size = 2 ^ 64 - 1 then none else some size }

def Head.coder (h : Head) (data : Array UInt8) : Coder :=
  let code := (List.range 4).foldl (fun code i => 256 * code + bytesAt data (14 + i) 1) 0
  { data, position := startSize, code := code.toUInt32, chances := evenChances h.shape }

/-- Whether nothing is to be read behind some output. What is left of the data then is too much if
the size is known. -/
def Head.isDone (h : Head) (c : Coder) (out : Array UInt8) : Bool :=
  match h.size with
  | some size => size ≤ out.size
  | none => c.data.size ≤ c.position

/-- Reads symbols as long as the data lasts. No bit is sure, and each symbol takes four of them at
least, so `fuel` need not exceed 128 for each byte. -/
def readSymbols (h : Head) : (fuel : Nat) → Past → Coder → Array UInt8 → Except Fault (Array UInt8)
  | 0, _, _, out => .ok out
  | fuel + 1, p, c, out =>
    if h.isDone c out then if c.position < c.data.size then .error .tooLong else .ok out
    else
      let ((symbol, p), c) := p.read out out.size c
      let c := c.widen
      if c.data.size < c.position then .ok out
      else
        match symbol with
        | .byte b => readSymbols h fuel p c (out.push b)
        | .piece distance length =>
          if h.window < distance then .error (.beyondWindow distance h.window)
          else if out.size < distance then .error (.beyondStart distance out.size)
          else readSymbols h fuel p c (copyBack out distance length)
        | .stop =>
          if c.code = 0 && c.position = c.data.size then .ok out else .error .earlyStop

def unpack (data : Bytes) : Except Fault Bytes := do
  let data := data.toArray
  let number := bytesAt data 0 1
  if 225 ≤ number then throw (.noShape number)
  if data.size ≤ startSize then return []
  let h := readHead data
  let out ← readSymbols h (128 * (data.size + 8)) { shape := h.shape } (h.coder data) #[]
  return (out.extract 0 (out.size / h.window * h.window)).toList

end StubLinker.Lzma
