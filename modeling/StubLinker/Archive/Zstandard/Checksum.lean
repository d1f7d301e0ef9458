import StubLinker.Archive.BitField

namespace StubLinker.Zstandard.Checksum

def prime1 : UInt64 :=
  0x9E3779B185EBCA87

def prime2 : UInt64 :=
  0xC2B2AE3D27D4EB4F

def prime3 : UInt64 :=
  0x165667B19E3779F9

def prime4 : UInt64 :=
  0x85EBCA77C2B2AE63

def prime5 : UInt64 :=
  0x27D4EB2F165667C5

def rotate (x n : UInt64) : UInt64 :=
  (x <<< n) ||| (x >>> (64 - n))

def round (lane word : UInt64) : UInt64 :=
  rotate (lane + word * prime2) 31 * prime1

def wordAt (data : Array UInt8) (position : Nat) : UInt64 :=
  (bytesAt data position 8).toUInt64

structure Lanes where
  a : UInt64 := prime1 + prime2
  b : UInt64 := prime2
  c : UInt64 := 0
  d : UInt64 := 0 - prime1

def stripes (data : Array UInt8) : (count position : Nat) → Lanes → Lanes
  | 0, _, l => l
  | n + 1, position, l =>
    let word (i : Nat) := wordAt data (position + 8 * i)
    stripes data n (position + 32)
      ⟨round l.a (word 0), round l.b (word 1), round l.c (word 2), round l.d (word 3)⟩

def merge (sum lane : UInt64) : UInt64 :=
  (sum ^^^ round 0 lane) * prime1 + prime4

def Lanes.sum (l : Lanes) : UInt64 :=
  [l.a, l.b, l.c, l.d].foldl merge (rotate l.a 1 + rotate l.b 7 + rotate l.c 12 + rotate l.d 18)

/-- Takes in the bytes behind the last stripe: words of eight, one of four, and single ones. Each
takes a byte at least, so `fuel` need not exceed their number. -/
def tail (data : Array UInt8) : (fuel position : Nat) → UInt64 → UInt64
  | 0, _, h => h
  | fuel + 1, position, h =>
    if position + 8 ≤ data.size then
      let h := rotate (h ^^^ round 0 (wordAt data position)) 27 * prime1 + prime4
      tail data fuel (position + 8) h
    else if position + 4 ≤ data.size then
      let word := (bytesAt data position 4).toUInt64
      tail data fuel (position + 4) (rotate (h ^^^ word * prime1) 23 * prime2 + prime3)
    else if position < data.size then
      let byte := (bytesAt data position 1).toUInt64
      tail data fuel (position + 1) (rotate (h ^^^ byte * prime5) 11 * prime1)
    else h

def spread (h : UInt64) : UInt64 :=
  let h := (h ^^^ (h >>> 33)) * prime2
  let h := (h ^^^ (h >>> 29)) * prime3
  h ^^^ (h >>> 32)

end Checksum

def checksum (data : Array UInt8) : UInt64 :=
  let count := data.size / 32
  let start :=
    if count = 0 then Checksum.prime5 else (Checksum.stripes data count 0 {}).sum
  Checksum.spread (Checksum.tail data data.size (32 * count) (start + data.size.toUInt64))

end StubLinker.Zstandard
