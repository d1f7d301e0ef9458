import StubLinker.Archive.Checksum
import StubLinker.Sha256
import StubLinker.Power

namespace StubLinker.Xz

namespace Crc64

def shift (crc : UInt64) : (bits : Nat) → UInt64
  | 0 => crc
  | n + 1 =>
    shift (if crc &&& 1 = 1 then (crc >>> 1) ^^^ 0xC96C5795D7870F42 else crc >>> 1) n

def absorb (crc : UInt64) (b : UInt8) : UInt64 :=
  shift (crc ^^^ b.toUInt64) 8

end Crc64

def crc64 (bs : Bytes) : UInt64 :=
  bs.foldl Crc64.absorb 0xFFFFFFFFFFFFFFFF ^^^ 0xFFFFFFFFFFFFFFFF

def checkSize (kind : Nat) : Nat :=
  if kind = 0 then 0 else 2 ^ ((kind - 1) / 3 + 2)

def isCheckOf (kind : Nat) (check : Bytes) (content : Bytes) : Bool :=
  match kind with
  | 1 => check.reverse = Bytes.ofUInt32 (crc32 content)
  | 4 => check.reverse = Bytes.ofUInt64 (crc64 content)
  | 10 => Bytes.hex check = sha256 content
  | _ => true

end StubLinker.Xz
