import StubLinker.Bytes

namespace StubLinker

namespace Crc32

def shift (crc : UInt32) : (bits : Nat) → UInt32
  | 0 => crc
  | n + 1 => shift (if crc &&& 1 = 1 then (crc >>> 1) ^^^ 0xEDB88320 else crc >>> 1) n

def absorb (crc : UInt32) (b : UInt8) : UInt32 :=
  shift (crc ^^^ b.toUInt32) 8

end Crc32

def crc32 (bs : Bytes) : UInt32 :=
  bs.foldl Crc32.absorb 0xFFFFFFFF ^^^ 0xFFFFFFFF

end StubLinker
