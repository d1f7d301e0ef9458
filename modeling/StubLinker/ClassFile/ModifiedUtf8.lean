import StubLinker.Bytes

namespace StubLinker.ModifiedUtf8

def encodeChar (c : Char) : Bytes :=
  if c = '\x00' then [0xC0, 0x80] else String.utf8EncodeChar c

def encode (s : String) : Bytes :=
  s.toList.flatMap encodeChar

def tail (b : UInt8) : Nat :=
  (b &&& 0x3F).toNat

/-- Reads the characters of the bytes behind those in `done`, which are kept in reverse. The first
byte of a character tells how many there are; too few are refused. -/
def decodeFrom (done : List Char) : Bytes → Option (List Char)
  | [] => some done.reverse
  | a :: rest =>
    if a < 0x80 then decodeFrom (Char.ofNat a.toNat :: done) rest
    else if 0xC0 ≤ a && a < 0xE0 then
      match rest with
      | b :: rest => decodeFrom (Char.ofNat ((a &&& 0x1F).toNat * 64 + tail b) :: done) rest
      | _ => none
    else if 0xE0 ≤ a && a < 0xF0 then
      match rest with
      | b :: c :: rest =>
        let code := ((a &&& 0x0F).toNat * 64 + tail b) * 64 + tail c
        decodeFrom (Char.ofNat code :: done) rest
      | _ => none
    else
      match rest with
      | b :: c :: d :: rest =>
        let code := (((a &&& 0x07).toNat * 64 + tail b) * 64 + tail c) * 64 + tail d
        decodeFrom (Char.ofNat code :: done) rest
      | _ => none

def decode? (bs : Bytes) : Option String :=
  (decodeFrom [] bs).map String.ofList

end StubLinker.ModifiedUtf8
