namespace StubLinker

abbrev Bytes := List UInt8

namespace Bytes

def ofUInt16 (n : UInt16) : Bytes :=
  [(n >>> 8).toUInt8, n.toUInt8]

def ofUInt32 (n : UInt32) : Bytes :=
  [(n >>> 24).toUInt8, (n >>> 16).toUInt8, (n >>> 8).toUInt8, n.toUInt8]

def ofUInt64 (n : UInt64) : Bytes :=
  ofUInt32 (n >>> 32).toUInt32 ++ ofUInt32 n.toUInt32

/-- The bytes of a table, of which each row is given by its bytes: their number, then the rows. -/
def tableOf (rows : List Bytes) : Bytes :=
  ofUInt16 rows.length.toUInt16 ++ rows.flatten

def toUInt16 (a b : UInt8) : UInt16 :=
  (a.toUInt16 <<< 8) ||| b.toUInt16

def toUInt32 (a b c d : UInt8) : UInt32 :=
  (a.toUInt32 <<< 24) ||| (b.toUInt32 <<< 16) ||| (c.toUInt32 <<< 8) ||| d.toUInt32

/-- The lower-case hexadecimal digit of a number below sixteen. -/
def hexDigit (n : Nat) : Char :=
  if n < 10 then Char.ofNat (48 + n) else Char.ofNat (87 + n)

def hex (bs : Bytes) : String :=
  String.ofList (bs.flatMap fun b => [hexDigit (b.toNat / 16), hexDigit (b.toNat % 16)])

def ofText (s : String) : Bytes :=
  s.toByteArray.data.toList

def toText? (bs : Bytes) : Option String :=
  String.fromUTF8? ⟨bs.toArray⟩

@[simp] theorem toText?_ofText (s : String) : toText? (ofText s) = some s := by
  simp [toText?, ofText, String.fromUTF8?, s.isValidUTF8, String.fromUTF8]

end Bytes

end StubLinker
