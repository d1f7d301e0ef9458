import StubLinker.Archive.Checksum
import StubLinker.Archive.Error
import StubLinker.Archive.Field
import StubLinker.Archive.Name

namespace StubLinker.Archive

/-- A record of the directory. -/
structure Record where
  name : String
  nameBytes : Bytes
  comment : String
  isEncrypted : Bool
  hasCipher : Bool := false
  method : Nat
  checksum : Nat
  packedSize : Nat
  size : Nat
  offset : Nat

namespace Record

/-- What reading an extra field comes to: a refusal, a field that is cut short, or a record and the
bytes behind the field. What a field gave before it is cut short counts. -/
inductive FieldResult where
  | refused
  | cut (r : Record)
  | done (r : Record) (rest : Bytes)

def skip (r : Record) (n : Nat) (bs : Bytes) : FieldResult :=
  match split? n bs with
  | some (_, rest) => .done r rest
  | none => .cut r

/-- Takes wide numbers one after the other: each is a test whether it is there, and what it is
for. `length` is the length of the field, and `taken` how many bytes of it were taken. The length is
looked at only behind the last number. -/
def takeNumbers (r : Record) (length taken : Nat) (bs : Bytes) :
    List ((Record → Bool) × (Record → Nat → Record)) → FieldResult
  | [] => if length < taken then .refused else r.skip (length - taken) bs
  | (isThere, put) :: rest =>
    if isThere r then
      match split? 8 bs with
      | none => .cut r
      | some (number, bs) => takeNumbers (put r (littleEndian number)) length (taken + 8) bs rest
    else takeNumbers r length taken bs rest

/-- Takes the field of wide numbers. A number is there if the record has the limit in its place, and
all are there in a field of their full length. -/
def takeWide (r : Record) (length : Nat) (bs : Bytes) : FieldResult :=
  let isFull := 24 ≤ length
  r.takeNumbers length 0 bs
    [(fun r => isFull || r.size = 0xFFFFFFFF, fun r n => { r with size := n }),
      (fun r => isFull || r.packedSize = 0xFFFFFFFF, fun r n => { r with packedSize := n }),
      (fun r => isFull || r.offset = 0xFFFFFFFF, fun r n => { r with offset := n })]

/-- Takes a field that is not used if it has the right layout: its length, and numbers in it given
by their positions and widths. -/
def takeFixed (r : Record) (isLength : Bool) (length : Nat) (expected : List (Nat × Nat × Nat))
    (bs : Bytes) : FieldResult :=
  if !isLength then .refused
  else
    let given := bs.take length
    let isKnown := expected.all fun e =>
      given.length < e.1 + e.2.1 || field given e.1 e.2.1 = e.2.2
    if isKnown then r.skip length bs else .refused

/-- Takes the field of a cipher, which also tells the method under it. -/
def takeCipher (r : Record) (length : Nat) (bs : Bytes) : FieldResult :=
  if length ≠ 7 then .refused
  else
    match split? 7 bs with
    | none => .cut r
    | some (given, rest) =>
      let version := field given 0 2
      let strength := field given 4 1
      if field given 2 2 = 0x4541 && 1 ≤ version && version ≤ 2 && 1 ≤ strength && strength ≤ 3 then
        .done { r with hasCipher := true, method := field given 5 2 } rest
      else .refused

/-- Takes the field of times, which has a byte that marks those that are there; there are three at
most. -/
def takeTimes (r : Record) (length : Nat) (bs : Bytes) : FieldResult :=
  match bs with
  | [] => .cut r
  | marks :: rest =>
    let count := (List.range 8).countP marks.toNat.testBit
    if (length = 5 || length = 1 + 4 * count) && marks < 8 then r.skip (length - 1) rest
    else .refused

/-- Takes a field of Unicode text that stands for other text, whose checksum it has. -/
def takeText (r : Record) (length : Nat) (plain : Bytes) (put : Bytes → String → Record)
    (bs : Bytes) : FieldResult :=
  match split? 5 bs with
  | none => .cut r
  | some (head, rest) =>
    if length < 5 then .refused
    else
      match split? (length - 5) rest with
      | none => .cut r
      | some (content, rest) =>
        if field head 1 4 ≠ (crc32 plain).toNat then .refused
        else
          match Bytes.toText? content with
          | some text => .done (put content text) rest
          | none => .refused

def takeField (r : Record) (kind length : Nat) (bs : Bytes) : FieldResult :=
  match kind with
  | 0x0001 => r.takeWide length bs
  | 0x000A => r.takeFixed (length = 32) length [(4, 2, 1), (6, 2, 24)] bs
  | 0x9901 => r.takeCipher length bs
  | 0x5455 => r.takeTimes length bs
  | 0x6375 =>
    r.takeText length (Bytes.ofText r.comment) (fun _ text => { r with comment := text }) bs
  | 0x7075 =>
    r.takeText length r.nameBytes (fun bytes text => { r with nameBytes := bytes, name := text }) bs
  | _ => r.skip length bs

/-- Takes extra fields. Each takes a byte at least, so `fuel` need not exceed the number of
bytes. -/
def takeFields : (fuel : Nat) → Record → Bytes → Option Record
  | 0, r, _ => some r
  | fuel + 1, r, bs =>
    match split? 4 bs with
    | none => some r
    | some (head, rest) =>
      match r.takeField (field head 0 2) (field head 2 2) rest with
      | .refused => none
      | .cut r => some r
      | .done r rest => takeFields fuel r rest

/-- The number that stands for encryption with a cipher in place of a method. -/
def cipherMethod : Nat :=
  99

def read (bs : Bytes) : Option (Record × Bytes) := do
  let (head, rest) ← split? 46 bs
  if !directoryMark.isPrefixOf head then none
  let (name, rest) ← split? (field head 28 2) rest
  let (extra, rest) ← split? (field head 30 2) rest
  let (comment, rest) ← split? (field head 32 2) rest
  let marks := field head 8 2
  let r ← takeFields extra.length
    { name := textOf (marks.testBit 11) name
      nameBytes := name
      comment := textOf (marks.testBit 11) comment
      isEncrypted := marks.testBit 0
      method := field head 10 2
      checksum := field head 16 4
      packedSize := field head 20 4
      size := field head 24 4
      offset := field head 42 4 } extra
  if r.method = cipherMethod && !r.hasCipher then none
  return (r, rest)

/-- Reads a number of records, of which the entries lie in front of the directory. -/
def readAll (base start : Nat) : (count : Nat) → Bytes → Option (List Record)
  | 0, _ => some []
  | n + 1, bs => do
    let (r, rest) ← read bs
    if start ≤ base + r.offset then none
    let others ← readAll base start n rest
    return r :: others

end Record

end StubLinker.Archive
