import StubLinker.Bytes

namespace StubLinker.Text

def replacement : Char :=
  '\uFFFD'

def continues (b : UInt8) : Bool :=
  0x80 ≤ b && b < 0xC0

/-- Whether a byte may follow the first byte of a character of three bytes. -/
def continuesThree (a b : UInt8) : Bool :=
  continues b && (a != 0xE0 || 0xA0 ≤ b) && (a != 0xED || b < 0xA0)

/-- Whether a byte may follow the first byte of a character of four bytes. -/
def continuesFour (a b : UInt8) : Bool :=
  continues b && (a != 0xF0 || 0x90 ≤ b) && (a != 0xF4 || b < 0x90)

def joined (high : UInt8) (rest : Bytes) : Char :=
  Char.ofNat (rest.foldl (fun n b => n * 64 + (b &&& 0x3F).toNat) high.toNat)

def lenientChars : Bytes → List Char
  | [] => []
  | a :: rest =>
    if a < 0x80 then Char.ofNat a.toNat :: lenientChars rest
    else if 0xC2 ≤ a && a < 0xE0 then
      match rest with
      | b :: rest =>
        if continues b then joined (a &&& 0x1F) [b] :: lenientChars rest
        else replacement :: lenientChars (b :: rest)
      | [] => [replacement]
    else if 0xE0 ≤ a && a < 0xF0 then
      match rest with
      | b :: c :: rest =>
        if !continuesThree a b then replacement :: lenientChars (b :: c :: rest)
        else if !continues c then replacement :: lenientChars (c :: rest)
        else joined (a &&& 0x0F) [b, c] :: lenientChars rest
      | [b] => if continuesThree a b then [replacement] else replacement :: lenientChars [b]
      | [] => [replacement]
    else if 0xF0 ≤ a && a < 0xF5 then
      match rest with
      | b :: c :: d :: rest =>
        if !continuesFour a b then replacement :: lenientChars (b :: c :: d :: rest)
        else if !continues c then replacement :: lenientChars (c :: d :: rest)
        else if !continues d then replacement :: lenientChars (d :: rest)
        else joined (a &&& 0x07) [b, c, d] :: lenientChars rest
      | [b, c] =>
        if !continuesFour a b then replacement :: lenientChars [b, c]
        else if !continues c then replacement :: lenientChars [c]
        else [replacement]
      | [b] => if continuesFour a b then [replacement] else replacement :: lenientChars [b]
      | [] => [replacement]
    else replacement :: lenientChars rest

def lenient (bs : Bytes) : String :=
  String.ofList (lenientChars bs)

end StubLinker.Text
