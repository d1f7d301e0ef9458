import StubLinker.ClassFile.Reader
import StubLinker.ClassFile.ModifiedUtf8

namespace StubLinker

/-- A constant. Numbers are kept as their bits, references as indices into the pool. -/
inductive Constant where
  | utf8 (text : String)
  | integer (bits : UInt32)
  | float (bits : UInt32)
  | long (high low : UInt32)
  | double (high low : UInt32)
  | classInfo (name : UInt16)
  | string (text : UInt16)
  | fieldref (owner nameAndType : UInt16)
  | methodref (owner nameAndType : UInt16)
  | interfaceMethodref (owner nameAndType : UInt16)
  | nameAndType (name descriptor : UInt16)
  | methodHandle (kind : UInt8) (reference : UInt16)
  | methodType (descriptor : UInt16)
  | dynamic (bootstrap nameAndType : UInt16)
  | invokeDynamic (bootstrap nameAndType : UInt16)
  | module (name : UInt16)
  | package (name : UInt16)
  deriving DecidableEq, Repr

namespace Constant

def isWide : Constant → Bool
  | long _ _ => true
  | double _ _ => true
  | _ => false

def read : Reader Constant := do
  let pair (make : UInt16 → UInt16 → Constant) : Reader Constant := do
    let a ← Reader.u16
    let b ← Reader.u16
    pure (make a b)
  let tag ← Reader.byte
  match tag with
  | 1 =>
    let length ← Reader.u16
    let bytes ← Reader.bytes length.toNat
    match ModifiedUtf8.decode? bytes with
    | some text => pure (utf8 text)
    | none => throw .invalidText
  | 3 => integer <$> Reader.u32
  | 4 => float <$> Reader.u32
  | 5 => long <$> Reader.u32 <*> Reader.u32
  | 6 => double <$> Reader.u32 <*> Reader.u32
  | 7 => classInfo <$> Reader.u16
  | 8 => string <$> Reader.u16
  | 9 => pair fieldref
  | 10 => pair methodref
  | 11 => pair interfaceMethodref
  | 12 => pair nameAndType
  | 15 =>
    let kind ← Reader.byte
    if kind = 0 || kind > 9 then throw (.invalidReferenceKind kind)
    methodHandle kind <$> Reader.u16
  | 16 => methodType <$> Reader.u16
  | 17 => pair dynamic
  | 18 => pair invokeDynamic
  | 19 => module <$> Reader.u16
  | 20 => package <$> Reader.u16
  | _ => throw (.invalidConstantTag tag)

/-- The bytes of a constant. Text of more than 65535 bytes cannot be written. -/
def write : Constant → Except ClassFileError Bytes
  | utf8 text =>
    let bytes := ModifiedUtf8.encode text
    if bytes.length ≤ 0xFFFF then
      .ok (1 :: Bytes.ofUInt16 bytes.length.toUInt16 ++ bytes)
    else .error .numberTooLarge
  | integer bits => .ok (3 :: Bytes.ofUInt32 bits)
  | float bits => .ok (4 :: Bytes.ofUInt32 bits)
  | long high low => .ok (5 :: Bytes.ofUInt32 high ++ Bytes.ofUInt32 low)
  | double high low => .ok (6 :: Bytes.ofUInt32 high ++ Bytes.ofUInt32 low)
  | classInfo name => .ok (7 :: Bytes.ofUInt16 name)
  | string text => .ok (8 :: Bytes.ofUInt16 text)
  | fieldref owner member => .ok (9 :: Bytes.ofUInt16 owner ++ Bytes.ofUInt16 member)
  | methodref owner member => .ok (10 :: Bytes.ofUInt16 owner ++ Bytes.ofUInt16 member)
  | interfaceMethodref owner member => .ok (11 :: Bytes.ofUInt16 owner ++ Bytes.ofUInt16 member)
  | nameAndType name descriptor => .ok (12 :: Bytes.ofUInt16 name ++ Bytes.ofUInt16 descriptor)
  | methodHandle kind reference => .ok (15 :: kind :: Bytes.ofUInt16 reference)
  | methodType descriptor => .ok (16 :: Bytes.ofUInt16 descriptor)
  | dynamic bootstrap member => .ok (17 :: Bytes.ofUInt16 bootstrap ++ Bytes.ofUInt16 member)
  | invokeDynamic bootstrap member => .ok (18 :: Bytes.ofUInt16 bootstrap ++ Bytes.ofUInt16 member)
  | module name => .ok (19 :: Bytes.ofUInt16 name)
  | package name => .ok (20 :: Bytes.ofUInt16 name)

end Constant

/-- A constant pool. The slot at position `i` has the number `i + 1`; an empty slot is the second
number of the wide constant before it. -/
structure Pool where
  slots : Array (Option Constant) := #[]
  deriving DecidableEq, Repr

namespace Pool

def size (p : Pool) : Nat :=
  p.slots.size

def get? (p : Pool) (index : UInt16) : Option Constant :=
  if index = 0 then none else (p.slots[index.toNat - 1]?).join

def push (p : Pool) (c : Constant) : Pool :=
  ⟨if c.isWide then (p.slots.push (some c)).push none else p.slots.push (some c)⟩

/-- The number of a constant that is put at the end. It has to fit in two bytes. -/
def next (p : Pool) : Except ClassFileError UInt16 :=
  if p.size + 1 ≤ 0xFFFF then .ok (p.size + 1).toUInt16 else .error .numberTooLarge

def text (p : Pool) (index : UInt16) : Except ClassFileError String :=
  match p.get? index with
  | some (.utf8 text) => .ok text
  | some _ => .error (.wrongConstant index)
  | none => .error (.invalidIndex index)

def className (p : Pool) (index : UInt16) : Except ClassFileError String :=
  match p.get? index with
  | some (.classInfo name) => p.text name
  | some _ => .error (.wrongConstant index)
  | none => .error (.invalidIndex index)

/-- Reads constants until the pool has at least a number of slots. Each constant fills one, so
`fuel` need not exceed the slots that are missing. -/
def readUpTo (count : Nat) : (fuel : Nat) → Pool → Reader Pool
  | 0, p => pure p
  | fuel + 1, p =>
    if count ≤ p.size then pure p
    else do
      let c ← Constant.read
      readUpTo count fuel (p.push c)

/-- Reads a pool: one more than the number of its slots, then the constants. -/
def read : Reader Pool := do
  let count ← Reader.u16
  if count = 0 then throw .invalidPoolCount
  readUpTo (count.toNat - 1) (count.toNat - 1) {}

def write (p : Pool) : Except ClassFileError Bytes := do
  if p.size ≥ 0xFFFF then throw .numberTooLarge
  let constants ← (p.slots.toList.filterMap id).mapM Constant.write
  return Bytes.ofUInt16 (p.size + 1).toUInt16 ++ constants.flatten

end Pool

end StubLinker
