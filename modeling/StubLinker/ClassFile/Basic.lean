import StubLinker.ClassFile.Attribute

namespace StubLinker

/-- A field or a method of a class. -/
structure Member where
  access : UInt16
  name : UInt16
  descriptor : UInt16
  attributes : List Attribute
  deriving DecidableEq, Repr

namespace Member

/-- Reads a member whose access flags are among those of a mask, given a check of its descriptor. -/
def read (pool : Pool) (fuel : Nat) (mask : UInt16) (check : UInt16 → Except ClassFileError Unit) :
    Reader Member := do
  let access ← Reader.u16
  let name ← Reader.u16
  let descriptor ← Reader.u16
  check descriptor
  let attributes ← Reader.table (Attribute.read pool fuel)
  pure ⟨access &&& mask, name, descriptor, attributes⟩

/-- Checks the text of a field's type. Only a class name is checked up to its end. -/
def checkFieldType : List Char → Except ClassFileError Unit
  | '[' :: component => checkFieldType component
  | 'L' :: name =>
    if 2 ≤ name.length && name.getLast? = some ';' then .ok ()
    else .error (.invalidTypeDescriptor (String.ofList ('L' :: name)))
  | code :: _ => if "BCDFIJSZ".toList.contains code then .ok () else .error (.invalidTypeCode code)
  | [] => .error (.invalidTypeCode '\x00')

def readField (pool : Pool) (fuel : Nat) : Reader Member :=
  read pool fuel AccessMask.ofField fun descriptor => do
    checkFieldType (← pool.text descriptor).toList

def readMethod (pool : Pool) (fuel : Nat) : Reader Member :=
  read pool fuel AccessMask.ofMethod fun _ => .ok ()

def bytes (m : Member) : Bytes :=
  Bytes.ofUInt16 m.access ++ Bytes.ofUInt16 m.name ++ Bytes.ofUInt16 m.descriptor ++
    Bytes.tableOf (m.attributes.map Attribute.bytes)

end Member

structure ClassFile where
  minor : UInt16
  major : UInt16
  pool : Pool
  access : UInt16
  thisClass : UInt16
  superClass : UInt16
  interfaces : List UInt16
  fields : List Member
  methods : List Member
  attributes : List Attribute
  deriving DecidableEq, Repr

namespace ClassFile

def magic : UInt32 :=
  0xCAFEBABE

/-- Whether a version exists. From major version 56 on, the minor version only tells whether preview
features are used. -/
def isVersion (major minor : UInt16) : Bool :=
  45 ≤ major && major ≤ 69 && (major < 56 || minor = 0 || minor = 0xFFFF)

/-- Reads a class file. No attribute lies inside more others than `fuel`, for each takes a byte. -/
def reader (fuel : Nat) : Reader ClassFile := do
  let opening ← Reader.u32
  if opening ≠ magic then throw (.invalidMagic opening)
  let minor ← Reader.u16
  let major ← Reader.u16
  if !isVersion major minor then throw (.invalidVersion major minor)
  let pool ← Pool.read
  let access ← Reader.u16
  let thisClass ← Reader.u16
  let superClass ← Reader.u16
  let interfaces ← Reader.table Reader.u16
  let fields ← Reader.table (Member.readField pool fuel)
  let methods ← Reader.table (Member.readMethod pool fuel)
  let attributes ← Reader.table (Attribute.read pool fuel)
  pure ⟨minor, major, pool, access &&& AccessMask.ofClass, thisClass, superClass, interfaces, fields, methods,
    attributes⟩

/-- The class file at the front of the bytes; what follows it does not count. -/
def read (bs : Bytes) : Except ClassFileError ClassFile :=
  (reader bs.length bs).map (·.1)

def write (c : ClassFile) : Except ClassFileError Bytes := do
  let pool ← c.pool.write
  return Bytes.ofUInt32 magic ++ Bytes.ofUInt16 c.minor ++ Bytes.ofUInt16 c.major ++ pool ++
    Bytes.ofUInt16 c.access ++ Bytes.ofUInt16 c.thisClass ++ Bytes.ofUInt16 c.superClass ++
    Bytes.tableOf (c.interfaces.map Bytes.ofUInt16) ++ Bytes.tableOf (c.fields.map Member.bytes) ++
    Bytes.tableOf (c.methods.map Member.bytes) ++ Bytes.tableOf (c.attributes.map Attribute.bytes)

def className (c : ClassFile) : Except ClassFileError String :=
  (c.pool.className c.thisClass).map ClassName.source

end ClassFile

end StubLinker
