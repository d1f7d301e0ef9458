import StubLinker.ClassFile.Constant
import StubLinker.ClassFile.Frame
import StubLinker.ClassFile.Layout

namespace StubLinker

/-- The value of an annotation element. Only text and class literals are told apart; any other value
is kept as its bytes. -/
inductive RawValue where
  | text (index : UInt16)
  | classLiteral (index : UInt16)
  | other (bytes : Bytes)
  deriving DecidableEq, Repr

/-- An annotation, with its type, element names and values as indices into the pool. -/
structure RawAnnotationUse where
  type : UInt16
  elements : List (UInt16 × RawValue)
  deriving DecidableEq, Repr

/-- A range of code and the instruction that handles an exception thrown in it. The range is given
by the number of its first instruction and of the last one that starts up to its end. -/
structure Handler where
  start : Nat
  stop : Nat
  handler : Nat
  type : UInt16
  deriving DecidableEq, Repr

/-- An attribute that is kept as its name and its bytes. -/
structure RawAttribute where
  name : UInt16
  info : Bytes
  deriving DecidableEq, Repr

/-- An attribute of code, with the index of its name. Lines and frames stand with the numbers of
their instructions. -/
inductive CodeAttribute where
  | lineNumbers (name : UInt16) (lines : List (Nat × UInt16))
  | stackMap (name : UInt16) (frames : List (Nat × Frame))
  | other (kept : RawAttribute)
  deriving DecidableEq, Repr

/-- The code of a method. -/
structure Code where
  maxStack : UInt16
  maxLocals : UInt16
  instructions : List Instruction
  handlers : List Handler
  attributes : List CodeAttribute
  deriving DecidableEq, Repr

/-- An attribute, with the index of its name. Lines stand with their positions, frames with their
distances. -/
inductive Attribute where
  | annotations (name : UInt16) (entries : List RawAnnotationUse)
  | parameterAnnotations (name : UInt16) (parameters : List (List RawAnnotationUse))
  | exceptions (name : UInt16) (classes : List UInt16)
  | code (name : UInt16) (body : Code)
  | lineNumbers (name : UInt16) (lines : List (UInt16 × UInt16))
  | stackMap (name : UInt16) (frames : List (Nat × Frame))
  | other (kept : RawAttribute)
  deriving DecidableEq, Repr

def RawValue.read : Reader RawValue
  | 115 :: a :: b :: rest => .ok (.text (Bytes.toUInt16 a b), rest)
  | 99 :: a :: b :: rest => .ok (.classLiteral (Bytes.toUInt16 a b), rest)
  | bs => (RawValue.other <$> Layout.bounded Layout.elementValue : Reader RawValue) bs

def RawValue.bytes : RawValue → Bytes
  | text index => 115 :: Bytes.ofUInt16 index
  | classLiteral index => 99 :: Bytes.ofUInt16 index
  | other bytes => bytes

namespace RawAnnotationUse

def read : Reader RawAnnotationUse := do
  let type ← Reader.u16
  let elements ← Reader.table (Prod.mk <$> Reader.u16 <*> RawValue.read)
  pure ⟨type, elements⟩

def bytes (a : RawAnnotationUse) : Bytes :=
  Bytes.ofUInt16 a.type ++ Bytes.tableOf (a.elements.map fun e => Bytes.ofUInt16 e.1 ++ e.2.bytes)

def listBytes (entries : List RawAnnotationUse) : Bytes :=
  Bytes.tableOf (entries.map bytes)

end RawAnnotationUse

namespace Handler

/-- Reads a handler. Its range and its position start at instructions; the range may end
anywhere. -/
def read (starts : Starts) : Reader Handler := do
  let start ← Reader.u16
  let stop ← Reader.u16
  let handler ← Reader.u16
  let type ← Reader.u16
  let start ← starts.number start.toNat
  let handler ← starts.number handler.toNat
  pure ⟨start, starts.numberUpTo stop.toNat, handler, type⟩

def bytes (starts : Starts) (h : Handler) : Bytes :=
  starts.positionBytes h.start ++ starts.positionBytes h.stop ++ starts.positionBytes h.handler ++
    Bytes.ofUInt16 h.type

end Handler

/-- The bytes of an attribute that is kept as its name and its bytes. -/
def RawAttribute.bytes (a : RawAttribute) : Bytes :=
  Bytes.ofUInt16 a.name ++ Bytes.ofUInt32 a.info.length.toUInt32 ++ a.info

/-- The attribute of code as its name and its bytes, given where the instructions start. -/
def CodeAttribute.raw (starts : Starts) : CodeAttribute → RawAttribute
  | lineNumbers name lines =>
    ⟨name, Bytes.tableOf (lines.map fun l => starts.positionBytes l.1 ++ Bytes.ofUInt16 l.2)⟩
  | stackMap name frames => ⟨name, Frame.mapBytes (Frame.place starts frames)⟩
  | other kept => kept

def Code.bytes (c : Code) : Bytes :=
  let code := Instruction.encode c.instructions
  let starts := Starts.ofCode c.instructions
  Bytes.ofUInt16 c.maxStack ++ Bytes.ofUInt16 c.maxLocals ++
    Bytes.ofUInt32 code.length.toUInt32 ++ code ++
    Bytes.tableOf (c.handlers.map (Handler.bytes starts)) ++
    Bytes.tableOf (c.attributes.map fun a => (a.raw starts).bytes)

namespace Attribute

def raw : Attribute → RawAttribute
  | annotations name entries => ⟨name, RawAnnotationUse.listBytes entries⟩
  | parameterAnnotations name parameters =>
    ⟨name, parameters.length.toUInt8 :: parameters.flatMap RawAnnotationUse.listBytes⟩
  | exceptions name classes => ⟨name, Bytes.tableOf (classes.map Bytes.ofUInt16)⟩
  | code name body => ⟨name, body.bytes⟩
  | lineNumbers name lines =>
    ⟨name, Bytes.tableOf (lines.map fun l => Bytes.ofUInt16 l.1 ++ Bytes.ofUInt16 l.2)⟩
  | stackMap name frames => ⟨name, Frame.mapBytes frames⟩
  | other kept => kept

def bytes (a : Attribute) : Bytes :=
  a.raw.bytes

/-- The attribute as one of code, given where the instructions start. Lines and frames have to lie
at instructions. -/
def ofCode (starts : Starts) : Attribute → Except ClassFileError CodeAttribute
  | lineNumbers name lines =>
    .lineNumbers name <$> lines.mapM fun l => (·, l.2) <$> starts.number l.1.toNat
  | stackMap name frames => .stackMap name <$> Frame.resolve starts frames
  | a => .ok (.other a.raw)

def readCode (nested : Reader Attribute) : Reader Code := do
  let maxStack ← Reader.u16
  let maxLocals ← Reader.u16
  let length ← Reader.u32
  let (instructions, starts) ← Instruction.decode (← Reader.bytes length.toNat)
  let handlers ← Reader.table (Handler.read starts)
  let attributes ← Reader.table do
    let a ← nested
    a.ofCode starts
  pure ⟨maxStack, maxLocals, instructions, handlers, attributes⟩

def readParameters (name : UInt16) : Reader Attribute := do
  let count ← Reader.byte
  parameterAnnotations name <$> Reader.times count.toNat (Reader.table RawAnnotationUse.read)

/-- Reads an attribute. An attribute inside another takes a byte at least, so `fuel` need not exceed
the number of bytes. -/
def read (pool : Pool) : (fuel : Nat) → Reader Attribute
  | 0 => throw .endOfFile
  | fuel + 1 => do
    let index ← Reader.u16
    let some (.utf8 name) := pool.get? index | throw (.invalidAttributeName index)
    let length ← Reader.u32
    match name with
    | "Code" => code index <$> readCode (read pool fuel)
    | "Exceptions" => exceptions index <$> Reader.table Reader.u16
    | "LineNumberTable" =>
      lineNumbers index <$> Reader.table (Prod.mk <$> Reader.u16 <*> Reader.u16)
    | "StackMapTable" =>
      Reader.ensure length.toNat
      stackMap index <$> Reader.table Frame.read
    | "RuntimeVisibleAnnotations" => annotations index <$> Reader.table RawAnnotationUse.read
    | "RuntimeInvisibleAnnotations" => annotations index <$> Reader.table RawAnnotationUse.read
    | "RuntimeVisibleParameterAnnotations" => readParameters index
    | "RuntimeInvisibleParameterAnnotations" => readParameters index
    | _ =>
      match Layout.fixedLength? name with
      | some expected =>
        if length.toNat ≠ expected then throw (.invalidAttributeLength length)
        (fun info => other ⟨index, info⟩) <$> Reader.bytes expected
      | none =>
        let nested := RawAttribute.bytes <$> Attribute.raw <$> read pool fuel
        let layout := (Layout.ofName? nested name length.toNat).getD (Reader.bytes length.toNat)
        (fun info => other ⟨index, info⟩) <$> layout

end Attribute

end StubLinker
