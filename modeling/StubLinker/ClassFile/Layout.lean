import StubLinker.ClassFile.AccessMask
import StubLinker.ClassFile.ModifiedUtf8
import StubLinker.ClassFile.Reader

namespace StubLinker.Layout

/-- The bytes of an annotation, given how an element value is read. -/
def annotationUse (value : Reader Bytes) : Reader Bytes :=
  Reader.both (Reader.bytes 2) (Reader.tableBytes (Reader.both (Reader.bytes 2) value))

/-- The bytes of an element value. A value inside another takes a byte at least, so `fuel` need not
exceed the number of bytes. -/
def elementValue : (fuel : Nat) → Reader Bytes
  | 0 => throw .endOfFile
  | fuel + 1 => do
    let tag ← Reader.byte
    let rest ←
      if "BCDFIJSZsc".toList.contains (Char.ofNat tag.toNat) then Reader.bytes 2
      else if tag = 101 then Reader.bytes 4
      else if tag = 64 then annotationUse (elementValue fuel)
      else if tag = 91 then Reader.tableBytes (elementValue fuel)
      else throw (.invalidElementTag tag)
    pure (tag :: rest)

/-- The bytes of a reader that is bounded by the number of bytes left. -/
def bounded (r : Nat → Reader Bytes) : Reader Bytes := fun bs =>
  r (bs.length + 1) bs

def typeTarget : Reader Bytes := do
  let target ← Reader.byte
  let rest ←
    if target ≤ 0x01 || target = 0x16 then Reader.bytes 1
    else if target = 0x10 || target = 0x17 || (0x42 ≤ target && target ≤ 0x46) then Reader.bytes 2
    else if target = 0x11 || target = 0x12 then Reader.bytes 2
    else if 0x13 ≤ target && target ≤ 0x15 then pure []
    else if target = 0x40 || target = 0x41 then Reader.tableBytes (Reader.bytes 6)
    else if 0x47 ≤ target && target ≤ 0x4B then Reader.bytes 3
    else throw (.invalidTypeTarget target)
  pure (target :: rest)

def typeAnnotationUse : Reader Bytes :=
  Reader.both typeTarget (Reader.both (Reader.shortTableBytes (Reader.bytes 2))
    (annotationUse (bounded elementValue)))

/-- The bytes of access flags, of which only those of a mask are kept. -/
def flags (mask : UInt16) : Reader Bytes := do
  let given ← Reader.u16
  pure (Bytes.ofUInt16 (given &&& mask))

def sequence : List (Reader Bytes) → Reader Bytes
  | [] => pure []
  | first :: rest => Reader.both first (sequence rest)

def module : Reader Bytes :=
  let index := Reader.bytes 2
  let requirement := sequence [index, flags AccessMask.ofRequirement, index]
  let exported := sequence [index, flags AccessMask.ofExport, Reader.tableBytes index]
  let provided := sequence [index, Reader.tableBytes index]
  sequence [index, flags AccessMask.ofModule, index, Reader.tableBytes requirement,
    Reader.tableBytes exported, Reader.tableBytes exported, Reader.tableBytes index,
    Reader.tableBytes provided]

/-- The bytes of text, which is written in its own encoding again. -/
def text (length : Nat) : Reader Bytes := do
  match ModifiedUtf8.decode? (← Reader.bytes length) with
  | some text => pure (ModifiedUtf8.encode text)
  | none => throw .invalidText

/-- The length that an attribute has to have, for the attributes whose length is checked. -/
def fixedLength? (name : String) : Option Nat :=
  if ["ConstantValue", "Signature", "SourceFile", "NestHost", "ModuleMainClass"].contains name then
    some 2
  else if name = "EnclosingMethod" then some 4
  else if name = "Synthetic" || name = "Deprecated" then some 0
  else none

/-- How the bytes of an attribute with a known name and a length are laid out. `nested` reads the
bytes of an attribute inside another. -/
def ofName? (nested : Reader Bytes) (name : String) (length : Nat) : Option (Reader Bytes) :=
  match name with
  | "LocalVariableTable" => some (Reader.tableBytes (Reader.bytes 10))
  | "LocalVariableTypeTable" => some (Reader.tableBytes (Reader.bytes 10))
  | "InnerClasses" =>
    some (Reader.tableBytes (Reader.both (Reader.bytes 6) (flags AccessMask.ofInnerClass)))
  | "NestMembers" => some (Reader.tableBytes (Reader.bytes 2))
  | "PermittedSubclasses" => some (Reader.tableBytes (Reader.bytes 2))
  | "ModulePackages" => some (Reader.tableBytes (Reader.bytes 2))
  | "BootstrapMethods" =>
    some (Reader.tableBytes (Reader.both (Reader.bytes 2) (Reader.tableBytes (Reader.bytes 2))))
  | "MethodParameters" =>
    some (Reader.shortTableBytes (Reader.both (Reader.bytes 2) (flags AccessMask.ofMethod)))
  | "Module" => some module
  | "SourceDebugExtension" => some (text length)
  | "Record" => some (Reader.tableBytes (Reader.both (Reader.bytes 4) (Reader.tableBytes nested)))
  | "AnnotationDefault" => some (bounded elementValue)
  | "RuntimeVisibleTypeAnnotations" => some (Reader.tableBytes typeAnnotationUse)
  | "RuntimeInvisibleTypeAnnotations" => some (Reader.tableBytes typeAnnotationUse)
  | _ => none

end StubLinker.Layout
