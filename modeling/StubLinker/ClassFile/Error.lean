import StubLinker.Stub.Body

namespace StubLinker

/-- What is wrong with a class file. Numbers are given as they stand in the file. -/
inductive ClassFileError where
  | endOfFile
  | invalidMagic (found : UInt32)
  | invalidVersion (major minor : UInt16)
  | invalidPoolCount
  | invalidConstantTag (tag : UInt8)
  | invalidReferenceKind (kind : UInt8)
  | invalidText
  | invalidAttributeName (index : UInt16)
  | invalidAttributeLength (length : UInt32)
  | invalidElementTag (tag : UInt8)
  | invalidTypeTarget (target : UInt8)
  | invalidFrameType (type : UInt8)
  | invalidVerificationTag (tag : UInt8)
  | invalidTypeCode (code : Char)
  | invalidTypeDescriptor (descriptor : String)
  | invalidOpcode (opcode : UInt8)
  | invalidWideOpcode (opcode : UInt8)
  | invalidArrayType (code : UInt8)
  | invalidOffset (offset : Nat)
  | invalidIndex (index : UInt16)
  | wrongConstant (index : UInt16)
  | numberTooSmall
  | numberTooLarge
  | loadOfVoid
  | tooManyArguments (member : MemberRef)
  deriving DecidableEq, Repr

def ClassFileError.message : ClassFileError → String
  | endOfFile => "IO error: failed to fill whole buffer"
  | invalidMagic found => s!"Invalid magic number: {found.toNat}"
  | invalidVersion major minor =>
    s!"Invalid version: major={major.toNat}; minor={minor.toNat}"
  | invalidPoolCount => "IO error: Invalid constant pool count"
  | invalidConstantTag tag => s!"Invalid constant tag: {tag.toNat}"
  | invalidReferenceKind kind => s!"Invalid reference kind: {kind.toNat}"
  | invalidText => "Invalid UTF-8 sequence: Invalid UTF-8 byte sequence"
  | invalidAttributeName index => s!"Invalid attribute name index: {index.toNat}"
  | invalidAttributeLength length => s!"Invalid attribute length: {length.toNat}"
  | invalidElementTag tag => s!"Invalid annotation element tag: {tag.toNat}"
  | invalidTypeTarget target => s!"Invalid target type code {target.toNat}"
  | invalidFrameType type => s!"Invalid stack frame type: {type.toNat}"
  | invalidVerificationTag tag => s!"Invalid verification type tag: {tag.toNat}"
  | invalidTypeCode code => s!"Invalid field type code {code}"
  | invalidTypeDescriptor descriptor => s!"Invalid field type descriptor {descriptor}"
  | invalidOpcode opcode => s!"Invalid instruction: {opcode.toNat}"
  | invalidWideOpcode opcode => s!"Invalid wide instruction: {opcode.toNat}"
  | invalidArrayType code => s!"Invalid array type code {code.toNat}"
  | invalidOffset offset => s!"Invalid instruction offset: {offset}"
  | invalidIndex index => s!"Invalid constant pool index {index.toNat}"
  | wrongConstant index => s!"Invalid constant pool index type {index.toNat}"
  | numberTooSmall => "number too small to fit in target type"
  | numberTooLarge => "number too large to fit in target type"
  | loadOfVoid => "load_instruction: Cannot load void type"
  | tooManyArguments member =>
    s!"lower: too many interface call arguments for {member.display}"

end StubLinker
