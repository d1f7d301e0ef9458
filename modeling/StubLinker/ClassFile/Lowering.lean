import StubLinker.ClassFile.Basic

namespace StubLinker

/-- The families of types that share their load and return instructions. -/
inductive Family where
  | int
  | long
  | float
  | double
  | reference
  deriving DecidableEq, Repr

namespace Family

def ofType? : JavaType → Option Family
  | .void => none
  | .primitive .long => some long
  | .primitive .float => some float
  | .primitive .double => some double
  | .primitive _ => some int
  | .object _ => some reference
  | .array _ => some reference

def number : Family → Nat
  | int => 0
  | long => 1
  | float => 2
  | double => 3
  | reference => 4

/-- The shortest instruction that loads a local variable of the family. -/
def load (f : Family) (slot : UInt16) : Instruction :=
  if slot < 4 then .plain (26 + 4 * f.number + slot.toNat).toUInt8
  else if slot ≤ 0xFF then .byte (21 + f.number).toUInt8 slot.toUInt8
  else .wide (21 + f.number).toUInt8 slot

end Family

namespace Instruction

def load (t : JavaType) (slot : UInt16) : Except ClassFileError Instruction :=
  match Family.ofType? t with
  | some f => .ok (f.load slot)
  | none => .error .loadOfVoid

def ret (t : JavaType) : Instruction :=
  match Family.ofType? t with
  | some f => .plain (172 + f.number).toUInt8
  | none => .plain 177

end Instruction

/-- The kinds of member constants. -/
inductive MemberKind where
  | field
  | method
  | interfaceMethod
  deriving DecidableEq, Repr

/-- The constant of a member of a kind, from the indices of its owner and of its name and type. -/
def MemberKind.constant : MemberKind → UInt16 → UInt16 → Constant
  | field => .fieldref
  | method => .methodref
  | interfaceMethod => .interfaceMethodref

/-- What identifies a member constant. -/
structure MemberKey where
  kind : MemberKind
  owner : String
  name : String
  descriptor : String
  deriving DecidableEq, Repr

/-- A pool with the indices of the class and member constants that were added to it. -/
structure SharedPool where
  pool : Pool := {}
  classes : List (String × UInt16) := []
  members : List (MemberKey × UInt16) := []
  deriving DecidableEq, Repr

/-- A step that may add constants. One that fails leaves the constants that it added before. -/
abbrev Lowering := ExceptT ClassFileError (StateM SharedPool)

namespace Lowering

def add (c : Constant) : Lowering UInt16 := do
  let index ← liftM (← get).pool.next
  modify fun shared => { shared with pool := shared.pool.push c }
  pure index

def classIndex (name : String) : Lowering UInt16 := do
  match (← get).classes.lookup name with
  | some index => pure index
  | none =>
    let text ← add (.utf8 name)
    let index ← add (.classInfo text)
    modify fun shared => { shared with classes := (name, index) :: shared.classes }
    pure index

def memberIndex (kind : MemberKind) (m : MemberRef) : Lowering UInt16 := do
  let key : MemberKey := ⟨kind, m.owner, m.name, m.descriptor⟩
  match (← get).members.lookup key with
  | some index => pure index
  | none =>
    let owner ← classIndex m.owner
    let name ← add (.utf8 m.name)
    let descriptor ← add (.utf8 m.descriptor)
    let nameAndType ← add (.nameAndType name descriptor)
    let index ← add (kind.constant owner nameAndType)
    modify fun shared => { shared with members := (key, index) :: shared.members }
    pure index

def onClass (opcode : UInt8) (name : String) : Lowering Instruction := do
  return .short opcode (← classIndex name)

def onMember (opcode : UInt8) (kind : MemberKind) (m : MemberRef) : Lowering Instruction := do
  return .short opcode (← memberIndex kind m)

/-- The instruction that an operation is lowered to. A call of an interface method counts the slots
that it pops, in one byte. -/
def lower (op : Op) : Lowering Instruction :=
  match op with
  | .load t slot => liftM (Instruction.load t slot)
  | .checkCast name => onClass 192 name
  | .new name => onClass 187 name
  | .dup => pure (.plain 89)
  | .getField m => onMember 180 .field m
  | .getStatic m => onMember 178 .field m
  | .putField m => onMember 181 .field m
  | .putStatic m => onMember 179 .field m
  | .invokeSpecial m => onMember 183 .method m
  | .invokeStatic m => onMember 184 .method m
  | .invokeVirtual m => onMember 182 .method m
  | .invokeInterface m => do
    if 0xFF < op.pops then throw (.tooManyArguments m)
    return .interfaceCall (← memberIndex .interfaceMethod m) op.pops.toUInt8
  | .return t => pure (.ret t)

def lowerAll : List Op → Lowering (List Instruction)
  | [] => pure []
  | op :: ops => do
    let instruction ← lower op
    let rest ← lowerAll ops
    pure (instruction :: rest)

end Lowering

end StubLinker
