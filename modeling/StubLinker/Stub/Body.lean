import StubLinker.Stub.Shape

namespace StubLinker

/-- What a member reference points at. -/
inductive MemberType where
  | field (type : JavaType)
  | method (type : MethodDescriptor)
  deriving DecidableEq, Repr

/-- A field or method, named by its owner, its name and its type. -/
structure MemberRef where
  owner : String
  name : String
  type : MemberType
  deriving DecidableEq, Repr

namespace MemberRef

def descriptor (m : MemberRef) : String :=
  match m.type with
  | .field t => t.descriptor
  | .method d => d.display

def display (m : MemberRef) : String :=
  match m.type with
  | .field t => s!"{m.owner}.{m.name}:{t.descriptor}"
  | .method d => s!"{m.owner}.{m.name}{d.display}"

def fieldSlots (m : MemberRef) : UInt16 :=
  match m.type with
  | .field t => t.slots
  | .method _ => 0

def argumentSlots (m : MemberRef) : UInt16 :=
  match m.type with
  | .field _ => 0
  | .method d => d.parameterSlots

def resultSlots (m : MemberRef) : UInt16 :=
  match m.type with
  | .field _ => 0
  | .method d => d.returns.slots

end MemberRef

/-- A symbolic instruction. -/
inductive Op where
  | load (type : JavaType) (slot : UInt16)
  | checkCast (className : String)
  | new (className : String)
  | dup
  | getField (member : MemberRef)
  | getStatic (member : MemberRef)
  | putField (member : MemberRef)
  | putStatic (member : MemberRef)
  | invokeSpecial (member : MemberRef)
  | invokeStatic (member : MemberRef)
  | invokeVirtual (member : MemberRef)
  | invokeInterface (member : MemberRef)
  | return (type : JavaType)
  deriving DecidableEq, Repr

namespace Op

def pops : Op → UInt16
  | load _ _ => 0
  | checkCast _ => 1
  | new _ => 0
  | dup => 1
  | getField _ => 1
  | getStatic _ => 0
  | putField m => 1 + m.fieldSlots
  | putStatic m => m.fieldSlots
  | invokeSpecial m => m.argumentSlots + 1
  | invokeStatic m => m.argumentSlots
  | invokeVirtual m => m.argumentSlots + 1
  | invokeInterface m => m.argumentSlots + 1
  | «return» t => t.slots

def pushes : Op → UInt16
  | load t _ => t.slots
  | checkCast _ => 1
  | new _ => 1
  | dup => 2
  | getField m => m.fieldSlots
  | getStatic m => m.fieldSlots
  | putField _ => 0
  | putStatic _ => 0
  | invokeSpecial m => m.resultSlots
  | invokeStatic m => m.resultSlots
  | invokeVirtual m => m.resultSlots
  | invokeInterface m => m.resultSlots
  | «return» _ => 0

def display : Op → String
  | load t slot => s!"load {t.descriptor} {slot}"
  | checkCast className => "checkcast " ++ className
  | new className => "new " ++ className
  | dup => "dup"
  | getField m => "getfield " ++ m.display
  | getStatic m => "getstatic " ++ m.display
  | putField m => "putfield " ++ m.display
  | putStatic m => "putstatic " ++ m.display
  | invokeSpecial m => "invokespecial " ++ m.display
  | invokeStatic m => "invokestatic " ++ m.display
  | invokeVirtual m => "invokevirtual " ++ m.display
  | invokeInterface m => "invokeinterface " ++ m.display
  | «return» t => "return " ++ t.descriptor

end Op

/-- The stack depth after an instruction. One that pops more than there is empties the stack. -/
def Op.depthAfter (depth : UInt16) (op : Op) : UInt16 :=
  (if op.pops ≤ depth then depth - op.pops else 0) + op.pushes

/-- The greatest stack depth that the instructions reach from a depth on, or `highest` if that is
more. -/
def stackDepthFrom (depth highest : UInt16) : List Op → UInt16
  | [] => highest
  | op :: ops =>
    let depth := op.depthAfter depth
    stackDepthFrom depth (max highest depth) ops

/-- The greatest stack depth that the instructions reach, in slots. -/
def maxStackDepth (ops : List Op) : UInt16 :=
  stackDepthFrom 0 0 ops

/-- The body of a method, with the stack and local slots it declares. -/
structure Body where
  ops : List Op
  maxStack : UInt16
  maxLocals : UInt16
  deriving DecidableEq, Repr

namespace LinkPlan

/-- Loads the parameters from a slot on. Where the target takes another class than the stub, the
parameter is cast. -/
def loads (slot : UInt16) : List JavaType → List JavaType → List Op
  | declared :: ds, actual :: as =>
    let cast :=
      if declared = actual then []
      else
        match actual.className? with
        | some className => [Op.checkCast className]
        | none => []
    .load declared slot :: cast ++ loads (slot + declared.slots) ds as
  | _, _ => []

/-- The types of the arguments that the target member takes besides its receiver. -/
def arguments (p : LinkPlan) : List JavaType :=
  if p.operation.takesReceiver then p.effective.parameters.drop 1 else p.effective.parameters

def memberName (p : LinkPlan) : String :=
  if p.operation = .constructInstance then "<init>" else p.member.getD ""

/-- The target member, and the type of what reaching it leaves on the stack. -/
def access (p : LinkPlan) : Op × JavaType :=
  let field (t : JavaType) : MemberRef := ⟨p.owner, p.memberName, .field t⟩
  let method (t : JavaType) : MemberRef := ⟨p.owner, p.memberName, .method ⟨p.arguments, t⟩⟩
  let written := p.effective.parameters.getLast?.getD .void
  let returned := p.effective.returns
  match p.operation with
  | .readInstanceField => (.getField (field returned), returned)
  | .readStaticField => (.getStatic (field returned), returned)
  | .writeInstanceField => (.putField (field written), .void)
  | .writeStaticField => (.putStatic (field written), .void)
  | .constructInstance => (.invokeSpecial (method .void), p.target)
  | .invokeStaticMethod => (.invokeStatic (method returned), returned)
  | .invokeInstanceMethod => (.invokeVirtual (method returned), returned)
  | .invokeInterfaceMethod => (.invokeInterface (method returned), returned)

def box (p : Primitive) : Op :=
  .invokeStatic ⟨p.wrapper, "valueOf", .method ⟨[.primitive p], .object p.wrapper⟩⟩

/-- Turns a value of the produced type into one of the declared return type. Every reference is an
`Object`; any other difference between references is narrowed by a cast. -/
def adapt (produced declared : JavaType) : List Op :=
  if !declared.isReference then []
  else
    let boxing := (produced.boxed?.map box).toList
    let produced := (produced.boxed?.map fun p => JavaType.object p.wrapper).getD produced
    if produced.isReference && produced != declared && declared != .object ClassName.object then
      boxing ++ (declared.className?.map Op.checkCast).toList
    else boxing

def body (p : LinkPlan) : Body :=
  let opening := if p.operation = .constructInstance then [Op.new p.owner, .dup] else []
  let loading := loads 0 p.declared.parameters p.effective.parameters
  let closing := adapt p.access.2 p.declared.returns ++ [.return p.declared.returns]
  let ops := opening ++ loading ++ p.access.1 :: closing
  ⟨ops, maxStackDepth ops, p.declared.parameterSlots⟩

end LinkPlan

end StubLinker
