import StubLinker.Proofs.JavaType.WellFormed
import StubLinker.Proofs.Stub.Slots

namespace StubLinker

namespace JavaType

def ofClassName? (name : String) : Option JavaType :=
  if name.toList.head? = some '[' then (ofDescriptor name).toOption
  else if ClassName.isValid name then some (.object name)
  else none

end JavaType

/-- What an operand is: a value, or one of the copies of an instance that awaits its constructor. -/
inductive Operand where
  | value (type : JavaType)
  | fresh (number : Nat) (className : String)
  deriving DecidableEq, Repr

namespace Operand

def slots : Operand → UInt16
  | value t => t.slots
  | fresh _ _ => 1

def initialise (n : Nat) : Operand → Operand
  | value t => value t
  | fresh k className => if k = n then value (.object className) else fresh k className

/-- What is left below operands of exactly these types, given from the top down. -/
def drop? : List JavaType → List Operand → Option (List Operand)
  | [], stack => some stack
  | t :: ts, value u :: stack => if t = u then drop? ts stack else none
  | _ :: _, _ => none

end Operand

namespace MemberRef

def fieldType? (m : MemberRef) : Option JavaType :=
  match m.type with
  | .field t => if t = .void then none else some t
  | .method _ => none

def methodType? (m : MemberRef) : Option MethodDescriptor :=
  match m.type with
  | .field _ => none
  | .method d => some d

def receiver? (m : MemberRef) : Option JavaType :=
  JavaType.ofClassName? m.owner

end MemberRef

/-- The state of the machine: the types of the locals by slot, the operands from the top of the
stack down, and how many instances were made. The second slot of a wide local has no type. -/
structure TypeFrame where
  locals : List (Option JavaType)
  stack : List Operand := []
  made : Nat := 0
  deriving DecidableEq, Repr

namespace TypeFrame

/-- The locals that hold values of these types from slot zero on. -/
def layOut (types : List JavaType) : List (Option JavaType) :=
  types.flatMap fun t => some t :: List.replicate (t.slots.toNat - 1) none

/-- The state in which a static method with these parameters starts. -/
def entry (parameters : List JavaType) : TypeFrame where
  locals := layOut parameters

/-- Takes operands of exactly these types, given from the top down, and leaves a result unless its
type is `void`. -/
def replace (f : TypeFrame) (taken : List JavaType) (result : JavaType) : Option TypeFrame :=
  (Operand.drop? taken f.stack).map fun stack =>
    { f with stack := if result = .void then stack else .value result :: stack }

/-- Takes the arguments of a constructor and the instance below them, all of whose copies are
initialised. -/
def construct (f : TypeFrame) (m : MemberRef) (arguments : List JavaType) : Option TypeFrame :=
  match Operand.drop? arguments.reverse f.stack with
  | some (.fresh n className :: stack) =>
    if className = m.owner then some { f with stack := stack.map (Operand.initialise n) } else none
  | _ => none

def call (f : TypeFrame) (m : MemberRef) : Option TypeFrame := do
  let d ← m.methodType?
  let receiver ← m.receiver?
  f.replace (d.parameters.reverse ++ [receiver]) d.returns

/-- One instruction. A return ends the machine, so it is no step. -/
def step (f : TypeFrame) : Op → Option TypeFrame
  | .load t slot => if f.locals[slot.toNat]? = some (some t) then f.replace [] t else none
  | .checkCast className =>
    match f.stack with
    | .value t :: stack =>
      if t.isReference then
        (JavaType.ofClassName? className).map fun u => { f with stack := .value u :: stack }
      else none
    | _ => none
  | .new className =>
    if JavaType.ofClassName? className = some (.object className) then
      some { f with stack := .fresh f.made className :: f.stack, made := f.made + 1 }
    else none
  | .dup =>
    match f.stack with
    | o :: stack => if o.slots = 1 then some { f with stack := o :: o :: stack } else none
    | [] => none
  | .getField m => do f.replace [← m.receiver?] (← m.fieldType?)
  | .getStatic m => do f.replace [] (← m.fieldType?)
  | .putField m => do f.replace [← m.fieldType?, ← m.receiver?] .void
  | .putStatic m => do f.replace [← m.fieldType?] .void
  | .invokeSpecial m =>
    if m.name = "<init>" then
      match m.methodType? with
      | some ⟨arguments, .void⟩ => f.construct m arguments
      | _ => none
    else f.call m
  | .invokeStatic m => do
    let d ← m.methodType?
    f.replace d.parameters.reverse d.returns
  | .invokeVirtual m => f.call m
  | .invokeInterface m => f.call m
  | .return _ => none

/-- Whether a value of the type can be returned. Any initialised reference is an `Object`. -/
def returns (f : TypeFrame) (t : JavaType) : Bool :=
  match f.stack with
  | .value u :: _ => t = .void || t = u || (t = .object ClassName.object && u.isReference)
  | _ => t = .void

/-- Runs a body up to the return at its end. With the type returned, or nothing if the machine is
stuck. -/
def run (f : TypeFrame) : List Op → Option JavaType
  | [] => none
  | [.return t] => if f.returns t then some t else none
  | op :: ops => (f.step op).bind fun g => g.run ops

end TypeFrame

end StubLinker
