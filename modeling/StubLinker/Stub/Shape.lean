import StubLinker.Stub.Directive

namespace StubLinker

/-- How a method is declared: its access flags, its types and the failures it declares. -/
structure Shape where
  access : UInt16
  descriptor : MethodDescriptor
  failures : List String
  deriving DecidableEq, Repr

/-- A stub that passed every rule. The `effective` types describe the target member, the `declared`
ones the stub itself. -/
structure LinkPlan where
  operation : Operation
  target : JavaType
  owner : String
  member : Option String
  declared : MethodDescriptor
  effective : MethodDescriptor
  deriving DecidableEq, Repr

namespace Shape

def staticMask : UInt16 :=
  0x0008

def isStatic (s : Shape) : Bool :=
  s.access &&& staticMask != 0

def has (s : Shape) (m : Modifier) : Bool :=
  s.access &&& m.mask != 0

/-- The parameter types from an index on, each replaced by its override. -/
def overrideFrom (overrides : List (Nat × JavaType)) (index : Nat) : List JavaType → List JavaType
  | [] => []
  | t :: ts => (overrides.lookup index).getD t :: overrideFrom overrides (index + 1) ts

def effective (s : Shape) (d : Directive) : MethodDescriptor where
  parameters := overrideFrom d.parameterOverrides 0 s.descriptor.parameters
  returns := d.returnOverride.getD s.descriptor.returns

/-- A parameter may be given another type only among references. -/
def allowsParameter (declared actual : JavaType) : Bool :=
  declared == actual || (declared.isReference && actual.isReference)

/-- A return value may be given another type if the declared one is a reference, or if either is
`void`. -/
def allowsReturn (declared actual : JavaType) : Bool :=
  declared == actual || actual == .void || declared == .void ||
    (declared.isReference && (actual.isReference || actual.boxed?.isSome))

/-- The first parameter, by its index from `index` on, whose override is not allowed. -/
def refusedParameter? (index : Nat) : List JavaType → List JavaType → Option Nat
  | t :: ts, u :: us => if allowsParameter t u then refusedParameter? (index + 1) ts us else some index
  | _, _ => none

/-- The rules of an operation on the shape of its stub, in the order in which they are checked. -/
def rules (o : Operation) (target : JavaType) (declared effective : MethodDescriptor) :
    List (Bool × ShapeRule) :=
  let count := declared.parameters.length
  let receives := (effective.parameters.head? == some target, .firstParameterIsTarget)
  let yields := (effective.returns != .void, .returnsValue)
  let silent := (declared.returns == .void, .returnsVoid)
  let passes := (effective.returns != .void || declared.returns == .void, .returnsVoidWithTarget)
  match o with
  | .readInstanceField => [(count == 1, .takesOneParameter), receives, yields]
  | .readStaticField => [(count == 0, .takesNoParameters), yields]
  | .writeInstanceField => [(count == 2, .takesTwoParameters), receives, silent]
  | .writeStaticField => [(count == 1, .takesOneParameter), silent]
  | .constructInstance =>
    [(!(target matches .array _), .targetIsNotArray),
      (!declared.returns.isPrimitive, .returnsReferenceOrVoid)]
  | .invokeInterfaceMethod => [(1 ≤ count, .takesReceiver), receives, passes]
  | .invokeInstanceMethod => [(1 ≤ count, .takesReceiver), receives, passes]
  | .invokeStaticMethod => [passes]

def brokenRule? (rules : List (Bool × ShapeRule)) : Option ShapeRule :=
  (rules.find? fun r => !r.1).map (·.2)

/-- Checks a method against its directive. The rules are checked in a fixed order and the first one
that is broken is the fault. -/
def plan (s : Shape) (d : Directive) (failure : String) : Except StubFault LinkPlan := do
  if !s.isStatic then throw .notStatic
  if let some m := Modifier.all.find? s.has then throw (.disallowedModifier m)
  if !s.failures.contains failure then throw (.undeclaredFailure failure)
  let some target := d.target | throw (.missingTarget d.operation)
  let broken := StubFault.brokenRule d.operation
  let some owner := target.className? | throw (broken .targetIsReference)
  let count := s.descriptor.parameters.length
  if let some (index, _) := d.parameterOverrides.find? (count ≤ ·.1) then
    throw (broken (.overrideInRange index count))
  let effective := s.effective d
  if let some index := refusedParameter? 0 s.descriptor.parameters effective.parameters then
    throw (broken (.overrideKeepsPrimitive (.parameter index)))
  if !allowsReturn s.descriptor.returns effective.returns then
    throw (broken (.overrideKeepsPrimitive .returnValue))
  if let some rule := brokenRule? (rules d.operation target s.descriptor effective) then
    throw (broken rule)
  return ⟨d.operation, target, owner, d.member, s.descriptor, effective⟩

end Shape

end StubLinker
