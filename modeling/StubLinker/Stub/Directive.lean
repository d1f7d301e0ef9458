import StubLinker.Settings
import StubLinker.Stub.Fault

namespace StubLinker

/-- The value of an annotation element, reduced to what a directive can use. -/
inductive AnnotationValue where
  | text (value : String)
  | classLiteral (descriptor : String)
  | other
  deriving DecidableEq, Repr

/-- An annotation, with its elements in the order in which they are stored. -/
structure AnnotationUse where
  type : String
  elements : List (String × AnnotationValue)
  deriving DecidableEq, Repr

/-- The annotations of a method and, by position, of its parameters. -/
structure MethodAnnotations where
  method : List AnnotationUse := []
  parameters : List (List AnnotationUse) := []
  deriving DecidableEq, Repr

/-- The parsed intent of a stub. Overrides of parameters are kept by ascending index. -/
structure Directive where
  operation : Operation
  target : Option JavaType
  member : Option String
  parameterOverrides : List (Nat × JavaType)
  returnOverride : Option JavaType
  deriving DecidableEq, Repr

def readTypeName (name : String) : Except StubFault JavaType :=
  (JavaType.ofSource name).mapError (.invalidTypeName name)

namespace Operation

/-- The one field that an element of the operation's marker fills: both spellings of the member
name are the same field. -/
def fieldOf (o : Operation) (element : String) : String :=
  if o.requiresMember && (element == "memberName" || some element == o.memberAlias?) then
    "memberName"
  else element

/-- What the elements of an operation's marker have said so far. -/
structure Reading where
  classConstant : Option JavaType := none
  className : Option JavaType := none
  member : Option String := none
  seen : List String := []

def readElement (o : Operation) (r : Reading) (element : String × AnnotationValue) :
    Except StubFault Reading :=
  let field := o.fieldOf element.1
  let malformed := StubFault.malformedField (.operation o) element.1
  if r.seen.contains field then .error (.repeatedField (.operation o) element.1)
  else
    let r := { r with seen := field :: r.seen }
    if element.1 = "classConstant" then
      match element.2 with
      | .classLiteral descriptor =>
        if descriptor = "V" then .ok r
        else
          match JavaType.ofDescriptor descriptor with
          | .error cause => .error (.invalidTypeName descriptor cause)
          | .ok t => .ok { r with classConstant := some t }
      | _ => .error (malformed .classLiteral)
    else if element.1 = "className" then
      match element.2 with
      | .text name =>
        if name.isEmpty then .ok r
        else
          match readTypeName name with
          | .error fault => .error fault
          | .ok t => .ok { r with className := some t }
      | _ => .error (malformed .text)
    else if field = "memberName" && o.requiresMember then
      match element.2 with
      | .text name => .ok { r with member := some name }
      | _ => .error (malformed .text)
    else .error (.unknownField (.operation o) element.1)

/-- Reads the target class and the member name from the elements of the operation's marker. -/
def readElements (o : Operation) (elements : List (String × AnnotationValue)) :
    Except StubFault (Option JavaType × Option String) := do
  let r ← elements.foldlM o.readElement {}
  let member := r.member.filter fun name => !name.isEmpty
  if r.classConstant.isSome && r.className.isSome then throw (.conflictingTarget o)
  if o.requiresMember && member.isNone then throw (.missingMember o)
  return (r.classConstant.or r.className, member)

end Operation

namespace Directive

def readOverrideElement (found : Option JavaType) (element : String × AnnotationValue) :
    Except StubFault (Option JavaType) :=
  if element.1 ≠ "value" then .error (.unknownField .typeOverride element.1)
  else if found.isSome then .error (.repeatedField .typeOverride element.1)
  else
    match element.2 with
    | .text name => (readTypeName name).map some
    | _ => .error (.malformedField .typeOverride element.1 .text)

def readOverride (elements : List (String × AnnotationValue)) : Except StubFault JavaType := do
  match ← elements.foldlM readOverrideElement none with
  | some t => return t
  | none => throw (.malformedField .typeOverride "value" .present)

/-- What the annotations of a method have said so far. -/
structure Reading where
  operation : Option (Operation × Option JavaType × Option String) := none
  returnOverride : Option JavaType := none

def readOnMethod (settings : Settings) (r : Reading) (a : AnnotationUse) :
    Except StubFault Reading :=
  match settings.marker? a.type with
  | some (.operation o) =>
    match r.operation with
    | some (first, _) => .error (.duplicateOperation first o)
    | none => (o.readElements a.elements).map fun found => { r with operation := some (o, found) }
  | some .typeOverride =>
    if r.returnOverride.isSome then .error (.duplicateOverride .returnValue)
    else (readOverride a.elements).map fun t => { r with returnOverride := some t }
  | none => .ok r

def readOnParameter (settings : Settings) (index : Nat) (found : Option JavaType)
    (a : AnnotationUse) : Except StubFault (Option JavaType) :=
  if settings.marker? a.type = some .typeOverride then
    if found.isSome then .error (.duplicateOverride (.parameter index))
    else (readOverride a.elements).map some
  else .ok found

def readParameters (settings : Settings) (index : Nat) :
    List (List AnnotationUse) → Except StubFault (List (Nat × JavaType))
  | [] => .ok []
  | annotations :: rest => do
    let found ← annotations.foldlM (readOnParameter settings index) none
    let later ← readParameters settings (index + 1) rest
    match found with
    | some t => return (index, t) :: later
    | none => return later

/-- The directive of a method, if its annotations make it a stub. A type override on a method that
is no stub is a fault. -/
def collect (settings : Settings) (annotations : MethodAnnotations) :
    Except StubFault (Option Directive) := do
  let r ← annotations.method.foldlM (readOnMethod settings) {}
  let overrides ← readParameters settings 0 annotations.parameters
  match r.operation, overrides, r.returnOverride with
  | some (o, target, member), _, _ => return some ⟨o, target, member, overrides, r.returnOverride⟩
  | none, (index, _) :: _, _ => throw (.danglingOverride (.parameter index))
  | none, [], some _ => throw (.danglingOverride .returnValue)
  | none, [], none => return none

end Directive

end StubLinker
