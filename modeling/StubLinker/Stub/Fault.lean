import StubLinker.Operation
import StubLinker.JavaType.Descriptor

namespace StubLinker

/-- Where a type override is attached. -/
inductive Position where
  | returnValue
  | parameter (index : Nat)
  deriving DecidableEq, Repr

def Position.display : Position → String
  | returnValue => "return value"
  | parameter index => s!"parameter {index}"

/-- A modifier that a stub must not carry. -/
inductive Modifier where
  | bridge
  | native
  | abstract
  | synthetic
  deriving DecidableEq, Repr

namespace Modifier

/-- The disallowed modifiers, in the order in which they are reported. -/
def all : List Modifier :=
  [bridge, native, abstract, synthetic]

def mask : Modifier → UInt16
  | bridge => 0x0040
  | native => 0x0100
  | abstract => 0x0400
  | synthetic => 0x1000

def display : Modifier → String
  | bridge => "a bridge method"
  | native => "native"
  | abstract => "abstract"
  | synthetic => "synthetic"

end Modifier

/-- A rule on the declared shape of a stub. -/
inductive ShapeRule where
  | takesNoParameters
  | takesOneParameter
  | takesTwoParameters
  | takesReceiver
  | firstParameterIsTarget
  | returnsValue
  | returnsVoid
  | returnsReferenceOrVoid
  | targetIsReference
  | targetIsNotArray
  | returnsVoidWithTarget
  | overrideInRange (index count : Nat)
  | overrideKeepsPrimitive (position : Position)
  deriving DecidableEq, Repr

def ShapeRule.message : ShapeRule → String
  | takesNoParameters => "must take no parameters"
  | takesOneParameter => "must take exactly one parameter"
  | takesTwoParameters => "must take exactly two parameters"
  | takesReceiver => "must take an instance of the target class as its first parameter"
  | firstParameterIsTarget => "first parameter must equal target class"
  | returnsValue => "must not return void"
  | returnsVoid => "must return void"
  | returnsReferenceOrVoid => "must return an object reference or void"
  | targetIsReference => "target class must be a class or array type"
  | targetIsNotArray => "target class must not be an array type"
  | returnsVoidWithTarget => "must return void when the target method returns void"
  | overrideInRange index count =>
    s!"type override on parameter {index} but the method takes {count}"
  | overrideKeepsPrimitive position =>
    s!"type override on {position.display} must not change a primitive type"

/-- What a field of a marker has to hold. -/
inductive Expected where
  | classLiteral
  | text
  | present
  deriving DecidableEq, Repr

def Expected.display : Expected → String
  | classLiteral => "a class literal"
  | text => "a string"
  | present => "present"

/-- Why a method is not a well-formed stub. -/
inductive StubFault where
  | duplicateOperation (first second : Operation)
  | duplicateOverride (position : Position)
  | conflictingTarget (operation : Operation)
  | missingTarget (operation : Operation)
  | missingMember (operation : Operation)
  | danglingOverride (position : Position)
  | notStatic
  | disallowedModifier (modifier : Modifier)
  | undeclaredFailure (failure : String)
  | brokenRule (operation : Operation) (rule : ShapeRule)
  | unknownField (marker : Marker) (field : String)
  | repeatedField (marker : Marker) (field : String)
  | malformedField (marker : Marker) (field : String) (expected : Expected)
  | invalidTypeName (name : String) (cause : DescriptorError)
  | malformedDescriptor (cause : DescriptorError)
  deriving DecidableEq, Repr

def StubFault.message (method : String) : StubFault → String
  | duplicateOperation first second =>
    let markers := s!"@{first.markerName} / @{second.markerName}"
    s!"method has a duplicate {markers} marker: {method}"
  | duplicateOverride position =>
    s!"method has a duplicate @TypeName on {position.display} marker: {method}"
  | conflictingTarget operation =>
    s!"@{operation.markerName} on {method} specifies both classConstant and className"
  | missingTarget operation =>
    s!"@{operation.markerName} on {method} specifies neither classConstant nor className"
  | missingMember operation =>
    s!"@{operation.markerName} on {method} is missing the name of its target member"
  | danglingOverride position =>
    s!"method has a type override on its {position.display} but no operation marker: {method}"
  | notStatic => s!"method must be static: {method}"
  | disallowedModifier modifier => s!"method must not be {modifier.display}: {method}"
  | undeclaredFailure failure =>
    s!"method must declare `throws {ClassName.source failure}`: {method}"
  | brokenRule operation rule => s!"@{operation.markerName} stub {method}: {rule.message}"
  | unknownField marker field => s!"unknown field `{field}` in {marker.display}: {method}"
  | repeatedField marker field =>
    s!"field `{field}` given more than once in {marker.display}: {method}"
  | malformedField marker field expected =>
    s!"field `{field}` in {marker.display} must be {expected.display}: {method}"
  | invalidTypeName name cause => s!"invalid type name `{name}` on {method}: {cause.message}"
  | malformedDescriptor cause => s!"malformed descriptor of {method}: {cause.message}"

end StubLinker
