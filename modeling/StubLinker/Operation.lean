import StubLinker.JavaType.Basic

namespace StubLinker

/-- What a linked stub does to its target class. -/
inductive Operation where
  | readInstanceField
  | readStaticField
  | writeInstanceField
  | writeStaticField
  | constructInstance
  | invokeInterfaceMethod
  | invokeStaticMethod
  | invokeInstanceMethod
  deriving DecidableEq, Repr

namespace Operation

def all : List Operation :=
  [readInstanceField, readStaticField, writeInstanceField, writeStaticField, constructInstance,
    invokeInterfaceMethod, invokeStaticMethod, invokeInstanceMethod]

def name : Operation → String
  | readInstanceField => "ReadInstanceField"
  | readStaticField => "ReadStaticField"
  | writeInstanceField => "WriteInstanceField"
  | writeStaticField => "WriteStaticField"
  | constructInstance => "ConstructInstance"
  | invokeInterfaceMethod => "InvokeInterfaceMethod"
  | invokeStaticMethod => "InvokeStaticMethod"
  | invokeInstanceMethod => "InvokeInstanceMethod"

/-- The simple name of the annotation that selects the operation. -/
def markerName : Operation → String
  | readInstanceField => "GetField"
  | readStaticField => "GetStatic"
  | writeInstanceField => "PutField"
  | writeStaticField => "PutStatic"
  | constructInstance => "InvokeConstructor"
  | invokeInterfaceMethod => "InvokeInterface"
  | invokeStaticMethod => "InvokeStatic"
  | invokeInstanceMethod => "InvokeVirtual"

def isFieldAccess : Operation → Bool
  | readInstanceField => true
  | readStaticField => true
  | writeInstanceField => true
  | writeStaticField => true
  | _ => false

/-- Every operation but construction names a member of its target. -/
def requiresMember (o : Operation) : Bool :=
  o != constructInstance

/-- Whether the stub's first parameter is the instance operated on. -/
def takesReceiver : Operation → Bool
  | readInstanceField => true
  | writeInstanceField => true
  | invokeInterfaceMethod => true
  | invokeInstanceMethod => true
  | _ => false

/-- The spelling of the member field that belongs to this kind of operation alone. -/
def memberAlias? (o : Operation) : Option String :=
  if o.isFieldAccess then some "fieldName"
  else if o.requiresMember then some "methodName"
  else none

end Operation

/-- An annotation that carries meaning: one that selects an operation, or one that overrides a
type. -/
inductive Marker where
  | operation (o : Operation)
  | typeOverride
  deriving DecidableEq, Repr

namespace Marker

def all : List Marker :=
  Operation.all.map operation ++ [typeOverride]

def simpleName : Marker → String
  | operation o => o.markerName
  | typeOverride => "TypeName"

def display (m : Marker) : String :=
  "@" ++ m.simpleName

end Marker

end StubLinker
