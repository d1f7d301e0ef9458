import StubLinker.JavaType.ClassName

namespace StubLinker

/-- The eight primitive types. -/
inductive Primitive where
  | boolean
  | byte
  | char
  | short
  | int
  | long
  | float
  | double
  deriving DecidableEq, Repr

namespace Primitive

def all : List Primitive :=
  [boolean, byte, char, short, int, long, float, double]

def letter : Primitive → Char
  | boolean => 'Z'
  | byte => 'B'
  | char => 'C'
  | short => 'S'
  | int => 'I'
  | long => 'J'
  | float => 'F'
  | double => 'D'

def keyword : Primitive → String
  | boolean => "boolean"
  | byte => "byte"
  | char => "char"
  | short => "short"
  | int => "int"
  | long => "long"
  | float => "float"
  | double => "double"

def ofLetter? : Char → Option Primitive
  | 'Z' => some boolean
  | 'B' => some byte
  | 'C' => some char
  | 'S' => some short
  | 'I' => some int
  | 'J' => some long
  | 'F' => some float
  | 'D' => some double
  | _ => none

def ofKeyword? (word : String) : Option Primitive :=
  all.find? fun p => p.keyword == word

/-- A `long` or a `double` takes two slots, every other primitive one. -/
def slots : Primitive → UInt16
  | long => 2
  | double => 2
  | _ => 1

def wrapper : Primitive → String
  | boolean => "java/lang/Boolean"
  | byte => "java/lang/Byte"
  | char => "java/lang/Character"
  | short => "java/lang/Short"
  | int => "java/lang/Integer"
  | long => "java/lang/Long"
  | float => "java/lang/Float"
  | double => "java/lang/Double"

end Primitive

/-- A type of the virtual machine. Class names are kept as they were read. -/
inductive JavaType where
  | void
  | primitive (p : Primitive)
  | object (name : String)
  | array (component : JavaType)
  deriving DecidableEq, Repr

namespace JavaType

def descriptorChars : JavaType → List Char
  | void => ['V']
  | primitive p => [p.letter]
  | object name => 'L' :: (name.toList ++ [';'])
  | array component => '[' :: component.descriptorChars

def descriptor (t : JavaType) : String :=
  String.ofList t.descriptorChars

@[simp] theorem toList_descriptor (t : JavaType) : t.descriptor.toList = t.descriptorChars := by
  simp [descriptor]

def display : JavaType → String
  | void => "void"
  | primitive p => p.keyword
  | object name => ClassName.source name
  | array component => component.display ++ "[]"

/-- The local variable and operand stack slots that a value of the type takes. -/
def slots : JavaType → UInt16
  | void => 0
  | primitive p => p.slots
  | _ => 1

def isReference : JavaType → Bool
  | object _ => true
  | array _ => true
  | _ => false

def isPrimitive : JavaType → Bool
  | primitive _ => true
  | _ => false

/-- The name of a reference type in a class constant: a class by its name, an array by its
descriptor. -/
def className? : JavaType → Option String
  | object name => some name
  | array component => some (array component).descriptor
  | _ => none

def boxed? : JavaType → Option Primitive
  | primitive p => some p
  | _ => none

theorem className?_isSome (t : JavaType) : t.className?.isSome = t.isReference := by
  cases t <;> rfl

theorem descriptorChars_ne_nil (t : JavaType) : t.descriptorChars ≠ [] := by
  cases t <;> simp [descriptorChars]

end JavaType

end StubLinker
