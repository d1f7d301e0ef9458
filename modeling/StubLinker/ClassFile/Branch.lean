import StubLinker.ClassFile.Instruction

namespace StubLinker

/-- An instruction whose branches refer to instructions by their numbers. -/
abbrev Instruction := InstructionOf Nat

/-- The positions at which the instructions of a code start, in order. -/
abbrev Starts := Array Nat

namespace Starts

/-- The positions of instructions of which the first starts at a position. -/
def listFrom {τ : Type} (position : Nat) : List (InstructionOf τ) → List Nat
  | [] => []
  | i :: is => position :: listFrom (position + i.size position) is

def ofCode {τ : Type} (code : List (InstructionOf τ)) : Starts :=
  (listFrom 0 code).toArray

def number (starts : Starts) (position : Nat) : Except ClassFileError Nat :=
  match starts.idxOf? position with
  | some n => .ok n
  | none => .error (.invalidOffset position)

/-- The number of the last instruction that starts at a position or before it. -/
def numberUpTo (starts : Starts) (position : Nat) : Nat :=
  starts.countP (· ≤ position) - 1

def position (starts : Starts) (number : Nat) : Nat :=
  starts.getD number 0

def positionBytes (starts : Starts) (number : Nat) : Bytes :=
  Bytes.ofUInt16 (starts.position number).toUInt16

end Starts

namespace Instruction

/-- The number of the instruction that an offset leads to from a position. The branches of a switch
only lead forward. -/
def target (starts : Starts) (position : Nat) (isSwitch : Bool) (offset : Int) :
    Except ClassFileError Nat := do
  if isSwitch && offset < 0 then throw .numberTooSmall
  if position + offset < 0 then throw .numberTooSmall
  if 0xFFFF < position + offset then throw .numberTooLarge
  starts.number (position + offset).toNat

def resolve (starts : Starts) (position : Nat) (i : InstructionOf Int) :
    Except ClassFileError Instruction :=
  i.collapse.mapM (target starts position i.isSwitch)

/-- The instructions of a method's code, and the positions at which they were found. -/
def decode (code : Bytes) : Except ClassFileError (List Instruction × Starts) := do
  let found ← InstructionOf.readFrom code.length 0 code
  let positions := Starts.listFrom 0 found
  let starts := positions.toArray
  let instructions ← (positions.zip found).mapM fun p => resolve starts p.1 p.2
  return (instructions, starts)

def bytes (starts : Starts) (position : Nat) (i : Instruction) : Bytes :=
  (i.map fun n => (starts.position n : Int) - position).bytes position

def encode (code : List Instruction) : Bytes :=
  let positions := Starts.listFrom 0 code
  let starts := positions.toArray
  (positions.zip code).flatMap fun p => bytes starts p.1 p.2

end Instruction

end StubLinker
