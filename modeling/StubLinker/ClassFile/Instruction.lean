import StubLinker.ClassFile.Reader
import StubLinker.Keyed

namespace StubLinker

/-- How the operands of an opcode are laid out. -/
inductive OperandLayout where
  | none
  | byte
  | short
  | increment
  | branch
  | wideBranch
  | tableSwitch
  | lookupSwitch
  | interfaceCall
  | dynamicCall
  | arrayType
  | multiArray
  | wide
  deriving DecidableEq, Repr

namespace OperandLayout

/-- The layouts, each with the first and the last opcode of a range that has it. -/
def ranges : List (Nat × Nat × OperandLayout) :=
  [(0, 15, none), (16, 16, byte), (17, 17, short), (18, 18, byte), (19, 20, short), (21, 25, byte),
    (26, 53, none), (54, 58, byte), (59, 131, none), (132, 132, increment), (133, 152, none),
    (153, 168, branch), (169, 169, byte), (170, 170, tableSwitch), (171, 171, lookupSwitch),
    (172, 177, none), (178, 184, short), (185, 185, interfaceCall), (186, 186, dynamicCall),
    (187, 187, short), (188, 188, arrayType), (189, 189, short), (190, 191, none),
    (192, 193, short), (194, 195, none), (196, 196, wide), (197, 197, multiArray),
    (198, 199, branch), (200, 201, wideBranch), (202, 202, none), (254, 255, none)]

/-- The layout of an opcode's operands, if there is such an opcode. -/
def ofOpcode? (opcode : UInt8) : Option OperandLayout :=
  (ranges.find? fun r => r.1 ≤ opcode.toNat && opcode.toNat ≤ r.2.1).map (·.2.2)

/-- An opcode that may follow the `wide` opcode and takes the number of a local variable. -/
def isWidened (opcode : UInt8) : Bool :=
  (21 ≤ opcode && opcode ≤ 25) || (54 ≤ opcode && opcode ≤ 58) || opcode = 169

end OperandLayout

/-- An instruction, by what its branches refer to. -/
inductive InstructionOf (τ : Type) where
  | plain (opcode : UInt8)
  | byte (opcode operand : UInt8)
  | short (opcode : UInt8) (operand : UInt16)
  | increment (slot delta : UInt8)
  | branch (opcode : UInt8) (target : τ)
  | wideBranch (opcode : UInt8) (target : τ)
  | tableSwitch (fallback : τ) (low high : UInt32) (targets : List τ)
  | lookupSwitch (fallback : τ) (cases : List (UInt32 × τ))
  | interfaceCall (member : UInt16) (count : UInt8)
  | dynamicCall (member : UInt16)
  | multiArray (className : UInt16) (dimensions : UInt8)
  | wide (opcode : UInt8) (slot : UInt16)
  | wideIncrement (slot delta : UInt16)
  deriving DecidableEq, Repr

namespace InstructionOf

/-- The instruction with each branch referring to something else. -/
def map {τ σ : Type} (f : τ → σ) : InstructionOf τ → InstructionOf σ
  | plain opcode => plain opcode
  | byte opcode operand => byte opcode operand
  | short opcode operand => short opcode operand
  | increment slot delta => increment slot delta
  | branch opcode target => branch opcode (f target)
  | wideBranch opcode target => wideBranch opcode (f target)
  | tableSwitch fallback low high targets => tableSwitch (f fallback) low high (targets.map f)
  | lookupSwitch fallback cases => lookupSwitch (f fallback) (cases.map fun c => (c.1, f c.2))
  | interfaceCall member count => interfaceCall member count
  | dynamicCall member => dynamicCall member
  | multiArray className dimensions => multiArray className dimensions
  | wide opcode slot => wide opcode slot
  | wideIncrement slot delta => wideIncrement slot delta

/-- The instruction with each branch referring to something else, unless one cannot. -/
def mapM {τ σ ε : Type} (f : τ → Except ε σ) : InstructionOf τ → Except ε (InstructionOf σ)
  | plain opcode => .ok (plain opcode)
  | byte opcode operand => .ok (byte opcode operand)
  | short opcode operand => .ok (short opcode operand)
  | increment slot delta => .ok (increment slot delta)
  | branch opcode target => branch opcode <$> f target
  | wideBranch opcode target => wideBranch opcode <$> f target
  | tableSwitch fallback low high targets => do
    return tableSwitch (← f fallback) low high (← targets.mapM f)
  | lookupSwitch fallback cases => do
    return lookupSwitch (← f fallback) (← cases.mapM fun c => Prod.mk c.1 <$> f c.2)
  | interfaceCall member count => .ok (interfaceCall member count)
  | dynamicCall member => .ok (dynamicCall member)
  | multiArray className dimensions => .ok (multiArray className dimensions)
  | wide opcode slot => .ok (wide opcode slot)
  | wideIncrement slot delta => .ok (wideIncrement slot delta)

/-- Whether the instruction chooses between branches by a number. -/
def isSwitch {τ : Type} : InstructionOf τ → Bool
  | tableSwitch _ _ _ _ => true
  | lookupSwitch _ _ => true
  | _ => false

/-- The instruction with each number of a switch once: the last branch that it gives counts. -/
def collapse {τ : Type} : InstructionOf τ → InstructionOf τ
  | lookupSwitch fallback cases => lookupSwitch fallback (Keyed.ofPairs cases)
  | other => other

/-- The zero bytes between the opcode of a switch at a position and its aligned operands. -/
def padding (position : Nat) : Nat :=
  3 - position % 4

def size {τ : Type} (position : Nat) : InstructionOf τ → Nat
  | plain _ => 1
  | byte _ _ => 2
  | short _ _ => 3
  | increment _ _ => 3
  | branch _ _ => 3
  | wideBranch _ _ => 5
  | tableSwitch _ _ _ targets => 13 + padding position + 4 * targets.length
  | lookupSwitch _ cases => 9 + padding position + 8 * cases.length
  | interfaceCall _ _ => 5
  | dynamicCall _ => 5
  | multiArray _ _ => 4
  | wide _ _ => 4
  | wideIncrement _ _ => 6

def shortOffset (offset : Int) : Bytes :=
  Bytes.ofUInt16 offset.toInt16.toUInt16

def longOffset (offset : Int) : Bytes :=
  Bytes.ofUInt32 offset.toInt32.toUInt32

/-- The bytes of an instruction at a position, given the offsets of its branches. -/
def bytes (position : Nat) : InstructionOf Int → Bytes
  | plain opcode => [opcode]
  | byte opcode operand => [opcode, operand]
  | short opcode operand => opcode :: Bytes.ofUInt16 operand
  | increment slot delta => [132, slot, delta]
  | branch opcode offset => opcode :: shortOffset offset
  | wideBranch opcode offset => opcode :: longOffset offset
  | tableSwitch fallback low high offsets =>
    170 :: List.replicate (padding position) 0 ++ longOffset fallback ++ Bytes.ofUInt32 low ++
      Bytes.ofUInt32 high ++ offsets.flatMap longOffset
  | lookupSwitch fallback cases =>
    171 :: List.replicate (padding position) 0 ++ longOffset fallback ++
      Bytes.ofUInt32 cases.length.toUInt32 ++
      cases.flatMap fun c => Bytes.ofUInt32 c.1 ++ longOffset c.2
  | interfaceCall member count => 185 :: Bytes.ofUInt16 member ++ [count, 0]
  | dynamicCall member => 186 :: Bytes.ofUInt16 member ++ [0, 0]
  | multiArray className dimensions => 197 :: Bytes.ofUInt16 className ++ [dimensions]
  | wide opcode slot => 196 :: opcode :: Bytes.ofUInt16 slot
  | wideIncrement slot delta => 196 :: 132 :: Bytes.ofUInt16 slot ++ Bytes.ofUInt16 delta

def readOffset : Reader Int := do
  let offset ← Reader.u32
  pure offset.toInt32.toInt

/-- Reads the instruction at a position. An offset of two bytes must not lead out of the positions
that two bytes can tell. -/
def read (position : Nat) : Reader (InstructionOf Int) := do
  let opcode ← Reader.byte
  let invalid : Reader (InstructionOf Int) := throw (.invalidOpcode opcode)
  match OperandLayout.ofOpcode? opcode with
  | none => invalid
  | some .none => pure (plain opcode)
  | some .byte => byte opcode <$> Reader.byte
  | some .short => short opcode <$> Reader.u16
  | some .increment => increment <$> Reader.byte <*> Reader.byte
  | some .branch =>
    let offset := (← Reader.u16).toInt16.toInt
    if position + offset < 0 then throw .numberTooSmall
    if 0xFFFF < position + offset then throw .numberTooLarge
    pure (branch opcode offset)
  | some .wideBranch => wideBranch opcode <$> readOffset
  | some .tableSwitch =>
    let _ ← Reader.bytes (padding position)
    let fallback ← readOffset
    let low ← Reader.u32
    let high ← Reader.u32
    let count := (high.toInt32.toInt - low.toInt32.toInt + 1).toNat
    tableSwitch fallback low high <$> Reader.times count readOffset
  | some .lookupSwitch =>
    let _ ← Reader.bytes (padding position)
    let fallback ← readOffset
    let count ← Reader.u32
    lookupSwitch fallback <$>
      Reader.times count.toInt32.toInt.toNat (Prod.mk <$> Reader.u32 <*> readOffset)
  | some .interfaceCall =>
    let member ← Reader.u16
    let count ← Reader.byte
    let filler ← Reader.byte
    if filler ≠ 0 then invalid else pure (interfaceCall member count)
  | some .dynamicCall =>
    let member ← Reader.u16
    let filler ← Reader.u16
    if filler ≠ 0 then invalid else pure (dynamicCall member)
  | some .arrayType =>
    let code ← Reader.byte
    if 4 ≤ code && code ≤ 11 then pure (byte opcode code) else throw (.invalidArrayType code)
  | some .multiArray => multiArray <$> Reader.u16 <*> Reader.byte
  | some .wide =>
    let widened ← Reader.byte
    if widened = 132 then wideIncrement <$> Reader.u16 <*> Reader.u16
    else if OperandLayout.isWidened widened then wide widened <$> Reader.u16
    else throw (.invalidWideOpcode widened)

/-- Reads instructions from a position to the end of the bytes. Each takes a byte at least, so
`fuel` need not exceed the number of bytes. -/
def readFrom : (fuel : Nat) → (position : Nat) → Bytes →
    Except ClassFileError (List (InstructionOf Int))
  | _, _, [] => .ok []
  | 0, _, _ :: _ => .ok []
  | fuel + 1, position, b :: bs =>
    if 0xFFFF < position then .error .numberTooLarge
    else
      match read position (b :: bs) with
      | .error e => .error e
      | .ok (i, rest) =>
        match readFrom fuel (position + i.size position) rest with
        | .error e => .error e
        | .ok is => .ok (i :: is)

end InstructionOf

end StubLinker
