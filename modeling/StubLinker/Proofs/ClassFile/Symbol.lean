import StubLinker.Proofs.ClassFile.Pool

namespace StubLinker

/-- An instruction of a body with its constants resolved. -/
inductive Symbol where
  | load (family : Family) (slot : UInt16)
  | checkCast (className : String)
  | new (className : String)
  | dup
  | getField (member : MemberKey)
  | getStatic (member : MemberKey)
  | putField (member : MemberKey)
  | putStatic (member : MemberKey)
  | invokeSpecial (member : MemberKey)
  | invokeStatic (member : MemberKey)
  | invokeVirtual (member : MemberKey)
  | invokeInterface (member : MemberKey) (count : UInt8)
  | ret (family : Option Family)
  deriving DecidableEq, Repr

namespace Family

def ofNumber? : Nat → Option Family
  | 0 => some int
  | 1 => some long
  | 2 => some float
  | 3 => some double
  | 4 => some reference
  | _ => none

@[simp] theorem ofNumber?_number (f : Family) : ofNumber? f.number = some f := by
  cases f <;> rfl

theorem number_lt (f : Family) : f.number < 5 := by
  cases f <;> decide

end Family

namespace MemberRef

def key (m : MemberRef) (kind : MemberKind) : MemberKey :=
  ⟨kind, m.owner, m.name, m.descriptor⟩

end MemberRef

namespace Op

/-- What an operation says, up to the family of its type. A load of `void` says nothing. -/
def symbol? : Op → Option Symbol
  | load t slot => (Family.ofType? t).map (.load · slot)
  | checkCast name => some (.checkCast name)
  | new name => some (.new name)
  | dup => some .dup
  | getField m => some (.getField (m.key .field))
  | getStatic m => some (.getStatic (m.key .field))
  | putField m => some (.putField (m.key .field))
  | putStatic m => some (.putStatic (m.key .field))
  | invokeSpecial m => some (.invokeSpecial (m.key .method))
  | invokeStatic m => some (.invokeStatic (m.key .method))
  | invokeVirtual m => some (.invokeVirtual (m.key .method))
  | invokeInterface m => some (.invokeInterface (m.key .interfaceMethod) (m.argumentSlots + 1).toUInt8)
  | «return» t => some (.ret (Family.ofType? t))

end Op

namespace Instruction

def plainSymbol? (opcode : Nat) : Option Symbol :=
  if opcode = 89 then some .dup
  else if opcode = 177 then some (.ret none)
  else if 172 ≤ opcode then (Family.ofNumber? (opcode - 172)).map fun f => .ret (some f)
  else if 26 ≤ opcode then
    (Family.ofNumber? ((opcode - 26) / 4)).map (.load · ((opcode - 26) % 4).toUInt16)
  else none

def loadSymbol? (opcode : Nat) (slot : UInt16) : Option Symbol :=
  if 21 ≤ opcode then (Family.ofNumber? (opcode - 21)).map (.load · slot) else none

def constantSymbol? (p : Pool) (opcode : UInt8) (index : UInt16) : Option Symbol :=
  match opcode.toNat with
  | 178 => (p.member? index).map .getStatic
  | 179 => (p.member? index).map .putStatic
  | 180 => (p.member? index).map .getField
  | 181 => (p.member? index).map .putField
  | 182 => (p.member? index).map .invokeVirtual
  | 183 => (p.member? index).map .invokeSpecial
  | 184 => (p.member? index).map .invokeStatic
  | 187 => (p.className index).toOption.map .new
  | 192 => (p.className index).toOption.map .checkCast
  | _ => none

/-- What an instruction says, with its constants resolved against a pool. -/
def symbol? (p : Pool) : Instruction → Option Symbol
  | .plain opcode => plainSymbol? opcode.toNat
  | .byte opcode slot => loadSymbol? opcode.toNat slot.toUInt16
  | .wide opcode slot => loadSymbol? opcode.toNat slot
  | .short opcode index => constantSymbol? p opcode index
  | .interfaceCall index count => (p.member? index).map (.invokeInterface · count)
  | _ => none

theorem symbol?_load (p : Pool) (f : Family) (slot : UInt16) :
    symbol? p (f.load slot) = some (.load f slot) := by
  have hf := f.number_lt
  unfold Family.load
  split
  · rename_i hslot
    have hslot : slot.toNat < 4 := UInt16.lt_iff_toNat_lt.1 hslot
    have hopcode : (26 + 4 * f.number + slot.toNat).toUInt8.toNat = 26 + 4 * f.number + slot.toNat :=
      Nat.mod_eq_of_lt (by omega)
    have hdiv : (26 + 4 * f.number + slot.toNat - 26) / 4 = f.number := by omega
    have hmod : (26 + 4 * f.number + slot.toNat - 26) % 4 = slot.toNat := by omega
    rw [symbol?, hopcode, plainSymbol?, if_neg (by omega), if_neg (by omega), if_neg (by omega),
      if_pos (by omega), hdiv, hmod, Family.ofNumber?_number, Nat.toUInt16_eq, UInt16.ofNat_toNat]
    rfl
  have hopcode : (21 + f.number).toUInt8.toNat = 21 + f.number := Nat.mod_eq_of_lt (by omega)
  split
  · rename_i hslot
    have hslot : slot.toNat ≤ 0xFF := UInt16.le_iff_toNat_le.1 hslot
    have hbyte : slot.toUInt8.toUInt16 = slot := by
      apply UInt16.toNat.inj
      show slot.toNat % 256 = slot.toNat
      omega
    rw [symbol?, hopcode, loadSymbol?, if_pos (by omega), Nat.add_sub_cancel_left,
      Family.ofNumber?_number, hbyte]
    rfl
  · rw [symbol?, hopcode, loadSymbol?, if_pos (by omega), Nat.add_sub_cancel_left,
      Family.ofNumber?_number]
    rfl

theorem symbol?_ret (p : Pool) (t : JavaType) :
    symbol? p (Instruction.ret t) = some (.ret (Family.ofType? t)) := by
  unfold Instruction.ret
  cases Family.ofType? t with
  | none => rfl
  | some f =>
    have hplain : plainSymbol? (172 + f.number).toUInt8.toNat = some (.ret (some f)) := by
      cases f <;> decide
    exact hplain

theorem symbol?_of_extends {p q : Pool} {i : Instruction} {s : Symbol} (h : p.Extends q)
    (hs : symbol? p i = some s) : symbol? q i = some s := by
  have hmember {index : UInt16} {make : MemberKey → Symbol}
      (hm : (p.member? index).map make = some s) : (q.member? index).map make = some s := by
    obtain ⟨key, hk, rfl⟩ := Option.map_eq_some_iff.1 hm
    rw [h.member?_some hk]
    rfl
  have hclass {index : UInt16} {make : String → Symbol}
      (hc : (p.className index).toOption.map make = some s) :
      (q.className index).toOption.map make = some s := by
    cases hp : p.className index with
    | error e =>
      rw [hp] at hc
      cases hc
    | ok name =>
      rw [hp] at hc
      rw [h.className_ok hp]
      exact hc
  cases i with
  | short opcode index =>
    unfold symbol? constantSymbol? at hs ⊢
    dsimp only at hs ⊢
    split at hs
    case h_8 => exact hclass hs
    case h_9 => exact hclass hs
    case h_10 => cases hs
    -- the other opcodes with a constant refer to a member
    all_goals exact hmember hs
  | interfaceCall index count => exact hmember hs
  | plain opcode => exact hs
  | byte opcode slot => exact hs
  | wide opcode slot => exact hs
  | _ => cases hs

end Instruction

end StubLinker
