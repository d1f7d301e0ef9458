import Mathlib.Algebra.GroupWithZero.Nat
import StubLinker.Power
import StubLinker.Stub.Body

namespace StubLinker

namespace JavaType

/-- The slots of all the types. Unlike a count of sixteen bits, the sum does not wrap. -/
def width (ts : List JavaType) : Nat :=
  (ts.map fun t => t.slots.toNat).sum

@[simp] theorem width_nil : width [] = 0 :=
  rfl

@[simp] theorem width_cons (t : JavaType) (ts : List JavaType) :
    width (t :: ts) = t.slots.toNat + width ts :=
  List.sum_cons

theorem width_congr {ts us : List JavaType} (h : us.map slots = ts.map slots) :
    width us = width ts := by
  have hsum := congrArg (fun ws => (ws.map UInt16.toNat).sum) h
  simp only [List.map_map] at hsum
  exact hsum

theorem slots_le_two (t : JavaType) : t.slots.toNat ≤ 2 := by
  cases t with
  | void => decide
  | primitive p => cases p <;> decide
  | object n => exact Nat.le_succ 1
  | array c => exact Nat.le_succ 1

theorem slots_of_isReference {t : JavaType} (h : t.isReference = true) : t.slots = 1 := by
  cases t with
  | void => cases h
  | primitive p => cases h
  | object n => rfl
  | array c => rfl

theorem slots_of_className? {t : JavaType} {name : String} (h : t.className? = some name) :
    t.slots = 1 :=
  slots_of_isReference (by rw [← className?_isSome, h, Option.isSome_some])

theorem toNat_foldl_slots (n : UInt16) (ts : List JavaType) :
    ((ts.map slots).foldl (· + ·) n).toNat = (n.toNat + width ts) % 2 ^ 16 := by
  induction ts generalizing n with
  | nil => exact (Nat.mod_eq_of_lt n.toNat_lt).symm
  | cons t ts ih =>
    rw [List.map_cons, List.foldl_cons, ih, UInt16.toNat_add, Nat.mod_add_mod, width_cons,
      Nat.add_assoc]

end JavaType

theorem MethodDescriptor.toNat_parameterSlots (d : MethodDescriptor) :
    d.parameterSlots.toNat = JavaType.width d.parameters % 2 ^ 16 := by
  have hzero : (0 : UInt16).toNat = 0 := rfl
  rw [parameterSlots, JavaType.toNat_foldl_slots, hzero, Nat.zero_add]

def MemberRef.argumentWidth (m : MemberRef) : Nat :=
  match m.type with
  | .field _ => 0
  | .method d => JavaType.width d.parameters

theorem MemberRef.toNat_argumentSlots (m : MemberRef) :
    m.argumentSlots.toNat = m.argumentWidth % 2 ^ 16 := by
  unfold argumentSlots argumentWidth
  cases m.type with
  | field t => rfl
  | method d => exact d.toNat_parameterSlots

namespace Op

def popWidth : Op → Nat
  | putField m => 1 + m.fieldSlots.toNat
  | invokeSpecial m => m.argumentWidth + 1
  | invokeStatic m => m.argumentWidth
  | invokeVirtual m => m.argumentWidth + 1
  | invokeInterface m => m.argumentWidth + 1
  | op => op.pops.toNat

theorem toNat_pops (op : Op) : op.pops.toNat = op.popWidth % 2 ^ 16 := by
  have hcall (m : MemberRef) : (m.argumentSlots + 1).toNat = (m.argumentWidth + 1) % 2 ^ 16 := by
    have hone : (1 : UInt16).toNat = 1 := rfl
    rw [UInt16.toNat_add, m.toNat_argumentSlots, hone, Nat.mod_add_mod]
  have hword (n : UInt16) : n.toNat = n.toNat % 2 ^ 16 := (Nat.mod_eq_of_lt n.toNat_lt).symm
  cases op with
  | putField m => exact UInt16.toNat_add 1 m.fieldSlots
  | invokeSpecial m => exact hcall m
  | invokeStatic m => exact m.toNat_argumentSlots
  | invokeVirtual m => exact hcall m
  | invokeInterface m => exact hcall m
  | load t slot => rfl
  | checkCast name => rfl
  | new name => rfl
  | dup => rfl
  | getField m => rfl
  | getStatic m => rfl
  | putStatic m => exact hword m.fieldSlots
  | «return» t => exact hword t.slots

end Op

end StubLinker
