import StubLinker.Proofs.Stub.Slots

namespace StubLinker

theorem toNat_max_slots (a b : UInt16) : (max a b).toNat = max a.toNat b.toNat := by
  have hmax : max a b = if a ≤ b then b else a := rfl
  rw [hmax]
  split
  · rename_i h
    exact (Nat.max_eq_right (UInt16.le_iff_toNat_le.1 h)).symm
  · rename_i h
    exact (Nat.max_eq_left (Nat.le_of_lt (UInt16.lt_iff_toNat_lt.1 (UInt16.not_le.1 h)))).symm

namespace Op

/-- At a depth of the stack, the instruction finds the slots that it pops, and no sum of slots on the
way to the next depth wraps. -/
structure Fits (depth : UInt16) (op : Op) : Prop where
  found : op.popWidth ≤ depth.toNat
  room : depth.toNat - op.popWidth + op.pushes.toNat < 2 ^ 16

theorem Fits.toNat_depthAfter {depth : UInt16} {op : Op} (h : op.Fits depth) :
    (op.depthAfter depth).toNat = depth.toNat - op.popWidth + op.pushes.toNat := by
  have hpops : op.pops.toNat = op.popWidth := by
    rw [op.toNat_pops]
    exact Nat.mod_eq_of_lt (Nat.lt_of_le_of_lt h.found depth.toNat_lt)
  have hle : op.pops ≤ depth := by
    rw [UInt16.le_iff_toNat_le, hpops]
    exact h.found
  rw [depthAfter, if_pos hle, UInt16.toNat_add, UInt16.toNat_sub_of_le _ _ hle, hpops]
  exact Nat.mod_eq_of_lt h.room

/-- The depth that instructions leave an empty stack with. -/
def depthOf (ops : List Op) : UInt16 :=
  ops.foldl depthAfter 0

def load? : Op → Option (JavaType × Nat)
  | load t slot => some (t, slot.toNat)
  | _ => none

/-- The instructions take the stack from one depth to another. None of them pops more than there is,
and `peak` is the greatest depth on the way, the two ends included. -/
inductive Climbs : Nat → List Op → Nat → Nat → Prop where
  | nil (n : Nat) : Climbs n [] n n
  | cons {op : Op} {ops : List Op} {n k m peak : Nat} (hp : op.popWidth ≤ n)
      (hk : n - op.popWidth + op.pushes.toNat = k) (h : Climbs k ops m peak) :
      Climbs n (op :: ops) m (max n peak)

namespace Climbs

variable {op : Op} {ops rest : List Op} {n m k peak peak' : Nat} {depth highest : UInt16}

theorem start_le (h : Climbs n ops m peak) : n ≤ peak := by
  cases h with
  | nil => exact Nat.le_refl n
  | cons => exact Nat.le_max_left ..

theorem single (hp : op.popWidth ≤ n) (hm : n - op.popWidth + op.pushes.toNat = m) :
    Climbs n [op] m (max n m) :=
  .cons hp hm (.nil m)

theorem append (h : Climbs n ops m peak) (hr : Climbs m rest k peak') :
    Climbs n (ops ++ rest) k (max peak peak') := by
  induction h with
  | nil n =>
    rw [Nat.max_eq_right hr.start_le]
    exact hr
  | cons hp hk _ ih =>
    rw [Nat.max_assoc]
    exact .cons hp hk (ih hr)

/-- Below a peak of sixteen bits, the first instruction fits, and the count goes on exactly. -/
theorem fits_head (h : Climbs depth.toNat (op :: ops) m peak) (hpeak : peak < 2 ^ 16) :
    op.Fits depth ∧ ∃ rest, Climbs (op.depthAfter depth).toNat ops m rest ∧
      peak = max depth.toNat rest := by
  cases h with
  | cons hp hk h =>
    have hstart := h.start_le
    have hfits : op.Fits depth := ⟨hp, by omega⟩
    refine ⟨hfits, _, ?_, rfl⟩
    rwa [hfits.toNat_depthAfter, hk]

theorem toNat_stackDepthFrom (h : Climbs depth.toNat ops m peak) (hpeak : peak < 2 ^ 16)
    (hle : depth.toNat ≤ highest.toNat) :
    (stackDepthFrom depth highest ops).toNat = max highest.toNat peak := by
  induction ops generalizing depth highest peak with
  | nil =>
    cases h
    exact (Nat.max_eq_left hle).symm
  | cons op ops ih =>
    obtain ⟨-, rest, hrest, rfl⟩ := h.fits_head hpeak
    have hstart := hrest.start_le
    have hmax := toNat_max_slots highest (op.depthAfter depth)
    rw [stackDepthFrom, ih hrest (by omega) (by omega), hmax]
    omega

theorem toNat_maxStackDepth (h : Climbs 0 ops m peak) (hpeak : peak < 2 ^ 16) :
    (maxStackDepth ops).toNat = peak := by
  have hzero : (0 : UInt16).toNat = 0 := rfl
  have hstart : Climbs (0 : UInt16).toNat ops m peak := h
  rw [maxStackDepth, hstart.toNat_stackDepthFrom hpeak (Nat.le_refl _), hzero, Nat.zero_max]

theorem fits_of_prefix {front : List Op} (h : Climbs depth.toNat ops m peak)
    (hpeak : peak < 2 ^ 16) (hf : front ++ [op] <+: ops) :
    op.Fits (front.foldl depthAfter depth) := by
  induction ops generalizing front depth peak with
  | nil => cases front <;> cases List.prefix_nil.1 hf
  | cons first ops ih =>
    obtain ⟨hfits, rest, hrest, rfl⟩ := h.fits_head hpeak
    cases front with
    | nil =>
      obtain ⟨rfl, -⟩ := List.cons_prefix_cons.1 hf
      exact hfits
    | cons _ front =>
      obtain ⟨rfl, hfront⟩ := List.cons_prefix_cons.1 hf
      rw [List.foldl_cons]
      exact ih hrest (by omega) hfront

theorem foldl_depthAfter_le {front : List Op} (h : Climbs depth.toNat ops m peak)
    (hpeak : peak < 2 ^ 16) (hf : front <+: ops) : (front.foldl depthAfter depth).toNat ≤ peak := by
  induction ops generalizing front depth peak with
  | nil =>
    obtain rfl := List.prefix_nil.1 hf
    exact h.start_le
  | cons op ops ih =>
    obtain ⟨-, rest, hrest, rfl⟩ := h.fits_head hpeak
    rcases List.prefix_cons_iff.1 hf with rfl | ⟨front, rfl, hfront⟩
    · exact Nat.le_max_left ..
    · rw [List.foldl_cons]
      exact Nat.le_trans (ih hrest (by omega) hfront) (Nat.le_max_right ..)

theorem exists_foldl_depthAfter_eq (h : Climbs depth.toNat ops m peak) (hpeak : peak < 2 ^ 16) :
    ∃ front, front <+: ops ∧ (front.foldl depthAfter depth).toNat = peak := by
  induction ops generalizing depth peak with
  | nil =>
    cases h
    exact ⟨[], List.prefix_rfl, rfl⟩
  | cons op ops ih =>
    obtain ⟨-, rest, hrest, rfl⟩ := h.fits_head hpeak
    -- either nothing on the way is higher than the start, or the peak lies behind the first step
    by_cases hn : rest ≤ depth.toNat
    · exact ⟨[], List.nil_prefix, (Nat.max_eq_left hn).symm⟩
    · obtain ⟨front, hf, hdepth⟩ := ih hrest (by omega)
      refine ⟨op :: front, List.cons_prefix_cons.2 ⟨rfl, hf⟩, ?_⟩
      rw [List.foldl_cons, hdepth, Nat.max_eq_right (by omega)]

end Climbs

end Op

end StubLinker
