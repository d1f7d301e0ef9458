import StubLinker.Proofs.ClassFile.Lowering

namespace StubLinker

/-- There is no number left for another constant. -/
def Pool.Full (p : Pool) : Prop :=
  0xFFFF ≤ p.size

theorem Pool.next_eq_error_iff {p : Pool} : p.next = .error .numberTooLarge ↔ p.Full := by
  unfold next Full
  split <;> simp <;> omega

namespace Op

def refusal? : Op → Option ClassFileError
  | load .void _ => some .loadOfVoid
  | op => op.crowded?.map .tooManyArguments

/-- The slots that a call of an interface method pops. -/
def interfaceSlots? : Op → Option Nat
  | invokeInterface m => some (m.argumentSlots + 1).toNat
  | _ => none

end Op

def Instruction.interfaceSlots? : Instruction → Option Nat
  | .interfaceCall _ count => some count.toNat
  | _ => none

namespace Lowering

variable {α β : Type} {x step : Lowering α} {f : α → Lowering β} {mid post : α → Prop}
  {refuses : ClassFileError → Prop}

/-- From any pool and any cached numbers, a step gives a result with `post`, or fails: either the pool
that it leaves is full and the next number was asked for, or `refuses` holds of the error. -/
def Ends (step : Lowering α) (post : α → Prop) (refuses : ClassFileError → Prop) : Prop :=
  ∀ s r t, runOn step s = (r, t) →
    match r with
    | .ok a => post a
    | .error e => e = .numberTooLarge ∧ t.pool.Full ∨ refuses e

theorem ends_pure {a : α} (h : post a) : (pure a : Lowering α).Ends post refuses := by
  rintro s r t ⟨⟩
  exact h

theorem ends_throw {e : ClassFileError} (h : refuses e) :
    (throw e : Lowering α).Ends post refuses := by
  rintro s r t ⟨⟩
  exact .inr h

theorem Ends.mono {refuses' : ClassFileError → Prop} {post' : α → Prop}
    (h : step.Ends post refuses) (hp : ∀ a, post a → post' a) (hr : ∀ e, refuses e → refuses' e) :
    step.Ends post' refuses' := by
  intro s r t hrun
  have hends := h s r t hrun
  cases r with
  | ok a => exact hp a hends
  | error e => exact hends.imp_right (hr e)

theorem Ends.bind {post : β → Prop} (hx : x.Ends mid refuses)
    (hf : ∀ a, mid a → (f a).Ends post refuses) : (x >>= f).Ends post refuses := by
  intro s r t hrun
  rw [runOn_bind] at hrun
  cases hxs : runOn x s with
  | mk rx u =>
    have hends := hx s rx u hxs
    rw [hxs] at hrun
    cases rx with
    | error e =>
      cases hrun
      exact hends
    | ok a => exact hf a hends u r t hrun

theorem ends_get : (get : Lowering SharedPool).Ends (fun _ => True) refuses := by
  rintro s r t ⟨⟩
  trivial

theorem ends_modify (f : SharedPool → SharedPool) :
    (modify f : Lowering PUnit).Ends (fun _ => True) refuses := by
  rintro s r t ⟨⟩
  trivial

theorem ends_add (c : Constant) : (add c).Ends (fun _ => True) refuses := by
  intro s r t hrun
  rw [runOn_add] at hrun
  cases hn : s.pool.next with
  | ok index =>
    rw [hn] at hrun
    cases hrun
    trivial
  | error e =>
    rw [hn] at hrun
    cases hrun
    obtain rfl := Pool.next_eq_error hn
    exact .inl ⟨rfl, Pool.next_eq_error_iff.1 hn⟩

theorem ends_classIndex (name : String) : (classIndex name).Ends (fun _ => True) refuses := by
  apply ends_get.bind
  intro s _
  cases s.classes.lookup name with
  | some index => exact ends_pure trivial
  | none =>
    apply (ends_add _).bind
    intro text _
    apply (ends_add _).bind
    intro index _
    exact (ends_modify _).bind fun _ _ => ends_pure trivial

theorem ends_memberIndex (kind : MemberKind) (m : MemberRef) :
    (memberIndex kind m).Ends (fun _ => True) refuses := by
  apply ends_get.bind
  intro s _
  cases s.members.lookup ⟨kind, m.owner, m.name, m.descriptor⟩ with
  | some index => exact ends_pure trivial
  | none =>
    apply (ends_classIndex m.owner).bind
    intro owner _
    apply (ends_add _).bind
    intro name _
    apply (ends_add _).bind
    intro descriptor _
    apply (ends_add _).bind
    intro nameAndType _
    apply (ends_add _).bind
    intro index _
    exact (ends_modify _).bind fun _ _ => ends_pure trivial

theorem ends_onClass (opcode : UInt8) (name : String) :
    (onClass opcode name).Ends (fun i => i.interfaceSlots? = none) refuses :=
  (ends_classIndex name).bind fun _ _ => ends_pure rfl

theorem ends_onMember (opcode : UInt8) (kind : MemberKind) (m : MemberRef) :
    (onMember opcode kind m).Ends (fun i => i.interfaceSlots? = none) refuses :=
  (ends_memberIndex kind m).bind fun _ _ => ends_pure rfl

/-- An instruction counts the slots that its operation pops, and only calls of interface methods
carry a count. -/
theorem ends_lower (op : Op) :
    (lower op).Ends (fun i => i.interfaceSlots? = op.interfaceSlots?)
      fun e => op.refusal? = some e := by
  cases op with
  | load t slot =>
    rw [lower, Instruction.load]
    cases hf : Family.ofType? t with
    | some f =>
      refine ends_pure ?_
      unfold Family.load
      split
      · rfl
      split <;> rfl
    | none =>
      -- void alone belongs to no family of instructions
      have ht : t = .void := by
        cases t with
        | void => rfl
        | primitive p => cases p <;> cases hf
        | object n => cases hf
        | array c => cases hf
      subst ht
      exact ends_throw rfl
  | checkCast name => exact ends_onClass _ name
  | new name => exact ends_onClass _ name
  | dup => exact ends_pure rfl
  | getField m => exact ends_onMember _ _ m
  | getStatic m => exact ends_onMember _ _ m
  | putField m => exact ends_onMember _ _ m
  | putStatic m => exact ends_onMember _ _ m
  | invokeSpecial m => exact ends_onMember _ _ m
  | invokeStatic m => exact ends_onMember _ _ m
  | invokeVirtual m => exact ends_onMember _ _ m
  | invokeInterface m =>
    rw [lower]
    by_cases hm : 0xFF < (Op.invokeInterface m).pops
    · rw [if_pos hm]
      have hcrowded : (Op.invokeInterface m).crowded? = some m := if_pos hm
      exact ends_throw (congrArg (Option.map ClassFileError.tooManyArguments) hcrowded)
    · rw [if_neg hm]
      refine (ends_memberIndex .interfaceMethod m).bind fun index _ => ends_pure ?_
      have hle : (Op.invokeInterface m).pops.toNat ≤ 0xFF :=
        UInt16.le_iff_toNat_le.1 (UInt16.not_lt.1 hm)
      have hcount : (Op.invokeInterface m).pops.toUInt8.toNat = (Op.invokeInterface m).pops.toNat :=
        Nat.mod_eq_of_lt (by omega)
      exact congrArg some hcount
  | «return» t =>
    refine ends_pure ?_
    unfold Instruction.ret
    split <;> rfl

theorem ends_lowerAll (ops : List Op) :
    (lowerAll ops).Ends
      (fun is => is.filterMap Instruction.interfaceSlots? = ops.filterMap Op.interfaceSlots?)
      fun e => ∃ op ∈ ops, op.refusal? = some e := by
  induction ops with
  | nil => exact ends_pure rfl
  | cons op ops ih =>
    apply ((ends_lower op).mono (fun _ h => h) fun e he => ⟨op, List.mem_cons_self .., he⟩).bind
    intro i hi
    apply (ih.mono (fun _ h => h) ?_).bind
    · intro is his
      refine ends_pure ?_
      rw [List.filterMap_cons, List.filterMap_cons, hi, his]
    · rintro e ⟨op', hop', he⟩
      exact ⟨op', List.mem_cons_of_mem op hop', he⟩

def Exhausts (step : Lowering α) : Prop :=
  ∀ s t, runOn step s = (.error .numberTooLarge, t) → t.pool.Full

theorem Ends.exhausts (h : step.Ends post refuses) (hr : ¬refuses .numberTooLarge) :
    step.Exhausts :=
  fun s t hrun => ((h s _ t hrun).resolve_right hr).2

theorem exhausts_pure (a : α) : (pure a : Lowering α).Exhausts := by
  have h : (pure a : Lowering α).Ends (fun _ => True) fun _ => False := ends_pure trivial
  exact h.exhausts id

theorem exhausts_add (c : Constant) : (add c).Exhausts := by
  have h : (add c).Ends (fun _ => True) fun _ => False := ends_add c
  exact h.exhausts id

theorem Exhausts.bind (hx : x.Exhausts) (hf : ∀ a, (f a).Exhausts) : (x >>= f).Exhausts := by
  intro s t h
  rcases runOn_bind_eq_error.1 h with h | ⟨a, u, -, h⟩
  · exact hx s t h
  · exact hf a u t h

theorem exhausts_lowerAll (ops : List Op) : (lowerAll ops).Exhausts := by
  apply (ends_lowerAll ops).exhausts
  rintro ⟨op, -, hop⟩
  unfold Op.refusal? at hop
  split at hop
  · cases hop
  · obtain ⟨m, -, hm⟩ := Option.map_eq_some_iff.1 hop
    cases hm

end Lowering

end StubLinker
