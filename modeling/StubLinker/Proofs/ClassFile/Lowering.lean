import StubLinker.Proofs.ClassFile.Sharing
import StubLinker.Proofs.Stub.Plan

namespace StubLinker

/-- The member that a call cannot reach, because its slots do not fit in one byte. -/
def Op.crowded? (op : Op) : Option MemberRef :=
  match op with
  | .invokeInterface m => if 0xFF < op.pops then some m else none
  | _ => none

namespace Instruction

/-- The instructions say in a pool what the operations say, one for one. -/
def Say (ops : List Op) (p : Pool) (is : List Instruction) : Prop :=
  is.map (Instruction.symbol? p) = ops.map Op.symbol?

theorem Say.cons {op : Op} {ops : List Op} {p : Pool} {i : Instruction} {is : List Instruction}
    (hi : i.symbol? p = op.symbol?) (his : Say ops p is) : Say (op :: ops) p (i :: is) := by
  unfold Say at his ⊢
  rw [List.map_cons, List.map_cons, hi, his]

end Instruction

namespace Lowering

variable {α β : Type}

theorem Adds.ensures {step : Lowering α} {post : Pool → α → Prop} (h : step.Adds post)
    (refuses : ClassFileError → Prop) : step.Ensures post refuses :=
  Ensures.mono h (fun _ _ h => h) fun _ h => h.elim

theorem adds_pure {post : Pool → α → Prop} {a : α} (h : ∀ p, post p a) : (pure a : Lowering α).Adds post :=
  ensures_pure h

theorem Adds.map {step : Lowering α} {post : Pool → α → Prop} (h : step.Adds post)
    (hlast : Lasting post) (f : α → β) :
    (step >>= fun a => pure (f a)).Adds fun p b => ∃ a, b = f a ∧ post p a :=
  h.bind hlast fun a => adds_pure fun _ hp => ⟨a, rfl, hp⟩

theorem adds_onClass {opcode : UInt8} {make : String → Symbol}
    (hs : ∀ (p : Pool) index, Instruction.symbol? p (.short opcode index) =
      (p.className index).toOption.map make) (name : String) :
    (onClass opcode name).Adds fun p i => i.symbol? p = some (make name) := by
  refine ((adds_classIndex name).map (lasting_className name)
    fun index => (.short opcode index : Instruction)).mono ?_
  rintro p i ⟨index, rfl, hi⟩
  rw [hs, hi]
  rfl

theorem adds_onMember {opcode : UInt8} {make : MemberKey → Symbol}
    (hs : ∀ (p : Pool) index, Instruction.symbol? p (.short opcode index) =
      (p.member? index).map make) (kind : MemberKind) (m : MemberRef) :
    (onMember opcode kind m).Adds fun p i => i.symbol? p = some (make (m.key kind)) := by
  refine ((adds_memberIndex kind m).map (lasting_member? _)
    fun index => (.short opcode index : Instruction)).mono ?_
  rintro p i ⟨index, rfl, hi⟩
  rw [hs, hi]
  rfl

/-- What lowering one operation gives, and the error that it can end with. -/
theorem ensures_lower {op : Op} (hop : op.symbol?.isSome) :
    (lower op).Ensures (fun p i => i.symbol? p = op.symbol? ∧ op.crowded? = none)
      fun e => ∃ m, op.crowded? = some m ∧ e = .tooManyArguments m := by
  have hplain {step : Lowering Instruction} (hc : op.crowded? = none)
      (h : step.Adds fun p i => i.symbol? p = op.symbol?) :
      step.Ensures (fun p i => i.symbol? p = op.symbol? ∧ op.crowded? = none)
        fun e => ∃ m, op.crowded? = some m ∧ e = .tooManyArguments m :=
    (h.mono fun p i hi => ⟨hi, hc⟩).ensures _
  cases op with
  | load t slot =>
    obtain ⟨s, hs⟩ := Option.isSome_iff_exists.1 hop
    obtain ⟨f, hf, -⟩ := Option.map_eq_some_iff.1 hs
    have hload : lower (.load t slot) = pure (f.load slot) := by
      rw [lower, Instruction.load, hf]
      rfl
    refine hplain rfl ?_
    rw [hload]
    refine adds_pure fun p => ?_
    rw [Instruction.symbol?_load, Op.symbol?, hf]
    rfl
  | checkCast name => exact hplain rfl (adds_onClass (fun _ _ => rfl) name)
  | new name => exact hplain rfl (adds_onClass (fun _ _ => rfl) name)
  | dup => exact hplain rfl (adds_pure fun _ => rfl)
  | getField m => exact hplain rfl (adds_onMember (fun _ _ => rfl) .field m)
  | getStatic m => exact hplain rfl (adds_onMember (fun _ _ => rfl) .field m)
  | putField m => exact hplain rfl (adds_onMember (fun _ _ => rfl) .field m)
  | putStatic m => exact hplain rfl (adds_onMember (fun _ _ => rfl) .field m)
  | invokeSpecial m => exact hplain rfl (adds_onMember (fun _ _ => rfl) .method m)
  | invokeStatic m => exact hplain rfl (adds_onMember (fun _ _ => rfl) .method m)
  | invokeVirtual m => exact hplain rfl (adds_onMember (fun _ _ => rfl) .method m)
  | invokeInterface m =>
    rw [lower]
    by_cases hm : 0xFF < (Op.invokeInterface m).pops
    · have hc : (Op.invokeInterface m).crowded? = some m := if_pos hm
      rw [if_pos hm]
      exact ensures_throw ⟨m, hc, rfl⟩
    · rw [if_neg hm]
      refine hplain (if_neg hm) (((adds_memberIndex .interfaceMethod m).map (lasting_member? _)
        fun index => (.interfaceCall index (m.argumentSlots + 1).toUInt8 : Instruction)).mono ?_)
      rintro p i ⟨index, rfl, hi⟩
      rw [Instruction.symbol?, hi]
      rfl
  | «return» t => exact hplain rfl (adds_pure fun p => Instruction.symbol?_ret p t)

theorem lasting_symbol? {op : Op} (hop : op.symbol?.isSome) :
    Lasting fun p i => Instruction.symbol? p i = op.symbol? := by
  intro p q i h hi
  obtain ⟨s, hs⟩ := Option.isSome_iff_exists.1 hop
  rw [hs] at hi ⊢
  exact Instruction.symbol?_of_extends h hi

theorem lasting_say {ops : List Op} (hops : ∀ op ∈ ops, op.symbol?.isSome) :
    Lasting (Instruction.Say ops) := by
  induction ops with
  | nil =>
    intro p q is h his
    obtain rfl := List.map_eq_nil_iff.1 his
    rfl
  | cons op ops ih =>
    obtain ⟨hop, hops⟩ := List.forall_mem_cons.1 hops
    intro p q is h his
    cases is with
    | nil => cases his
    | cons i is =>
      obtain ⟨hi, his⟩ := List.cons.inj his
      exact .cons (lasting_symbol? hop p q i h hi) (ih hops p q is h his)

/-- What lowering operations gives; the first call that is refused ends it. -/
theorem ensures_lowerAll {ops : List Op} (hops : ∀ op ∈ ops, op.symbol?.isSome) :
    (lowerAll ops).Ensures
      (fun p is => Instruction.Say ops p is ∧ ops.findSome? Op.crowded? = none)
      fun e => ∃ m, ops.findSome? Op.crowded? = some m ∧ e = .tooManyArguments m := by
  induction ops with
  | nil => exact ensures_pure fun _ => ⟨rfl, rfl⟩
  | cons op ops ih =>
    obtain ⟨hop, hops⟩ := List.forall_mem_cons.1 hops
    have hfirst : Lasting fun p i => Instruction.symbol? p i = op.symbol? ∧ op.crowded? = none :=
      fun p q i h hi => ⟨lasting_symbol? hop p q i h hi.1, hi.2⟩
    have hrest : Lasting fun p is => Instruction.Say ops p is ∧ ops.findSome? Op.crowded? = none :=
      fun p q is h his => ⟨lasting_say hops p q is h his.1, his.2⟩
    refine ((ensures_lower hop).mono (fun _ _ h => h) ?_).bind hfirst fun i => ?_
    · rintro e ⟨m, hm, rfl⟩
      exact ⟨m, by rw [List.findSome?_cons, hm], rfl⟩
    refine ((ih hops).mono (fun _ _ h => h) ?_).bind hrest fun is => ?_
    · rintro e ⟨m, hm, rfl⟩ ⟨p, hi⟩
      exact ⟨m, by rw [List.findSome?_cons, hi.2, hm], rfl⟩
    · refine ensures_pure fun p his hi => ⟨.cons hi.1 his.1, ?_⟩
      rw [List.findSome?_cons, hi.2, his.2]

end Lowering

namespace LinkPlan

theorem isSome_symbol?_load {t : JavaType} (ht : t ≠ .void) (slot : UInt16) :
    (Op.load t slot).symbol?.isSome = true := by
  cases t with
  | void => exact absurd rfl ht
  | primitive p => cases p <;> rfl
  | object n => rfl
  | array c => rfl

theorem isSome_symbol?_of_mem_body {p : LinkPlan} (hp : ∀ t ∈ p.declared.parameters, t ≠ .void) :
    ∀ op ∈ p.body.ops, op.symbol?.isSome = true := by
  intro op hop
  rcases mem_body hop with rfl | rfl | hload | rfl | hadapt | rfl
  · rfl
  · rfl
  · rcases mem_loads hload with ⟨t, ht, slot, rfl⟩ | ⟨t, -, name, -, rfl⟩
    · exact isSome_symbol?_load (hp t ht) slot
    · rfl
  · unfold access
    split <;> rfl
  · rcases mem_adapt hadapt with ⟨q, rfl⟩ | ⟨name, -, rfl⟩ <;> rfl
  · rfl

end LinkPlan

end StubLinker
