import Mathlib.Data.List.Forall2
import StubLinker.Proofs.ClassFile.Room
import StubLinker.Proofs.Link.Outcome

namespace StubLinker

namespace Linker

variable {α : Type}

theorem runOn_report (message : String) (l : Linking) :
    runOn (report message) l = (.ok (), { l with log := l.log ++ [⟨.rewriter, .info, message⟩] }) :=
  rfl

theorem runOn_lowering (step : Lowering α) (l : Linking) :
    runOn (lowering step) l =
      match runOn step l.constants with
      | (.ok a, constants) => (.ok a, { l with constants })
      | (.error e, constants) => (.error (.classFile e), { l with constants }) := by
  rw [lowering, runOn_bind, runOn_get]
  dsimp only
  rcases h : runOn step l.constants with ⟨r, constants⟩
  have hstep : step.run.run l.constants = (r, constants) := h
  rw [hstep]
  cases r <;> rfl

end Linker

namespace Member

open Lowering

def codeOf? : Attribute → Option Code
  | .code _ body => some body
  | _ => none

/-- Code that carries out a body: what its instructions say, its stack and its locals, and nothing
else. -/
def Carries (b : Body) (p : Pool) (code : Code) : Prop :=
  ∃ is, code = ⟨b.maxStack, b.maxLocals, is, [], []⟩ ∧ Instruction.Say b.ops p is

/-- The method as it is, but with code that carries out a body in place of its first one. -/
def Linked (b : Body) (m : Member) (p : Pool) (m' : Member) : Prop :=
  ∃ name code, Carries b p code ∧
    (codeName? m.attributes = some name ∨ codeName? m.attributes = none ∧ p.text name = .ok "Code") ∧
    m' = { m with attributes := replaceCode (.code name code) m.attributes }

theorem lasting_linked {b : Body} {m : Member} (hb : ∀ op ∈ b.ops, op.symbol?.isSome) :
    Lasting (Linked b m) := by
  rintro p q m' h ⟨name, code, ⟨is, rfl, his⟩, hname, rfl⟩
  exact ⟨name, _, ⟨is, rfl, lasting_say hb p q is h his⟩,
    hname.imp_right fun hn => ⟨hn.1, h.text_ok hn.2⟩, rfl⟩

theorem adds_withBody (m : Member) (b : Body) (is : List Instruction) :
    (m.withBody b is).Adds fun p m' => Instruction.Say b.ops p is → Linked b m p m' := by
  unfold withBody
  cases hn : codeName? m.attributes with
  | some name => exact adds_pure fun p his => ⟨name, _, ⟨is, rfl, his⟩, .inl hn, rfl⟩
  | none =>
    refine (adds_add (.utf8 "Code")).bind (lasting_get? _) fun name => ?_
    exact adds_pure fun p ht his =>
      ⟨name, _, ⟨is, rfl, his⟩, .inr ⟨hn, Pool.text_eq_ok.2 ht⟩, rfl⟩

def lowerBody (m : Member) (b : Body) : Lowering Member := do
  let instructions ← Lowering.lowerAll b.ops
  m.withBody b instructions

theorem ensures_lowerBody {m : Member} {b : Body} (hb : ∀ op ∈ b.ops, op.symbol?.isSome) :
    (m.lowerBody b).Ensures
      (fun p m' => Linked b m p m' ∧ b.ops.findSome? Op.crowded? = none)
      fun e => ∃ r, b.ops.findSome? Op.crowded? = some r ∧ e = .tooManyArguments r := by
  have hlast : Lasting fun p is => Instruction.Say b.ops p is ∧ b.ops.findSome? Op.crowded? = none :=
    fun p q is h his => ⟨lasting_say hb p q is h his.1, his.2⟩
  refine (ensures_lowerAll hb).bind hlast fun is => ?_
  exact ((adds_withBody m b is).mono fun p m' h his => ⟨h his.1, his.2⟩).ensures _

theorem exhausts_lowerBody (m : Member) (b : Body) : (m.lowerBody b).Exhausts := by
  apply (exhausts_lowerAll b.ops).bind
  intro is
  unfold withBody
  cases codeName? m.attributes with
  | some name => exact exhausts_pure _
  | none => exact (exhausts_add _).bind fun _ => exhausts_pure _

/-- What becomes of a method, from the pool it was read with: nothing if it is no stub, else a
body. -/
def outcome (settings : Settings) (p : Pool) (className : String) (m : Member) :
    Except LinkError (Option Body) := do
  match ← Stub.ofMember settings p className m with
  | none => return none
  | some stub =>
    let body ← stub.body settings p m
    match body.ops.findSome? Op.crowded? with
    | some r => throw (.classFile (.tooManyArguments r))
    | none => return some body

theorem runOn_link (settings : Settings) (className : String) (m : Member) (l : Linking) :
    runOn (m.link settings className) l =
      match Stub.ofMember settings l.constants.pool className m with
      | .error e => (.error e, l)
      | .ok none => (.ok (m, false), l)
      | .ok (some stub) =>
        match stub.body settings l.constants.pool m with
        | .error e => (.error e, l)
        | .ok body =>
          let log := l.log ++ [⟨.rewriter, .info, s!"{stub.qualified} -> {body.display}"⟩]
          match runOn (m.lowerBody body) l.constants with
          | (.ok linked, constants) => (.ok (linked, true), ⟨constants, log⟩)
          | (.error e, constants) => (.error (.classFile e), ⟨constants, log⟩) := by
  rw [link, runOn_bind, runOn_get]
  dsimp only
  rw [runOn_bind, runOn_liftM]
  cases Stub.ofMember settings l.constants.pool className m with
  | error e => rfl
  | ok found =>
    cases found with
    | none => rfl
    | some stub =>
      dsimp only
      rw [runOn_bind, runOn_liftM]
      cases stub.body settings l.constants.pool m with
      | error e => rfl
      | ok body =>
        dsimp only
        rw [runOn_bind, Linker.runOn_report]
        dsimp only
        rw [runOn_bind, Linker.runOn_lowering]
        unfold lowerBody
        dsimp only
        rcases runOn _ l.constants with ⟨r, constants⟩
        cases r <;> rfl

/-- A method that is linked is no stub and stays as it is, or gets the body of the stub it reads
as. -/
theorem runOn_link_eq_ok {l k : Linking} {step : Member × Bool}
    (h : runOn (m.link settings className) l = (.ok step, k)) :
    (Stub.ofMember settings l.constants.pool className m = .ok none ∧ step = (m, false) ∧ k = l) ∨
      ∃ stub b m', Stub.ofMember settings l.constants.pool className m = .ok (some stub) ∧
        stub.body settings l.constants.pool m = .ok b ∧
        runOn (m.lowerBody b) l.constants = (.ok m', k.constants) ∧ step = (m', true) := by
  rw [runOn_link] at h
  cases ho : Stub.ofMember settings l.constants.pool className m with
  | error e =>
    rw [ho] at h
    cases h
  | ok found =>
    rw [ho] at h
    cases found with
    | none =>
      cases h
      exact .inl ⟨rfl, rfl, rfl⟩
    | some stub =>
      dsimp only at h
      cases hb : stub.body settings l.constants.pool m with
      | error e =>
        rw [hb] at h
        cases h
      | ok b =>
        rw [hb] at h
        dsimp only at h
        rcases hlower : runOn (m.lowerBody b) l.constants with ⟨_ | m', constants⟩
        · rw [hlower] at h
          cases h
        · rw [hlower] at h
          cases h
          exact .inr ⟨stub, b, m', rfl, hb, hlower, rfl⟩

variable {settings : Settings} {className : String} {base : Pool} {m m' : Member}

theorem isSome_symbol?_of_body {stub : Stub} {b : Body}
    (h : stub.body settings base m = .ok b) : ∀ op ∈ b.ops, op.symbol?.isSome = true := by
  obtain ⟨descriptor, failures, plan, hd, -, hp, rfl⟩ := Stub.body_eq_ok.1 h
  obtain ⟨-, -, -, _, _, -, -, -, -, -, -, rfl⟩ := Shape.plan_eq_ok_iff.1 hp
  exact LinkPlan.isSome_symbol?_of_mem_body fun t ht =>
    ((MethodDescriptor.wellFormed_of_ofText hd).1 t ht).2

/-- What becomes of a method is what its outcome says, in a pool. -/
def Follows (settings : Settings) (base : Pool) (className : String) (p : Pool) (m m' : Member) :
    Prop :=
  match m.outcome settings base className with
  | .ok none => m' = m
  | .ok (some b) => Linked b m p m'
  | .error _ => False

def fault? (settings : Settings) (base : Pool) (className : String) (m : Member) :
    Option LinkError :=
  match m.outcome settings base className with
  | .ok _ => none
  | .error e => some e

theorem fault?_of_body_error {stub : Stub} {e : LinkError}
    (ho : Stub.ofMember settings base className m = .ok (some stub))
    (hb : stub.body settings base m = .error e) : m.fault? settings base className = some e := by
  simp only [fault?, outcome, ho, hb, bind, Except.bind]

theorem fault?_of_crowded {stub : Stub} {b : Body} {r : MemberRef}
    (ho : Stub.ofMember settings base className m = .ok (some stub))
    (hb : stub.body settings base m = .ok b) (hr : b.ops.findSome? Op.crowded? = some r) :
    m.fault? settings base className = some (.classFile (.tooManyArguments r)) := by
  simp only [fault?, outcome, ho, hb, hr, bind, Except.bind, throw, throwThe, MonadExceptOf.throw]

theorem outcome_of_body {stub : Stub} {b : Body}
    (ho : Stub.ofMember settings base className m = .ok (some stub))
    (hb : stub.body settings base m = .ok b) (hc : b.ops.findSome? Op.crowded? = none) :
    m.outcome settings base className = .ok (some b) := by
  simp only [outcome, ho, hb, hc, bind, Except.bind, pure, Except.pure]

/-- Linking one method does what its outcome in the pool of that moment says, unless the pool runs
full. -/
theorem link_answers {l k : Linking} {r : Except LinkError (Member × Bool)}
    (hl : l.constants.Sound base) (h : runOn (m.link settings className) l = (r, k)) :
    k.constants.Sound base ∧ l.constants.pool.Extends k.constants.pool ∧
      match r with
      | .ok linked => Follows settings l.constants.pool className k.constants.pool m linked.1
      | .error e => (e = .classFile .numberTooLarge ∧ k.constants.pool.Full) ∨
          m.fault? settings l.constants.pool className = some e := by
  rw [runOn_link] at h
  cases ho : Stub.ofMember settings l.constants.pool className m with
  | error e =>
    rw [ho] at h
    cases h
    refine ⟨hl, .refl _, .inr ?_⟩
    rw [fault?, outcome, ho]
    rfl
  | ok found =>
    rw [ho] at h
    cases found with
    | none =>
      cases h
      refine ⟨hl, .refl _, ?_⟩
      dsimp only
      rw [Follows, outcome, ho]
      rfl
    | some stub =>
      dsimp only at h
      cases hb : stub.body settings l.constants.pool m with
      | error e =>
        rw [hb] at h
        cases h
        exact ⟨hl, .refl _, .inr (fault?_of_body_error ho hb)⟩
      | ok body =>
        rw [hb] at h
        -- only here the pool grows, and only here it can run full
        rcases hlower : runOn (m.lowerBody body) l.constants with ⟨r', constants⟩
        obtain ⟨ht, hext, ha⟩ := ensures_lowerBody (isSome_symbol?_of_body hb) base l.constants r'
          constants hl hlower
        dsimp only at h
        rw [hlower] at h
        cases r' with
        | ok m' =>
          obtain ⟨hlinked, hc⟩ := ha
          cases h
          refine ⟨ht, hext, ?_⟩
          dsimp only
          rw [Follows, outcome_of_body ho hb hc]
          exact hlinked
        | error e =>
          cases h
          refine ⟨ht, hext, ?_⟩
          rcases ha with rfl | ⟨r, hr, rfl⟩
          · exact .inl ⟨rfl, exhausts_lowerBody m body _ _ hlower⟩
          · exact .inr (fault?_of_crowded ho hb hr)

/-- The outcome of a method is the same in every pool that extends the one it was read with. -/
def Settled (settings : Settings) (base : Pool) (className : String) (m : Member) : Prop :=
  ∀ p, base.Extends p → m.outcome settings p className = m.outcome settings base className

theorem settled_of_isWithin (hw : m.isWithin base = true) (hn : m.namesWithin base = true) :
    Settled settings base className m := by
  intro p h
  have hstub : Stub.ofMember settings p className m = Stub.ofMember settings base className m :=
    Stub.ofMember_of_extends h hw
  have hbody (s : Stub) : s.body settings p m = s.body settings base m :=
    Stub.body_of_extends h hw hn
  simp only [outcome, hstub, hbody]

theorem link_follows {l k : Linking} {r : Except LinkError (Member × Bool)}
    (hl : l.constants.Sound base) (hm : Settled settings base className m)
    (h : runOn (m.link settings className) l = (r, k)) :
    k.constants.Sound base ∧ l.constants.pool.Extends k.constants.pool ∧
      match r with
      | .ok linked => Follows settings base className k.constants.pool m linked.1
      | .error e => (e = .classFile .numberTooLarge ∧ k.constants.pool.Full) ∨
          m.fault? settings base className = some e := by
  have hanswers := link_answers hl h
  simp only [Follows, fault?, hm _ hl.extends_base] at hanswers ⊢
  exact hanswers

theorem isSome_symbol?_of_outcome {b : Body}
    (h : m.outcome settings base className = .ok (some b)) :
    ∀ op ∈ b.ops, op.symbol?.isSome = true := by
  unfold outcome at h
  cases ho : Stub.ofMember settings base className m with
  | error e =>
    rw [ho] at h
    cases h
  | ok found =>
    rw [ho] at h
    cases found with
    | none => cases h
    | some stub =>
      cases hb : stub.body settings base m with
      | error e =>
        simp only [hb, bind, Except.bind] at h
        cases h
      | ok body =>
        simp only [hb, bind, Except.bind] at h
        split at h
        · cases h
        · cases h
          exact isSome_symbol?_of_body hb

theorem lasting_follows : Lasting fun p m' => Follows settings base className p m m' := by
  intro p q m' h hm
  unfold Follows at hm ⊢
  cases ho : m.outcome settings base className with
  | error e =>
    rw [ho] at hm
    exact hm
  | ok found =>
    rw [ho] at hm
    cases found with
    | none => exact hm
    | some b => exact lasting_linked (isSome_symbol?_of_outcome ho) p q m' h hm

theorem fault?_of_follows {p : Pool} (h : Follows settings base className p m m') :
    m.fault? settings base className = none := by
  unfold Follows at h
  unfold fault?
  cases ho : m.outcome settings base className with
  | error e =>
    rw [ho] at h
    exact h.elim
  | ok found => rfl

/-- Linking methods in a row keeps the constants sound, and stops at the first fault. -/
theorem linkAll_follows {ms : List Member} {l k : Linking}
    {r : Except LinkError (List (Member × Bool))} (hl : l.constants.Sound base)
    (hms : ∀ m ∈ ms, Settled settings base className m)
    (h : runOn (linkAll settings className ms) l = (r, k)) :
    k.constants.Sound base ∧ l.constants.pool.Extends k.constants.pool ∧
      match r with
      | .ok linked => List.Forall₂ (Follows settings base className k.constants.pool) ms
          (linked.map Prod.fst)
      | .error e => (e = .classFile .numberTooLarge ∧ k.constants.pool.Full) ∨
          ms.findSome? (fault? settings base className) = some e := by
  induction ms generalizing l k r with
  | nil =>
    cases h
    exact ⟨hl, .refl _, .nil⟩
  | cons m ms ih =>
    obtain ⟨hm, hms⟩ := List.forall_mem_cons.1 hms
    rw [linkAll, runOn_bind] at h
    rcases hrun : runOn (m.link settings className) l with ⟨rm, u⟩
    obtain ⟨hu, hlu, hfirst⟩ := link_follows hl hm hrun
    rw [hrun] at h
    cases rm with
    | error e =>
      cases h
      refine ⟨hu, hlu, hfirst.imp_right fun hf => ?_⟩
      rw [List.findSome?_cons, hf]
    | ok linked =>
      dsimp only at h hfirst
      rw [runOn_bind] at h
      rcases hruns : runOn (linkAll settings className ms) u with ⟨rs, v⟩
      obtain ⟨hv, huv, hrest⟩ := ih hu hms hruns
      rw [hruns] at h
      cases rs with
      | error e =>
        cases h
        refine ⟨hv, hlu.trans huv, hrest.imp_right fun hf => ?_⟩
        rw [List.findSome?_cons, fault?_of_follows hfirst, hf]
      | ok rest =>
        cases h
        -- what the first method became reads the same in the larger pool
        exact ⟨hv, hlu.trans huv, .cons (lasting_follows _ _ _ huv hfirst) hrest⟩

theorem findSome?_fault?_of_follows {p : Pool} {ms ms' : List Member}
    (h : List.Forall₂ (Follows settings base className p) ms ms') :
    ms.findSome? (fault? settings base className) = none := by
  induction h with
  | nil => rfl
  | cons hm _ ih => rw [List.findSome?_cons, fault?_of_follows hm, ih]

end Member

namespace ClassFile

variable {settings : Settings} {c : ClassFile}

/-- The first fault of a class: its own name, then its methods in order, each by itself. -/
def fault? (settings : Settings) (c : ClassFile) : Option LinkError :=
  match c.className with
  | .error e => some (.classFile e)
  | .ok className => c.methods.findSome? (Member.fault? settings c.pool className)

def start (c : ClassFile) : Linking :=
  ⟨{ pool := c.pool }, []⟩

theorem link_fst (settings : Settings) (c : ClassFile) :
    (c.link settings).1 =
      match c.className with
      | .error e => .error (.classFile e)
      | .ok className =>
        match runOn (Member.linkAll settings className c.methods) c.start with
        | (.error e, _) => .error e
        | (.ok steps, reached) =>
          .ok { c with pool := reached.constants.pool, methods := steps.map Prod.fst } := by
  have hrun : (c.link settings).1 = (runOn (c.linker settings) c.start).1 := rfl
  rw [hrun, linker, runOn_bind, runOn_liftM]
  cases c.className with
  | error e => rfl
  | ok className =>
    dsimp only [Except.mapError_ok]
    rw [runOn_bind]
    rcases runOn (Member.linkAll settings className c.methods) c.start with ⟨_ | steps, reached⟩
    · rfl
    · dsimp only
      split <;> rfl

/-- Linking stops at a method for which the pool has no number left. -/
def RunsOut (settings : Settings) (c : ClassFile) : Prop :=
  ∃ className reached, c.className = .ok className ∧
    runOn (Member.linkAll settings className c.methods) c.start =
      (.error (.classFile .numberTooLarge), reached) ∧
    reached.constants.pool.Full

/-- Linking a class does what the outcomes of its methods say, unless the pool runs out. -/
theorem link_follows (hm : ∀ className, c.className = .ok className →
    ∀ m ∈ c.methods, Member.Settled settings c.pool className m) :
    match (c.link settings).1 with
    | .ok linked => ∃ className, c.className = .ok className ∧ c.pool.Extends linked.pool ∧
        List.Forall₂ (Member.Follows settings c.pool className linked.pool) c.methods linked.methods
    | .error e => (e = .classFile .numberTooLarge ∧ c.RunsOut settings) ∨
        c.fault? settings = some e := by
  rw [link_fst]
  cases hc : c.className with
  | error e =>
    right
    rw [fault?, hc]
  | ok className =>
    dsimp only
    rcases hms : runOn (Member.linkAll settings className c.methods) c.start with ⟨rs, k⟩
    obtain ⟨-, hext, hall⟩ := Member.linkAll_follows (.initial c.pool) (hm className hc) hms
    cases rs with
    | error e =>
      refine hall.imp ?_ fun hf => ?_
      · rintro ⟨rfl, hfull⟩
        exact ⟨rfl, className, k, hc, hms, hfull⟩
      · rw [fault?, hc]
        exact hf
    | ok linked => exact ⟨className, rfl, hext, hall⟩

theorem linkBytes_fst {bs : Bytes} (hr : read bs = .ok c) : (linkBytes settings bs).1 =
    (c.link settings).1.bind fun linked => linked.write.mapError LinkError.classFile := by
  rw [linkBytes, hr]

/-- A class whose numbers lie within its pool fails to link exactly if one of its parts does by
itself, with the first fault; else every method becomes what it asks for by itself. -/
theorem linkBytes_refines {bs : Bytes} (hr : read bs = .ok c)
    (hw : ∀ m ∈ c.methods, m.isWithin c.pool = true)
    (hn : ∀ m ∈ c.methods, m.namesWithin c.pool = true)
    (hroom : (c.link settings).1 ≠ .error (.classFile .numberTooLarge))
    (hwrite : ∀ linked, (c.link settings).1 = .ok linked → ∃ out, linked.write = .ok out) :
    (∀ e, (linkBytes settings bs).1 = .error e ↔ c.fault? settings = some e) ∧
      (c.fault? settings = none → ∃ className, ∃ linked : ClassFile, ∃ out, c.className = .ok className ∧
        (linkBytes settings bs).1 = .ok out ∧ linked.write = .ok out ∧
        c.pool.Extends linked.pool ∧
        List.Forall₂ (Member.Follows settings c.pool className linked.pool) c.methods
          linked.methods) := by
  have hsettled : ∀ className, c.className = .ok className →
      ∀ m ∈ c.methods, Member.Settled settings c.pool className m :=
    fun _ _ m hm => Member.settled_of_isWithin (hw m hm) (hn m hm)
  have hlink := link_follows hsettled
  have hbytes : (linkBytes settings bs).1 = _ := linkBytes_fst hr
  rcases h : c.link settings with ⟨r, log⟩
  rw [h] at hbytes
  rw [h] at hroom hwrite hlink
  cases r with
  | error e =>
    have hf : c.fault? settings = some e := hlink.resolve_left fun he => hroom (by rw [he.1])
    rw [hbytes, hf]
    exact ⟨fun e' => by simp [Except.bind], fun hnone => by cases hnone⟩
  | ok linked =>
    obtain ⟨className, hc, hext, hall⟩ := hlink
    obtain ⟨out, hout⟩ := hwrite linked rfl
    have hok : (linkBytes settings bs).1 = .ok out := by
      rw [hbytes, Except.bind, hout]
      rfl
    have hf : c.fault? settings = none := by
      rw [fault?, hc]
      exact Member.findSome?_fault?_of_follows hall
    rw [hok, hf]
    exact ⟨fun e => by simp, fun _ => ⟨className, linked, out, hc, rfl, hout, hext, hall⟩⟩

/-- A class with two stubs that construct the same class. The second declares an exception whose name
has a number of its own. -/
def twoStubs (name : UInt16) : ClassFile where
  minor := 0
  major := 52
  pool := ⟨#[some (.utf8 "C"), some (.classInfo 1), some (.utf8 "f"), some (.utf8 "()V"),
    some (.utf8 "RuntimeVisibleAnnotations"), some (.utf8 "Lp/InvokeConstructor;"),
    some (.utf8 "className"), some (.utf8 "E"), some (.classInfo 8), some (.utf8 "Exceptions"),
    some (.utf8 "g"), some (.classInfo name)]⟩
  access := 0x0021
  thisClass := 2
  superClass := 0
  interfaces := []
  fields := []
  methods :=
    [⟨0x0008, 3, 4, [.annotations 5 [⟨6, [(7, .text 8)]⟩], .exceptions 10 [9]]⟩,
      ⟨0x0008, 11, 4, [.annotations 5 [⟨6, [(7, .text 8)]⟩], .exceptions 10 [12]]⟩]
  attributes := []

theorem linkBytes_refines_twoStubs :
    ∃ bs, ∃ linked : ClassFile, ∃ out, read bs = .ok (twoStubs 8) ∧
      (linkBytes ⟨"p", "E"⟩ bs).1 = .ok out ∧ linked.write = .ok out ∧
      List.Forall₂ (Member.Follows ⟨"p", "E"⟩ (twoStubs 8).pool "C" linked.pool)
        (twoStubs 8).methods linked.methods := by
  have hr : read ((twoStubs 8).write.toOption.getD []) = .ok (twoStubs 8) :=
    Except.eq_ok_of_toOption (by decide +kernel)
  have hsome : (((twoStubs 8).link ⟨"p", "E"⟩).1.toOption.bind fun linked =>
      linked.write.toOption).isSome = true := by decide +kernel
  have hwrite : ∀ linked, ((twoStubs 8).link ⟨"p", "E"⟩).1 = .ok linked →
      ∃ out, linked.write = .ok out := by
    intro linked hl
    rw [hl] at hsome
    obtain ⟨out, hout⟩ := Option.isSome_iff_exists.1 hsome
    exact ⟨out, Except.eq_ok_of_toOption hout⟩
  have hroom : ((twoStubs 8).link ⟨"p", "E"⟩).1 ≠ .error (.classFile .numberTooLarge) := by
    intro he
    rw [he] at hsome
    cases hsome
  obtain ⟨-, hlinked⟩ := linkBytes_refines hr (by decide +kernel)
    (by decide +kernel) hroom hwrite
  obtain ⟨className, linked, out, hc, hout, hw, -, hall⟩ := hlinked (by decide +kernel)
  have hname : (twoStubs 8).className = .ok "C" := Except.eq_ok_of_toOption (by decide +kernel)
  obtain rfl : className = "C" := Except.ok.inj (hc.symm.trans hname)
  exact ⟨_, linked, out, hr, hout, hw, hall⟩

/-- A class may fail to link though none of its methods does, for it has a name. A method may borrow
the name of an exception from the constants added for a method before it. -/
theorem linkBytes_beyond_methods :
    (∃ bs c, (read bs).toOption = some c ∧ c.methods = [] ∧
      (linkBytes ⟨"p", "E"⟩ bs).1.toOption = none) ∧
    ∃ bs m, (read bs).toOption = some (twoStubs 13) ∧
      (twoStubs 13).methods.all (Member.isWithin (twoStubs 13).pool) = true ∧
      m ∈ (twoStubs 13).methods ∧
      (m.fault? ⟨"p", "E"⟩ (twoStubs 13).pool "C").isSome = true ∧
      (linkBytes ⟨"p", "E"⟩ bs).1.toOption.isSome = true := by
  refine ⟨⟨(write { twoStubs 8 with thisClass := 1, methods := [] }).toOption.getD [],
    { twoStubs 8 with thisClass := 1, methods := [] }, ?_⟩,
    (twoStubs 13).write.toOption.getD [], (twoStubs 13).methods.getLast (by decide), ?_⟩
  · decide +kernel
  · decide +kernel

end ClassFile

end StubLinker
