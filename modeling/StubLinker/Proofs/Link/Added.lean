import StubLinker.Proofs.ClassFile.Added
import StubLinker.Proofs.Link.Frame
import StubLinker.Proofs.Stub.Names

namespace StubLinker

namespace Member

open Lowering

variable {settings : Settings} {className : String} {base : Pool} {asked : Reference → Prop}
  {m : Member} {ms : List Member} {s t : SharedPool} {l k : Linking} {step : Member × Bool}
  {steps : List (Member × Bool)}

theorem accounted_withBody {b : Body} {is : List Instruction} {m' : Member}
    (hs : base.Accounted asked s.pool) (h : runOn (m.withBody b is) s = (.ok m', t)) :
    base.Accounted asked t.pool := by
  unfold withBody at h
  cases hn : codeName? m.attributes with
  | some name =>
    rw [hn] at h
    cases h
    exact hs
  | none =>
    rw [hn] at h
    obtain ⟨name, u, hu, h⟩ := runOn_bind_eq_ok.1 h
    cases h
    obtain ⟨-, rfl⟩ := runOn_add_eq_ok.1 hu
    exact hs.push .code

theorem accounted_lowerBody {b : Body} {m' : Member} (hsound : s.Sound base)
    (hs : base.Accounted asked s.pool) (hops : ∀ op ∈ b.ops, ∀ r ∈ op.references, asked r)
    (h : runOn (m.lowerBody b) s = (.ok m', t)) : base.Accounted asked t.pool := by
  obtain ⟨is, u, hu, h⟩ := runOn_bind_eq_ok.1 h
  exact accounted_withBody (accounted_lowerAll hsound hs hops hu) h

/-- A method asks for what the body of the stub refers to that it reads as in a pool. -/
def Asks (settings : Settings) (className : String) (p : Pool) (m : Member) (r : Reference) : Prop :=
  ∃ stub b, Stub.ofMember settings p className m = .ok (some stub) ∧
    stub.body settings p m = .ok b ∧ ∃ op ∈ b.ops, r ∈ op.references

theorem accounted_link (hsound : l.constants.Sound base)
    (hl : base.Accounted asked l.constants.pool)
    (hasks : ∀ r, m.Asks settings className l.constants.pool r → asked r)
    (h : runOn (m.link settings className) l = (.ok step, k)) :
    base.Accounted asked k.constants.pool := by
  obtain ⟨-, -, rfl⟩ | ⟨stub, b, m', ho, hb, hrun, -⟩ := runOn_link_eq_ok h
  · exact hl
  · exact accounted_lowerBody hsound hl
      (fun op hop r hr => hasks r ⟨stub, b, ho, hb, op, hop, hr⟩) hrun

/-- Linking methods adds what they ask for, each in the pool that the methods before it leave. -/
theorem accounted_linkAll (hsound : l.constants.Sound base)
    (hl : base.Accounted asked l.constants.pool)
    (hasks : ∀ m ∈ ms, ∀ p, base.Extends p → ∀ r, m.Asks settings className p r → asked r)
    (h : runOn (linkAll settings className ms) l = (.ok steps, k)) :
    base.Accounted asked k.constants.pool := by
  induction ms generalizing l steps with
  | nil =>
    cases h
    exact hl
  | cons m ms ih =>
    obtain ⟨hm, hms⟩ := List.forall_mem_cons.1 hasks
    obtain ⟨step, u, rest, hu, hv, rfl⟩ := linkAll_cons_eq_ok h
    obtain ⟨hsound', -, -⟩ := link_passes hsound hu
    exact ih hsound' (accounted_link hsound hl (hm _ hsound.extends_base) hu) hms hv

end Member

namespace Stub

variable {settings : Settings} {className : String} {p : Pool} {m : Member} {s : Stub}

theorem exists_annotations (h : ofMember settings p className m = .ok (some s)) :
    ∃ annotations, m.annotations p = .ok annotations ∧
      Directive.collect settings annotations = .ok (some s.directive) := by
  obtain ⟨name, -, h⟩ := Except.bind_eq_ok.1 h
  obtain ⟨descriptor, -, h⟩ := Except.bind_eq_ok.1 h
  obtain ⟨annotations, hannotations, h⟩ := Except.bind_eq_ok.1 h
  obtain ⟨directive, hdirective, h⟩ := Except.bind_eq_ok.1 h
  obtain ⟨d, rfl, rfl⟩ := Option.map_eq_some_iff.1 (Except.ok.inj h)
  exact ⟨annotations, Except.mapError_eq_ok.1 hannotations, Except.mapError_eq_ok.1 hdirective⟩

/-- What a stub can refer to: its classes and the types of its members are normalised or taken as they
are spelled on the method, and its members have the names that its operation allows. -/
def Refers (settings : Settings) (className : String) (p : Pool) (m : Member) (r : Reference) :
    Prop :=
  ∃ annotations s, m.annotations p = .ok annotations ∧
    ofMember settings p className m = .ok (some s) ∧
    r.Legal (NormalOrSpelled settings annotations s.descriptor)
      (s.directive.operation.Names s.directive.member)

theorem refers_of_asks {r : Reference} (h : m.Asks settings className p r) :
    Refers settings className p m r := by
  obtain ⟨s, b, hs, hb, op, hop, hr⟩ := h
  obtain ⟨annotations, hannotations, hcollect⟩ := exists_annotations hs
  obtain ⟨own, failures, plan, hown, -, hplan, rfl⟩ := body_eq_ok.1 hb
  have htypes := types_of_plan hcollect hown hplan
  obtain ⟨-, -, -, target, owner, -, -, -, -, -, -, rfl⟩ := Shape.plan_eq_ok_iff.1 hplan
  exact ⟨annotations, s, hannotations, hs, htypes.legal_body hop hr⟩

end Stub

namespace ClassFile

variable {settings : Settings} {c linked : ClassFile}

/-- Every constant that linking adds is there for what a method asked for, in a pool that extends the
one it was read with. -/
theorem accounted_link (h : (c.link settings).1 = .ok linked) :
    ∃ className, c.className = .ok className ∧ c.pool.Extends linked.pool ∧
      c.pool.Accounted (fun r => ∃ m ∈ c.methods, ∃ p, c.pool.Extends p ∧
        m.Asks settings className p r) linked.pool := by
  obtain ⟨className, steps, reached, hname, hrun, rfl⟩ := link_eq_ok.1 h
  obtain ⟨-, hextends, -⟩ := Member.linkAll_passes (.initial c.pool) hrun
  refine ⟨className, hname, hextends, ?_⟩
  exact Member.accounted_linkAll (.initial c.pool) (Pool.accounted_self _ _)
    (fun m hm p hp r hr => ⟨m, hm, p, hp, hr⟩) hrun

/-- Every constant that linking adds is the name of the code attribute, or is there for a class or a
member that a stub refers to. A class has the name of a type, and a member a name and a descriptor that
can be read; there is a `.` in a class name only where the stub's own descriptor or its class constant
has one, and a member has a name that is not allowed only where the stub's marker gives it. -/
theorem linkBytes_adds {settings : Settings} {bs out : Bytes}
    (h : (linkBytes settings bs).1 = .ok out) :
    ∃ c linked className, read bs = .ok c ∧ c.className = .ok className ∧
      (c.link settings).1 = .ok linked ∧ linked.write = .ok out ∧ c.pool.Extends linked.pool ∧
      c.pool.Accounted (fun r => ∃ m ∈ c.methods, ∃ p, c.pool.Extends p ∧
        Stub.Refers settings className p m r) linked.pool := by
  obtain ⟨c, linked, hread, hlink, hwrite⟩ := linkBytes_eq_ok.1 h
  obtain ⟨className, hname, hextends, haccounted⟩ := accounted_link hlink
  refine ⟨c, linked, className, hread, hname, hlink, hwrite, hextends, ?_⟩
  apply haccounted.mono
  rintro r ⟨m, hm, p, hp, hr⟩
  exact ⟨m, hm, p, hp, Stub.refers_of_asks hr⟩

/-- A class with a stub that names its target by the class constant `La.b;` and a member `c/d`. -/
def spelled : ClassFile where
  minor := 0
  major := 52
  pool := ⟨#[some (.utf8 "C"), some (.classInfo 1), some (.utf8 "f"), some (.utf8 "()V"),
    some (.utf8 "RuntimeVisibleAnnotations"), some (.utf8 "Lp/InvokeStatic;"),
    some (.utf8 "classConstant"), some (.utf8 "La.b;"), some (.utf8 "memberName"),
    some (.utf8 "c/d"), some (.utf8 "E"), some (.classInfo 11), some (.utf8 "Exceptions")]⟩
  access := 0x0021
  thisClass := 2
  superClass := 0
  interfaces := []
  fields := []
  methods :=
    [⟨0x0008, 3, 4, [.annotations 5 [⟨6, [(7, .classLiteral 8), (9, .text 10)]⟩],
      .exceptions 13 [12]]⟩]
  attributes := []

theorem linkBytes_adds_to_twoStubs :
    ∃ (bs out : Bytes) (c linked : ClassFile) (className : String),
      (linkBytes ⟨"p", "E"⟩ bs).1 = .ok out ∧ read bs = .ok c ∧ linked.write = .ok out ∧
      c.pool.Accounted (fun r => ∃ m ∈ c.methods, ∃ p, c.pool.Extends p ∧
        Stub.Refers ⟨"p", "E"⟩ className p m r) linked.pool := by
  have hsome : ((linkBytes ⟨"p", "E"⟩ ((twoStubs 8).write.toOption.getD [])).1.toOption).isSome =
      true := by
    decide +kernel
  obtain ⟨out, hout⟩ := Option.isSome_iff_exists.1 hsome
  have hlink := Except.eq_ok_of_toOption hout
  obtain ⟨c, linked, className, hread, -, -, hwrite, -, haccounted⟩ := linkBytes_adds hlink
  exact ⟨_, out, c, linked, className, hlink, hread, hwrite, haccounted⟩

/-- A class constant and a member name are taken as they are spelled: linking adds a class that is no
array and has a `.` in its name, and a method with a `/` in its name. -/
theorem linkBytes_adds_spelled :
    ∃ (bs out : Bytes) (linked : ClassFile), read bs = .ok spelled ∧
      (linkBytes ⟨"p", "E"⟩ bs).1 = .ok out ∧ (spelled.link ⟨"p", "E"⟩).1 = .ok linked ∧
      linked.write = .ok out ∧ spelled.pool.size = 13 ∧
      linked.pool.className 15 = .ok "a.b" ∧
      linked.pool.member? 19 = some ⟨.method, "a.b", "c/d", "()V"⟩ := by
  have hread : read (spelled.write.toOption.getD []) = .ok spelled :=
    Except.eq_ok_of_toOption (by decide +kernel)
  have hlinked : ((spelled.link ⟨"p", "E"⟩).1.toOption.map fun linked =>
      (linked.write.toOption.isSome, (linked.pool.className 15).toOption, linked.pool.member? 19)) =
        some (true, some "a.b", some ⟨.method, "a.b", "c/d", "()V"⟩) := by
    decide +kernel
  obtain ⟨linked, hlink, hfacts⟩ := Option.map_eq_some_iff.1 hlinked
  have hlink := Except.eq_ok_of_toOption hlink
  obtain ⟨hwrite, hclass, hmember⟩ : _ ∧ _ ∧ _ := by simpa only [Prod.mk.injEq] using hfacts
  obtain ⟨out, hout⟩ := Option.isSome_iff_exists.1 hwrite
  have hout := Except.eq_ok_of_toOption hout
  exact ⟨_, out, linked, hread, linkBytes_eq_ok.2 ⟨spelled, linked, hread, hlink, hout⟩, hlink, hout,
    rfl, Except.eq_ok_of_toOption hclass, hmember⟩

end ClassFile

end StubLinker
