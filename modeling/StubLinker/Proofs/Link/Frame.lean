import StubLinker.Proofs.Link.Reading

namespace StubLinker

namespace Member

open Lowering

/-- A method that linking has passed, and whether it has got new code: nothing else of it changes. -/
inductive Marked (p : Pool) (m : Member) : Member × Bool → Prop where
  | kept : Marked p m (m, false)
  | recoded {as : List Attribute} (h : Recoded p m.attributes as) :
      Marked p m ({ m with attributes := as }, true)

/-- A method gets new code if it reads as a stub, and is kept if it does not. -/
def Passes (settings : Settings) (className : String) (p : Pool) (m : Member)
    (step : Member × Bool) : Prop :=
  ∃ found, Stub.ofMember settings p className m = .ok found ∧ step.2 = found.isSome ∧
    Marked p m step

variable {settings : Settings} {className : String} {base p q : Pool} {m : Member}
  {ms before after : List Member} {l k : Linking} {step : Member × Bool}
  {steps : List (Member × Bool)}

theorem Marked.of_extends (h : p.Extends q) (hm : Marked p m step) : Marked q m step := by
  cases hm with
  | kept => exact .kept
  | recoded ha => exact .recoded (ha.of_extends h)

theorem Passes.marked (h : Passes settings className p m step) : Marked p m step := by
  obtain ⟨-, -, -, hm⟩ := h
  exact hm

theorem lasting_passes : Lasting (Passes settings className · m) := by
  rintro p q step h ⟨found, hfound, hmark, hm⟩
  exact ⟨found, Stub.persists_ofMember h _ hfound, hmark, hm.of_extends h⟩

theorem link_passes (hl : l.constants.Sound base)
    (h : runOn (m.link settings className) l = (.ok step, k)) :
    k.constants.Sound base ∧ l.constants.pool.Extends k.constants.pool ∧
      Passes settings className k.constants.pool m step := by
  obtain ⟨ho, rfl, rfl⟩ | ⟨stub, b, m', ho, hb, hlower, rfl⟩ := runOn_link_eq_ok h
  · exact ⟨hl, .refl _, none, ho, rfl, .kept⟩
  · obtain ⟨hsound, hext, hr⟩ :=
      ensures_lowerBody (isSome_symbol?_of_body hb) base l.constants _ _ hl hlower
    obtain ⟨heq, hrecoded⟩ := hr.1.recoded
    refine ⟨hsound, hext, some stub, Stub.persists_ofMember hext _ ho, rfl, ?_⟩
    rw [heq]
    exact .recoded hrecoded

theorem linkAll_cons_eq_ok (h : runOn (linkAll settings className (m :: ms)) l = (.ok steps, k)) :
    ∃ step u rest, runOn (m.link settings className) l = (.ok step, u) ∧
      runOn (linkAll settings className ms) u = (.ok rest, k) ∧ steps = step :: rest := by
  rw [linkAll] at h
  obtain ⟨step, u, hm, h⟩ := runOn_bind_eq_ok.1 h
  obtain ⟨rest, v, hms, h⟩ := runOn_bind_eq_ok.1 h
  cases h
  exact ⟨step, u, rest, hm, hms, rfl⟩

/-- Methods that are linked in a row all pass, as read with the pool that is left in the end. -/
theorem linkAll_passes (hl : l.constants.Sound base)
    (h : runOn (linkAll settings className ms) l = (.ok steps, k)) :
    k.constants.Sound base ∧ l.constants.pool.Extends k.constants.pool ∧
      List.Forall₂ (Passes settings className k.constants.pool) ms steps := by
  induction ms generalizing l steps with
  | nil =>
    cases h
    exact ⟨hl, .refl _, .nil⟩
  | cons m ms ih =>
    obtain ⟨step, u, rest, hm, hms, rfl⟩ := linkAll_cons_eq_ok h
    obtain ⟨hu, hlu, hstep⟩ := link_passes hl hm
    obtain ⟨hv, huv, hsteps⟩ := ih hu hms
    exact ⟨hv, hlu.trans huv, .cons (lasting_passes _ _ _ huv hstep) hsteps⟩

theorem linkAll_append : linkAll settings className (before ++ after) = (do
    let first ← linkAll settings className before
    let rest ← linkAll settings className after
    pure (first ++ rest)) := by
  induction before with
  | nil => simp [linkAll]
  | cons m ms ih => simp [linkAll, ih]

theorem runOn_link_of_error {e : LinkError}
    (h : Stub.ofMember settings l.constants.pool className m = .error e) :
    runOn (m.link settings className) l = (.error e, l) := by
  rw [runOn_link, h]

theorem linkAll_reads {first : List (Member × Bool)} {u : Linking} (hl : l.constants.Sound base)
    (h : runOn (linkAll settings className (before ++ m :: after)) l = (.ok steps, k))
    (hfirst : runOn (linkAll settings className before) l = (.ok first, u)) :
    ∃ found, Stub.ofMember settings u.constants.pool className m = .ok found ∧
      Stub.ofMember settings k.constants.pool className m = .ok found := by
  rw [linkAll_append] at h
  obtain ⟨first', u', hfirst', h⟩ := runOn_bind_eq_ok.1 h
  obtain ⟨rest, k', hrest, hk⟩ := runOn_bind_eq_ok.1 h
  cases hk
  obtain ⟨-, rfl⟩ := Prod.mk.inj (hfirst.symm.trans hfirst')
  obtain ⟨hsound, -, -⟩ := linkAll_passes hl hfirst
  obtain ⟨-, hext, -⟩ := linkAll_passes hsound hrest
  cases ho : Stub.ofMember settings u.constants.pool className m with
  | ok found => exact ⟨found, rfl, Stub.persists_ofMember hext _ ho⟩
  | error e =>
    obtain ⟨step, v, rest, hm, -⟩ := linkAll_cons_eq_ok hrest
    rw [runOn_link_of_error ho] at hm
    cases hm

theorem linkAll_of_no_stub
    (hno : ∀ m ∈ ms, ∀ stub, Stub.ofMember settings l.constants.pool className m ≠ .ok (some stub))
    (h : runOn (linkAll settings className ms) l = (.ok steps, k)) :
    k = l ∧ steps.map Prod.fst = ms := by
  induction ms generalizing steps with
  | nil =>
    cases h
    exact ⟨rfl, rfl⟩
  | cons m ms ih =>
    obtain ⟨hm, hms⟩ := List.forall_mem_cons.1 hno
    obtain ⟨step, u, rest, hstep, hrest, rfl⟩ := linkAll_cons_eq_ok h
    obtain ⟨-, rfl, rfl⟩ | ⟨stub, b, m', ho, -⟩ := runOn_link_eq_ok hstep
    · obtain ⟨rfl, hfst⟩ := ih hms hrest
      exact ⟨rfl, congrArg (List.cons m) hfst⟩
    · exact absurd ho (hm stub)

end Member

namespace ClassFile

variable {settings : Settings} {className : String} {c linked : ClassFile} {bs out : Bytes}

theorem link_eq_ok : (c.link settings).1 = .ok linked ↔
    ∃ className steps reached, c.className = .ok className ∧
      runOn (Member.linkAll settings className c.methods) c.start = (.ok steps, reached) ∧
      linked = { c with pool := reached.constants.pool, methods := steps.map Prod.fst } := by
  rw [link_fst]
  cases c.className with
  | error e => simp
  | ok className =>
    rcases h : runOn (Member.linkAll settings className c.methods) c.start with ⟨_ | steps, reached⟩
    · simp [h]
    · simp [h, eq_comm]

theorem className_of_extends (hthis : linked.thisClass = c.thisClass)
    (h : c.pool.Extends linked.pool) (hc : c.className = .ok className) :
    linked.className = .ok className := by
  have hpersists : Except.Persists c.className linked.className := by
    rw [ClassFile.className, ClassFile.className, hthis]
    exact Except.Persists.map (fun _ hname => h.className_ok hname) _
  exact hpersists _ hc

theorem linkBytes_eq_ok : (linkBytes settings bs).1 = .ok out ↔
    ∃ c linked, read bs = .ok c ∧ (c.link settings).1 = .ok linked ∧ linked.write = .ok out := by
  rw [linkBytes]
  cases hr : read bs with
  | error e => simp
  | ok c =>
    rcases hl : c.link settings with ⟨_ | linked, log⟩
    · simp [hl, Except.bind]
    · cases hw : linked.write <;> simp [hl, hw, Except.bind, Except.mapError_ok, Except.mapError_error]

/-- What a linked class has of the class it comes from. -/
structure KeepsRest (settings : Settings) (className : String) (c linked : ClassFile) : Prop where
  /-- All but the pool and the methods is the same. -/
  rest : linked = { c with pool := linked.pool, methods := linked.methods }
  /-- The pool has more constants at its end only. -/
  pool : c.pool.Extends linked.pool
  constants : ∀ index : UInt16, index.toNat ≤ c.pool.size →
    linked.pool.get? index = c.pool.get? index
  classes : ∀ index name, c.pool.className index = .ok name → linked.pool.className index = .ok name
  members : ∀ index key, c.pool.member? index = some key → linked.pool.member? index = some key
  /-- Stubs have new code, the other methods are the same. -/
  methods : ∃ steps, linked.methods = steps.map Prod.fst ∧
    List.Forall₂ (Member.Passes settings className linked.pool) c.methods steps
  /-- What a method read as when its turn came is what it reads as in the end. -/
  readings : ∀ before m after steps reached, c.methods = before ++ m :: after →
    runOn (Member.linkAll settings className before) c.start = (.ok steps, reached) →
    ∃ found, Stub.ofMember settings reached.constants.pool className m = .ok found ∧
      Stub.ofMember settings linked.pool className m = .ok found
  /-- A class without stubs is the same. -/
  same : (∀ m ∈ c.methods, ∀ stub, Stub.ofMember settings c.pool className m ≠ .ok (some stub)) →
    linked = c

theorem keepsRest_of_linkAll {steps : List (Member × Bool)} {reached : Linking}
    (h : runOn (Member.linkAll settings className c.methods) c.start = (.ok steps, reached)) :
    KeepsRest settings className c
      { c with pool := reached.constants.pool, methods := steps.map Prod.fst } := by
  obtain ⟨-, hext, hall⟩ := Member.linkAll_passes (.initial c.pool) h
  have hpool : c.pool.Extends reached.constants.pool := hext
  refine ⟨rfl, hpool, fun index => hpool.get?_eq, fun index name => hpool.className_ok,
    fun index key => hpool.member?_some, ⟨steps, rfl, hall⟩, ?_, fun hno => ?_⟩
  · intro before m after first u hms hfirst
    rw [hms] at h
    exact Member.linkAll_reads (.initial c.pool) h hfirst
  · obtain ⟨rfl, hsame⟩ := Member.linkAll_of_no_stub (l := c.start) hno h
    rw [hsame]
    rfl

/-- A class that is linked and written has all that the class it was read from has, except that its
stubs have new code. -/
theorem linkBytes_keepsRest (h : (linkBytes settings bs).1 = .ok out) :
    ∃ c className linked, read bs = .ok c ∧ c.className = .ok className ∧
      (c.link settings).1 = .ok linked ∧ linked.write = .ok out ∧
      KeepsRest settings className c linked := by
  obtain ⟨c, linked, hr, hlinked, hw⟩ := linkBytes_eq_ok.1 h
  obtain ⟨className, steps, reached, hname, hrun, rfl⟩ := link_eq_ok.1 hlinked
  exact ⟨c, className, _, hr, hname, hlinked, hw, keepsRest_of_linkAll hrun⟩

def bareCode : Code :=
  ⟨0, 0, [.plain 0xb1], [], []⟩

/-- A class with a method that is no stub, a stub with code among its attributes, and one without. -/
def mixed : ClassFile where
  minor := 0
  major := 52
  pool := ⟨#[some (.utf8 "C"), some (.classInfo 1), some (.utf8 "f"), some (.utf8 "()V"),
    some (.utf8 "RuntimeVisibleAnnotations"), some (.utf8 "Lp/InvokeConstructor;"),
    some (.utf8 "className"), some (.utf8 "E"), some (.utf8 "Code"), some (.utf8 "g"),
    some (.utf8 "Exceptions"), some (.classInfo 8), some (.utf8 "h")]⟩
  access := 0x0021
  thisClass := 2
  superClass := 0
  interfaces := []
  fields := []
  methods :=
    [⟨0x0008, 3, 4, [.code 9 bareCode]⟩,
      ⟨0x0008, 10, 4, [.annotations 5 [⟨6, [(7, .text 8)]⟩], .code 9 bareCode, .exceptions 11 [12]]⟩,
      ⟨0x0008, 13, 4, [.annotations 5 [⟨6, [(7, .text 8)]⟩], .exceptions 11 [12]]⟩]
  attributes := []

def constructingCode : Code :=
  ⟨2, 0, [.short 0xbb 15, .plain 0x59, .short 0xb7 19, .plain 0xb1], [], []⟩

def mixedLinked : ClassFile :=
  { mixed with
    pool := ⟨mixed.pool.slots ++ #[some (.utf8 "E"), some (.classInfo 14), some (.utf8 "<init>"),
      some (.utf8 "()V"), some (.nameAndType 16 17), some (.methodref 15 18), some (.utf8 "Code")]⟩
    methods :=
      [⟨0x0008, 3, 4, [.code 9 bareCode]⟩,
        ⟨0x0008, 10, 4,
          [.annotations 5 [⟨6, [(7, .text 8)]⟩], .code 9 constructingCode, .exceptions 11 [12]]⟩,
        ⟨0x0008, 13, 4,
          [.annotations 5 [⟨6, [(7, .text 8)]⟩], .exceptions 11 [12], .code 20 constructingCode]⟩] }

theorem read_mixed : read (mixed.write.toOption.getD []) = .ok mixed :=
  Except.eq_ok_of_toOption (by decide +kernel)

theorem link_mixed : (mixed.link ⟨"p", "E"⟩).1 = .ok mixedLinked :=
  Except.eq_ok_of_toOption (by decide +kernel)

theorem linkBytes_mixed : ∃ out, mixedLinked.write = .ok out ∧
    (linkBytes ⟨"p", "E"⟩ (mixed.write.toOption.getD [])).1 = .ok out := by
  have hsome : mixedLinked.write.toOption.isSome = true := by decide +kernel
  obtain ⟨out, hout⟩ := Option.isSome_iff_exists.1 hsome
  have hwrite := Except.eq_ok_of_toOption hout
  exact ⟨out, hwrite, linkBytes_eq_ok.2 ⟨mixed, mixedLinked, read_mixed, link_mixed, hwrite⟩⟩

theorem linkBytes_keepsRest_mixed : KeepsRest ⟨"p", "E"⟩ "C" mixed mixedLinked := by
  obtain ⟨out, -, hout⟩ := linkBytes_mixed
  obtain ⟨c, className, linked, hr, hname, hlinked, -, hkeeps⟩ := linkBytes_keepsRest hout
  obtain rfl : c = mixed := Except.ok.inj (hr.symm.trans read_mixed)
  obtain rfl : linked = mixedLinked := Except.ok.inj (hlinked.symm.trans link_mixed)
  obtain rfl : className = "C" :=
    Except.ok.inj (hname.symm.trans (Except.eq_ok_of_toOption (by decide +kernel)))
  exact hkeeps

end ClassFile

end StubLinker
