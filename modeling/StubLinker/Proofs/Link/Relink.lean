import Mathlib.Logic.Relation
import StubLinker.Proofs.Link.Frame

namespace StubLinker

section

variable {α β γ : Type} {R : α → β → Prop} {S : β → γ → Prop} {T : α → γ → Prop}

theorem forall₂_trans {as : List α} {bs : List β} {cs : List γ}
    (hT : ∀ a b c, R a b → S b c → T a c) (h : List.Forall₂ R as bs) (h' : List.Forall₂ S bs cs) :
    List.Forall₂ T as cs := by
  induction h generalizing cs with
  | nil =>
    cases h'
    exact .nil
  | cons ha _ ih =>
    cases h' with
    | cons hb h' => exact .cons (hT _ _ _ ha hb) (ih h')

theorem exists_of_forall₂ {as : List α} {bs : List β} {b : β} (h : List.Forall₂ R as bs)
    (hb : b ∈ bs) : ∃ a ∈ as, R a b := by
  induction h with
  | nil => cases hb
  | @cons a b' as bs ha _ ih =>
    rcases List.mem_cons.1 hb with rfl | hb
    · exact ⟨a, by simp, ha⟩
    · obtain ⟨a', ha', hr⟩ := ih hb
      exact ⟨a', List.mem_cons_of_mem _ ha', hr⟩

end

/-- The same code, but for the numbers of the constants that its instructions refer to. -/
def Code.Renumbered (p q : Pool) (old new : Code) : Prop :=
  new = { old with instructions := new.instructions } ∧
    ∃ symbols : List Symbol, old.instructions.map (Instruction.symbol? p) = symbols.map some ∧
      new.instructions.map (Instruction.symbol? q) = symbols.map some

namespace Member

/-- The same method, but for the numbers in its first code. -/
inductive Renumbered (p q : Pool) (m : Member) : Member → Prop where
  | same : Renumbered p q m m
  | recoded {front back : List Attribute} {name : UInt16} {old new : Code}
      (hm : m.attributes = front ++ .code name old :: back) (hfront : ∀ a ∈ front, codeOf? a = none)
      (hcode : old.Renumbered p q new) :
      Renumbered p q m { m with attributes := front ++ .code name new :: back }

/-- The method is what becomes of it: no stub, or one that carries out the body it asks for. -/
def Stands (settings : Settings) (className : String) (p : Pool) (m : Member) : Prop :=
  Follows settings p className p m m

variable {settings : Settings} {className : String} {base p q r : Pool} {m m' m'' : Member}
  {b : Body} {ms : List Member} {l k : Linking}

theorem follows_iff : Follows settings p className q m m' ↔
    (m.outcome settings p className = .ok none ∧ m' = m) ∨
      ∃ b, m.outcome settings p className = .ok (some b) ∧ Linked b m q m' := by
  unfold Follows
  split <;> simp [*]

section Reading

theorem persists_failures (h : p.Extends q) (m : Member) :
    Except.Persists (m.failures p) (m.failures q) :=
  Except.persists_mapM (fun _ _ hname => h.className_ok hname) _

theorem persists_body (h : p.Extends q) (s : Stub) :
    Except.Persists (s.body settings p m) (s.body settings q m) :=
  (Except.Persists.refl _).bind fun _ =>
    ((persists_failures h m).mapError _).bind fun _ => .refl _

theorem persists_outcome (h : p.Extends q) :
    Except.Persists (m.outcome settings p className) (m.outcome settings q className) := by
  apply (Stub.persists_ofMember h).bind
  intro found
  cases found with
  | none => exact .refl _
  | some stub => exact (persists_body h stub).bind fun _ => .refl _

theorem failures_of_recoded (h : Recoded p m.attributes m'.attributes) :
    m'.failures q = m.failures q := by
  unfold failures
  generalize m.attributes = as at h ⊢
  generalize m'.attributes = as' at h ⊢
  cases h with
  | replaced h => simp [exceptionsOf]
  | appended h hn => simp [exceptionsOf]

theorem outcome_of_recoded (hm : m' = { m with attributes := m'.attributes })
    (h : Recoded p m.attributes m'.attributes) :
    m'.outcome settings q className = m.outcome settings q className := by
  have hfailures : m'.failures q = m.failures q := failures_of_recoded h
  have haccess : m'.access = m.access := by rw [hm]
  have hbody (s : Stub) : s.body settings q m' = s.body settings q m := by
    rw [Stub.body, Stub.body, hfailures, haccess]
  simp only [outcome, Stub.ofMember_of_recoded hm h, hbody]

end Reading

section Code

theorem codeName?_replaceCode (name : UInt16) (code : Code) (as : List Attribute) :
    codeName? (replaceCode (.code name code) as) = some name := by
  induction as with
  | nil => rfl
  | cons a as ih =>
    cases a with
    | code _ _ => rfl
    | _ => exact ih

theorem replaceCode_replaceCode (name : UInt16) (code : Code) (new : Attribute)
    (as : List Attribute) :
    replaceCode new (replaceCode (.code name code) as) = replaceCode new as := by
  induction as with
  | nil => rfl
  | cons a as ih =>
    cases a with
    | code _ _ => rfl
    | _ => exact congrArg (List.cons _) ih

theorem Linked.trans (hqr : q.Extends r) (h : Linked b m q m') (h' : Linked b m' r m'') :
    Linked b m r m'' := by
  obtain ⟨name, code, -, hname, rfl⟩ := h
  obtain ⟨name', code', hc', hname', rfl⟩ := h'
  rw [codeName?_replaceCode] at hname'
  have heq : name' = name := by
    rcases hname' with h | ⟨h, -⟩
    · exact (Option.some.inj h).symm
    · cases h
  subst heq
  refine ⟨name', code', hc', hname.imp_right fun h => ⟨h.1, hqr.text_ok h.2⟩, ?_⟩
  rw [replaceCode_replaceCode]

theorem Linked.again (h : Linked b m p m') : Linked b m' p m' := by
  obtain ⟨name, code, hc, -, rfl⟩ := h
  refine ⟨name, code, hc, .inl (codeName?_replaceCode name code _), ?_⟩
  rw [replaceCode_replaceCode]

/-- A method that carries out a body has its code under one name, whatever takes its place. -/
theorem Linked.replaced (h : Linked b m p m) (h' : Linked b m q m') :
    ∃ front back name old new, m.attributes = front ++ .code name old :: back ∧
      (∀ a ∈ front, codeOf? a = none) ∧ Carries b p old ∧ Carries b q new ∧
      m' = { m with attributes := front ++ .code name new :: back } := by
  obtain ⟨name, old, hold, -, hm⟩ := h
  have has : m.attributes = replaceCode (.code name old) m.attributes := congrArg Member.attributes hm
  have hname : codeName? m.attributes = some name := by rw [has, codeName?_replaceCode]
  obtain ⟨name', new, hnew, hname', rfl⟩ := h'
  have heq : name' = name := by
    rw [hname] at hname'
    rcases hname' with h | ⟨h, -⟩
    · exact (Option.some.inj h).symm
    · cases h
  subst heq
  obtain ⟨front, first, back, hfirst, hfront, hput⟩ := replaceCode_of_codeName? hname
  exact ⟨front, back, name', old, new, has.trans (hput _), hfront, hold, hnew, by rw [hput]⟩

theorem exists_symbols {ops : List Op} (h : ∀ op ∈ ops, op.symbol?.isSome = true) :
    ∃ symbols : List Symbol, ops.map Op.symbol? = symbols.map some := by
  induction ops with
  | nil => exact ⟨[], rfl⟩
  | cons op ops ih =>
    obtain ⟨hop, hops⟩ := List.forall_mem_cons.1 h
    obtain ⟨s, hs⟩ := Option.isSome_iff_exists.1 hop
    obtain ⟨symbols, hsymbols⟩ := ih hops
    exact ⟨s :: symbols, by rw [List.map_cons, List.map_cons, hs, hsymbols]⟩

theorem Carries.renumbered {old new : Code} (hb : ∀ op ∈ b.ops, op.symbol?.isSome = true)
    (h : Carries b p old) (h' : Carries b q new) : old.Renumbered p q new := by
  obtain ⟨is, rfl, his⟩ := h
  obtain ⟨is', rfl, his'⟩ := h'
  obtain ⟨symbols, hsymbols⟩ := exists_symbols hb
  exact ⟨rfl, symbols, his.trans hsymbols, his'.trans hsymbols⟩

end Code

theorem Follows.outcome_eq (hpq : p.Extends q) (h : Follows settings p className q m m') :
    m'.outcome settings q className = m.outcome settings p className := by
  rcases follows_iff.1 h with ⟨ho, rfl⟩ | ⟨b, ho, hlinked⟩
  · rw [ho]
    exact persists_outcome hpq _ ho
  · obtain ⟨hm, hrecoded⟩ := hlinked.recoded
    rw [outcome_of_recoded hm hrecoded, ho]
    exact persists_outcome hpq _ ho

theorem Follows.stands (hpq : p.Extends q) (h : Follows settings p className q m m') :
    Stands settings className q m' := by
  apply follows_iff.2
  rw [h.outcome_eq hpq]
  rcases follows_iff.1 h with ⟨ho, rfl⟩ | ⟨b, ho, hlinked⟩
  · exact .inl ⟨ho, rfl⟩
  · exact .inr ⟨b, ho, hlinked.again⟩

theorem Follows.trans (hpq : p.Extends q) (hqr : q.Extends r)
    (h : Follows settings p className q m m') (h' : Follows settings q className r m' m'') :
    Follows settings p className r m m'' := by
  apply follows_iff.2
  have houtcome := h.outcome_eq hpq
  rcases follows_iff.1 h with ⟨ho, rfl⟩ | ⟨b, ho, hlinked⟩
  · rcases follows_iff.1 h' with ⟨-, rfl⟩ | ⟨b, hb, -⟩
    · exact .inl ⟨ho, rfl⟩
    · rw [houtcome, ho] at hb
      cases hb
  · rcases follows_iff.1 h' with ⟨hnone, -⟩ | ⟨b', hb', hlinked'⟩
    · rw [houtcome, ho] at hnone
      cases hnone
    · rw [houtcome, ho] at hb'
      cases hb'
      exact .inr ⟨b, ho, hlinked.trans hqr hlinked'⟩

theorem Stands.settled (h : Stands settings className p m) : Settled settings p className m := by
  intro q hpq
  rcases follows_iff.1 h with ⟨ho, -⟩ | ⟨b, ho, -⟩ <;>
  · rw [ho]
    exact persists_outcome hpq _ ho

theorem Stands.of_extends (hpq : p.Extends q) (h : Stands settings className p m) :
    Stands settings className q m :=
  (lasting_follows _ _ _ hpq h).stands hpq

theorem Stands.renumbered (h : Stands settings className p m)
    (h' : Follows settings p className q m m') : Renumbered p q m m' := by
  rcases follows_iff.1 h' with ⟨-, rfl⟩ | ⟨b, hb, hlinked'⟩
  · exact .same
  · rcases follows_iff.1 h with ⟨hnone, -⟩ | ⟨b', hb', hlinked⟩
    · rw [hb] at hnone
      cases hnone
    · rw [hb] at hb'
      cases hb'
      obtain ⟨front, back, name, old, new, hm, hfront, hold, hnew, rfl⟩ :=
        hlinked.replaced hlinked'
      exact .recoded hm hfront (hold.renumbered (isSome_symbol?_of_outcome hb) hnew)

theorem linkAll_stands {steps : List (Member × Bool)} (hl : l.constants.Sound base)
    (h : runOn (linkAll settings className ms) l = (.ok steps, k)) :
    ∀ m ∈ steps.map Prod.fst, Stands settings className k.constants.pool m := by
  induction ms generalizing l steps with
  | nil =>
    cases h
    simp
  | cons m ms ih =>
    obtain ⟨step, u, rest, hm, hms, rfl⟩ := linkAll_cons_eq_ok h
    obtain ⟨hu, hlu, hstep⟩ := link_answers hl hm
    obtain ⟨-, huv, -⟩ := linkAll_passes hu hms
    exact List.forall_mem_cons.2 ⟨(hstep.stands hlu).of_extends huv, ih hu hms⟩

end Member

namespace ClassFile

variable {settings : Settings} {className : String} {c d e : ClassFile}

/-- The class has a name, and its methods are what becomes of them. -/
structure Stands (settings : Settings) (className : String) (c : ClassFile) : Prop where
  named : c.className = .ok className
  methods : ∀ m ∈ c.methods, m.Stands settings className c.pool

/-- The second class is the first one with its methods linked, once or more. -/
structure Follows (settings : Settings) (className : String) (c d : ClassFile) : Prop where
  rest : d = { c with pool := d.pool, methods := d.methods }
  pool : c.pool.Extends d.pool
  methods : List.Forall₂ (Member.Follows settings c.pool className d.pool) c.methods d.methods

/-- The same class, but for more constants at the end of its pool and for their numbers in the code
of methods. Code that is kept says what it said. -/
structure Renumbered (c d : ClassFile) : Prop where
  rest : d = { c with pool := d.pool, methods := d.methods }
  pool : c.pool.Extends d.pool
  methods : List.Forall₂ (Member.Renumbered c.pool d.pool) c.methods d.methods
  symbols : ∀ i s, Instruction.symbol? c.pool i = some s → Instruction.symbol? d.pool i = some s

theorem Stands.follows_self (h : c.Stands settings className) : c.Follows settings className c :=
  ⟨rfl, .refl _, List.forall₂_same.2 h.methods⟩

theorem Follows.trans (h : c.Follows settings className d) (h' : d.Follows settings className e) :
    c.Follows settings className e where
  rest := by rw [h'.rest, h.rest]
  pool := h.pool.trans h'.pool
  methods := forall₂_trans
    (fun _ _ _ hm hm' => hm.trans h.pool h'.pool hm') h.methods h'.methods

theorem Follows.stands (hc : c.className = .ok className) (h : c.Follows settings className d) :
    d.Stands settings className where
  named := className_of_extends (by rw [h.rest]) h.pool hc
  methods := by
    intro m' hm'
    obtain ⟨m, -, hm⟩ := exists_of_forall₂ h.methods hm'
    exact hm.stands h.pool

theorem Stands.renumbered (hc : c.Stands settings className) (h : c.Follows settings className d) :
    c.Renumbered d where
  rest := h.rest
  pool := h.pool
  methods := ((List.forall₂_and_left _ _).2 ⟨hc.methods, h.methods⟩).imp fun _ _ hm =>
    hm.1.renumbered hm.2
  symbols := fun _ _ hs => Instruction.symbol?_of_extends h.pool hs

theorem stands_of_link (h : (c.link settings).1 = .ok d) :
    ∃ className, d.Stands settings className := by
  obtain ⟨className, steps, reached, hc, hrun, rfl⟩ := link_eq_ok.1 h
  obtain ⟨-, hext, -⟩ := Member.linkAll_passes (.initial c.pool) hrun
  have hpool : c.pool.Extends reached.constants.pool := hext
  exact ⟨className, className_of_extends (c := c) rfl hpool hc,
    Member.linkAll_stands (.initial c.pool) hrun⟩

/-- A class whose methods are what becomes of them can only run out of numbers. -/
theorem Stands.link_follows (hc : c.Stands settings className) :
    match (c.link settings).1 with
    | .ok linked => c.Follows settings className linked
    | .error e => e = .classFile .numberTooLarge ∧ c.RunsOut settings := by
  have hsettled : ∀ name, c.className = .ok name →
      ∀ m ∈ c.methods, Member.Settled settings c.pool name m := by
    intro name hname m hm
    obtain rfl : className = name := Except.ok.inj (hc.named.symm.trans hname)
    exact (hc.methods m hm).settled
  have hlink := ClassFile.link_follows hsettled
  cases h : (c.link settings).1 with
  | ok linked =>
    rw [h] at hlink
    obtain ⟨name, hname, hpool, hmethods⟩ := hlink
    obtain rfl : className = name := Except.ok.inj (hc.named.symm.trans hname)
    obtain ⟨_, _, _, _, _, hlinked⟩ := link_eq_ok.1 h
    exact ⟨by rw [hlinked], hpool, hmethods⟩
  | error e =>
    rw [h] at hlink
    apply hlink.resolve_right
    have hnone := Member.findSome?_fault?_of_follows (List.forall₂_same.2 hc.methods)
    rw [fault?, hc.named]
    dsimp only
    rw [hnone]
    simp

/-- Linking takes these bytes to those, and they read back as the class they were written for. -/
def Relinks (settings : Settings) (bs out : Bytes) : Prop :=
  (linkBytes settings bs).1 = .ok out ∧
    ∃ c linked, read bs = .ok c ∧ (c.link settings).1 = .ok linked ∧ read out = .ok linked

theorem relinks_of_link {linked : ClassFile} {bs out : Bytes} (hr : read bs = .ok c)
    (hl : (c.link settings).1 = .ok linked) (hw : linked.write = .ok out)
    (hback : read out = .ok linked) : Relinks settings bs out :=
  ⟨linkBytes_eq_ok.2 ⟨c, linked, hr, hl, hw⟩, c, linked, hr, hl, hback⟩

/-- What is linked once or more is the class that was linked first, but for its numbers. -/
theorem follows_of_relinks {bs last : Bytes} (hfirst : read bs = .ok c)
    (hc : c.Stands settings className) (h : Relation.ReflTransGen (Relinks settings) bs last) :
    ∃ d, read last = .ok d ∧ c.Follows settings className d := by
  induction h with
  | refl => exact ⟨c, hfirst, hc.follows_self⟩
  | tail _ hstep ih =>
    obtain ⟨d, hd, hfollows⟩ := ih
    obtain ⟨-, d', linked, hd', hlink, hread⟩ := hstep
    obtain rfl : d = d' := Except.ok.inj (hd.symm.trans hd')
    have hnext := (hfollows.stands hc.named).link_follows
    rw [hlink] at hnext
    exact ⟨linked, hread, hfollows.trans hnext⟩

/-- A class that was linked once can be linked again, however often, unless its pool is full or it
cannot be written; nothing but numbers changes. -/
theorem linkBytes_idempotent {bs first last : Bytes} (hfirst : Relinks settings bs first)
    (hlast : Relation.ReflTransGen (Relinks settings) first last) :
    ∃ c d, read first = .ok c ∧ read last = .ok d ∧ c.Renumbered d ∧
      match (linkBytes settings last).1 with
      | .ok out => ∃ linked, (d.link settings).1 = .ok linked ∧ linked.write = .ok out ∧
          c.Renumbered linked ∧ d.Renumbered linked
      | .error e => (e = .classFile .numberTooLarge ∧ d.RunsOut settings) ∨
          ∃ linked cause, (d.link settings).1 = .ok linked ∧ linked.write = .error cause ∧
            e = .classFile cause := by
  obtain ⟨-, _, c, -, hlink, hc⟩ := hfirst
  obtain ⟨className, hstands⟩ := stands_of_link hlink
  obtain ⟨d, hd, hfollows⟩ := follows_of_relinks hc hstands hlast
  have hagain := hfollows.stands hstands.named
  refine ⟨c, d, hc, hd, hstands.renumbered hfollows, ?_⟩
  have hnext := hagain.link_follows
  rw [linkBytes_fst hd]
  cases hrun : (d.link settings).1 with
  | error e =>
    rw [hrun] at hnext
    exact .inl hnext
  | ok linked =>
    rw [hrun] at hnext
    cases hwrite : linked.write with
    | error cause =>
      simp only [Except.bind, hwrite]
      exact .inr ⟨linked, cause, rfl, hwrite, rfl⟩
    | ok out =>
      simp only [Except.bind, hwrite]
      exact ⟨linked, rfl, hwrite, hstands.renumbered (hfollows.trans hnext),
        hagain.renumbered hnext⟩

/-- The linked class, linked once more: the constants of its stubs are there twice. -/
def mixedAgain : ClassFile :=
  let code : Code :=
    { constructingCode with
      instructions := [.short 0xbb 22, .plain 0x59, .short 0xb7 26, .plain 0xb1] }
  { mixedLinked with
    pool := ⟨mixedLinked.pool.slots ++ #[some (.utf8 "E"), some (.classInfo 21),
      some (.utf8 "<init>"), some (.utf8 "()V"), some (.nameAndType 23 24), some (.methodref 22 25)]⟩
    methods :=
      [⟨0x0008, 3, 4, [.code 9 bareCode]⟩,
        ⟨0x0008, 10, 4, [.annotations 5 [⟨6, [(7, .text 8)]⟩], .code 9 code, .exceptions 11 [12]]⟩,
        ⟨0x0008, 13, 4, [.annotations 5 [⟨6, [(7, .text 8)]⟩], .exceptions 11 [12], .code 20 code]⟩] }

theorem exists_reads {c : ClassFile}
    (h : (c.write.toOption.bind fun out => (read out).toOption) = some c) :
    ∃ out, c.write = .ok out ∧ read out = .ok c := by
  obtain ⟨out, hout, hread⟩ := Option.bind_eq_some_iff.1 h
  exact ⟨out, Except.eq_ok_of_toOption hout, Except.eq_ok_of_toOption hread⟩

theorem link_mixedLinked : (mixedLinked.link ⟨"p", "E"⟩).1 = .ok mixedAgain :=
  Except.eq_ok_of_toOption (by decide +kernel)

theorem reads_mixedLinked : ∃ out, mixedLinked.write = .ok out ∧ read out = .ok mixedLinked := by
  apply exists_reads
  decide +kernel

theorem reads_mixedAgain : ∃ out, mixedAgain.write = .ok out ∧ read out = .ok mixedAgain := by
  apply exists_reads
  decide +kernel

theorem linkBytes_idempotent_mixed : mixedLinked.Renumbered mixedAgain ∧
    ∃ last out linked, read last = .ok mixedAgain ∧ (linkBytes ⟨"p", "E"⟩ last).1 = .ok out ∧
      linked.write = .ok out ∧ mixedLinked.Renumbered linked ∧ mixedAgain.Renumbered linked := by
  obtain ⟨first, hwrite, hread⟩ := reads_mixedLinked
  obtain ⟨last, hwrite', hread'⟩ := reads_mixedAgain
  have hfirst := relinks_of_link read_mixed link_mixed hwrite hread
  have hlast := relinks_of_link hread link_mixedLinked hwrite' hread'
  obtain ⟨c, d, hc, hd, hrenumbered, hnext⟩ := linkBytes_idempotent hfirst (.single hlast)
  obtain rfl : c = mixedLinked := Except.ok.inj (hc.symm.trans hread)
  obtain rfl : d = mixedAgain := Except.ok.inj (hd.symm.trans hread')
  have hsome : ((mixedAgain.link ⟨"p", "E"⟩).1.toOption.bind fun linked =>
      linked.write.toOption).isSome = true := by decide +kernel
  obtain ⟨out, hout⟩ := Option.isSome_iff_exists.1 hsome
  obtain ⟨linked, hlink, hwritten⟩ := Option.bind_eq_some_iff.1 hout
  have hok : (linkBytes ⟨"p", "E"⟩ last).1 = .ok out := linkBytes_eq_ok.2
    ⟨mixedAgain, linked, hread', Except.eq_ok_of_toOption hlink, Except.eq_ok_of_toOption hwritten⟩
  rw [hok] at hnext
  obtain ⟨linked', -, hw, hboth, hagain⟩ := hnext
  exact ⟨hrenumbered, last, out, linked', hread', hok, hw, hboth, hagain⟩

end ClassFile

end StubLinker
