import StubLinker.Proofs.Link.Frame

namespace StubLinker

def Member.NamedBy (p : Pool) (className : String) (m : Member) (s : StubSummary) : Prop :=
  s.className = className ∧ p.text m.name = .ok s.method ∧ p.text m.descriptor = .ok s.descriptor

namespace Stub

variable {settings : Settings} {className : String} {p q : Pool} {m : Member}

theorem ofMember_of_marked {step : Member × Bool} (h : Member.Marked p m step) :
    ofMember settings q className step.1 = ofMember settings q className m := by
  cases h with
  | kept => rfl
  | recoded ha => exact ofMember_of_recoded rfl ha

theorem namedBy_summary {s : Stub} (h : ofMember settings p className m = .ok (some s)) :
    m.NamedBy p className s.summary := by
  obtain ⟨name, hname, h⟩ := Except.bind_eq_ok.1 h
  obtain ⟨descriptor, hdescriptor, h⟩ := Except.bind_eq_ok.1 h
  obtain ⟨annotations, -, h⟩ := Except.bind_eq_ok.1 h
  obtain ⟨directive, -, h⟩ := Except.bind_eq_ok.1 h
  obtain ⟨d, -, rfl⟩ := Option.map_eq_some_iff.1 (Except.ok.inj h)
  exact ⟨rfl, Except.mapError_eq_ok.1 hname, Except.mapError_eq_ok.1 hdescriptor⟩

end Stub

namespace Member

variable {settings : Settings} {className : String} {p q : Pool} {m : Member}
  {ms : List Member} {l u : Linking} {steps : List (Member × Bool)} {e : LinkError}

theorem mapM_ofMember_of_passes (h : List.Forall₂ (Passes settings className q) ms steps)
    (hpq : p.Extends q) (hw : ∀ m ∈ ms, m.isWithin p = true) :
    (steps.map Prod.fst).mapM (Stub.ofMember settings q className) =
      ms.mapM (Stub.ofMember settings p className) := by
  induction h with
  | nil => rw [List.map_nil, List.mapM_nil, List.mapM_nil]
  | cons hm hms ih =>
    obtain ⟨hwm, hw⟩ := List.forall_mem_cons.1 hw
    obtain ⟨found, -, -, hmarked⟩ := hm
    rw [List.map_cons, List.mapM_cons, List.mapM_cons, Stub.ofMember_of_marked hmarked,
      Stub.ofMember_of_extends hpq hwm, ih hw]

/-- Methods that have passed read without error, and as stubs just where they have new code. -/
theorem exists_stubs_of_passes (h : List.Forall₂ (Passes settings className q) ms steps)
    (hpq : p.Extends q) (hw : ∀ m ∈ ms, m.isWithin p = true) :
    ∃ found, ms.mapM (Stub.ofMember settings p className) = .ok found ∧
      List.Forall₂ (NamedBy p className) ((steps.filter (·.2)).map Prod.fst)
        ((found.filterMap id).map Stub.summary) := by
  induction h with
  | nil => exact ⟨[], rfl, .nil⟩
  | cons hm hms ih =>
    obtain ⟨hwm, hw⟩ := List.forall_mem_cons.1 hw
    obtain ⟨founds, hfounds, hnames⟩ := ih hw
    obtain ⟨found, hfound, hmark, hmarked⟩ := hm
    rw [Stub.ofMember_of_extends hpq hwm] at hfound
    refine ⟨found :: founds, ?_, ?_⟩
    · rw [List.mapM_cons, hfound, hfounds]
      rfl
    · cases hmarked with
      | kept =>
        cases found with
        | none => exact hnames
        | some stub => cases hmark
      | recoded _ =>
        cases found with
        | none => cases hmark
        | some stub =>
          have hstub := Stub.namedBy_summary hfound
          exact .cons hstub hnames

/-- Linking methods in a row stops at one of them, with an error. -/
def StopsIn (settings : Settings) (className : String) (ms : List Member) (l : Linking)
    (e : LinkError) : Prop :=
  ∃ before m after steps reached left, ms = before ++ m :: after ∧
    runOn (linkAll settings className before) l = (.ok steps, reached) ∧
    runOn (m.link settings className) reached = (.error e, left)

theorem stopsIn_of_error (h : runOn (linkAll settings className ms) l = (.error e, u)) :
    StopsIn settings className ms l e := by
  induction ms generalizing l with
  | nil => cases h
  | cons m ms ih =>
    rw [linkAll] at h
    rcases runOn_bind_eq_error.1 h with hm | ⟨step, v, hm, h⟩
    · exact ⟨[], m, ms, [], l, u, rfl, rfl, hm⟩
    · rcases runOn_bind_eq_error.1 h with hms | ⟨steps, w, -, h⟩
      · obtain ⟨before, m', after, steps, reached, left, rfl, hbefore, hm'⟩ := ih hms
        refine ⟨m :: before, m', after, step :: steps, reached, left, rfl, ?_, hm'⟩
        rw [linkAll]
        exact runOn_bind_eq_ok.2 ⟨step, v, hm, runOn_bind_eq_ok.2 ⟨steps, reached, hbefore, rfl⟩⟩
      · cases h

/-- Linking stops at a method that cannot be read, unless it stops before. -/
theorem linkAll_of_unreadable (front rest : List Member) (hl : l.constants.Sound p) (hw : m.isWithin p = true)
    (hm : Stub.ofMember settings p className m = .error e) :
    ∃ e' u, runOn (linkAll settings className (front ++ m :: rest)) l = (.error e', u) ∧
      (e' = e ∨ StopsIn settings className front l e') := by
  rcases hfront : runOn (linkAll settings className front) l with ⟨e' | steps, u⟩
  · refine ⟨e', u, ?_, .inr (stopsIn_of_error hfront)⟩
    rw [linkAll_append]
    exact runOn_bind_eq_error.2 (.inl hfront)
  · obtain ⟨hu, -, -⟩ := linkAll_passes hl hfront
    rw [← Stub.ofMember_of_extends hu.extends_base hw] at hm
    refine ⟨e, u, ?_, .inl rfl⟩
    have hlink : runOn (linkAll settings className (m :: rest)) u = (.error e, u) := by
      rw [linkAll]
      exact runOn_bind_eq_error.2 (.inl (runOn_link_of_error hm))
    rw [linkAll_append]
    exact runOn_bind_eq_error.2 (.inr ⟨steps, u, hfront, runOn_bind_eq_error.2 (.inl hlink)⟩)

end Member

namespace ClassFile

variable {settings : Settings} {c : ClassFile} {bs : Bytes}

theorem summaries_of_read {className : String} (hr : read bs = .ok c)
    (hc : c.className = .ok className) :
    summaries settings bs = (do
      let found ← c.methods.mapM (Stub.ofMember settings c.pool className)
      return (found.filterMap id).map Stub.summary) := by
  have hstubs : c.stubs settings = (do
      let found ← c.methods.mapM (Stub.ofMember settings c.pool className)
      return found.filterMap id) := by
    rw [stubs, hc]
    rfl
  rw [summaries, hr]
  simp only [Except.mapError_ok, Except.ok_bind, hstubs, bind_assoc, pure_bind]

theorem summaries_of_className_error {cause : ClassFileError} (hr : read bs = .ok c)
    (hc : c.className = .error cause) : summaries settings bs = .error (.classFile cause) := by
  simp only [summaries, stubs, hr, hc, Except.mapError_ok, Except.mapError_error, Except.ok_bind, Except.error_bind]

theorem linkBytes_of_link_error {e : LinkError} (hr : read bs = .ok c)
    (h : (c.link settings).1 = .error e) : (linkBytes settings bs).1 = .error e := by
  rw [linkBytes, hr]
  dsimp only
  rcases hl : c.link settings with ⟨r, log⟩
  rw [hl] at h
  cases h
  rfl

theorem linkBytes_of_unreadable {className : String} {front rest : List Member} {m : Member}
    {e : LinkError} (hr : read bs = .ok c) (hc : c.className = .ok className)
    (hms : c.methods = front ++ m :: rest) (hw : m.isWithin c.pool = true)
    (hm : Stub.ofMember settings c.pool className m = .error e) :
    ∃ e', (linkBytes settings bs).1 = .error e' ∧
      (e' = e ∨ Member.StopsIn settings className front c.start e') := by
  obtain ⟨e', u, hrun, he'⟩ :=
    Member.linkAll_of_unreadable (l := c.start) front rest (.initial c.pool) hw hm
  have hlink : (c.link settings).1 = .error e' := by
    rw [link_fst, hc, hms]
    dsimp only
    rw [hrun]
  exact ⟨e', linkBytes_of_link_error hr hlink, he'⟩

/-- Listing a class whose numbers lie within its pool agrees with linking it. If it can be linked, the
list names the methods with new code, and is the list of the linked class as well; if it cannot be
listed, it cannot be linked, for the same reason or for one that a method before has. -/
theorem summaries_agree (hr : read bs = .ok c) (hw : ∀ m ∈ c.methods, m.isWithin c.pool = true) :
    (∀ out, (linkBytes settings bs).1 = .ok out →
      ∃ className steps reached, ∃ linked : ClassFile, ∃ found, c.className = .ok className ∧
        runOn (Member.linkAll settings className c.methods) c.start = (.ok steps, reached) ∧
        linked = { c with pool := reached.constants.pool, methods := steps.map Prod.fst } ∧
        linked.write = .ok out ∧ List.Forall₂ (Member.Marked linked.pool) c.methods steps ∧
        summaries settings bs = .ok found ∧
        List.Forall₂ (Member.NamedBy c.pool className) ((steps.filter (·.2)).map Prod.fst) found ∧
        (read out = .ok linked → summaries settings out = summaries settings bs)) ∧
      ∀ e, summaries settings bs = .error e →
        (linkBytes settings bs).1 = .error e ∨
          ∃ className front m rest e', c.className = .ok className ∧ c.methods = front ++ m :: rest ∧
            (∀ m' ∈ front, ∃ found, Stub.ofMember settings c.pool className m' = .ok found) ∧
            Stub.ofMember settings c.pool className m = .error e ∧
            Member.StopsIn settings className front c.start e' ∧
            (linkBytes settings bs).1 = .error e' := by
  refine ⟨fun out hout => ?_, fun e he => ?_⟩
  · obtain ⟨c', linked, hr', hlinked, hwrite⟩ := linkBytes_eq_ok.1 hout
    obtain rfl : c = c' := Except.ok.inj (hr.symm.trans hr')
    obtain ⟨className, steps, reached, hc, hrun, rfl⟩ := link_eq_ok.1 hlinked
    -- each method is listed in the old pool and was linked in a larger one
    obtain ⟨-, hext, hall⟩ := Member.linkAll_passes (.initial c.pool) hrun
    have hpool : c.pool.Extends reached.constants.pool := hext
    obtain ⟨found, hfound, hnames⟩ := Member.exists_stubs_of_passes hall hpool hw
    refine ⟨className, steps, reached, _, _, hc, hrun, rfl, hwrite,
      hall.imp fun _ _ => Member.Passes.marked, ?_, hnames, fun hread => ?_⟩
    · rw [summaries_of_read hr hc, hfound]
      rfl
    · rw [summaries_of_read hr hc, summaries_of_read hread (className_of_extends (c := c) rfl hpool hc)]
      dsimp only
      rw [Member.mapM_ofMember_of_passes hall hpool hw]
  · cases hc : c.className with
    | error cause =>
      rw [summaries_of_className_error hr hc] at he
      have hlink : (c.link settings).1 = .error (.classFile cause) := by rw [link_fst, hc]
      cases he
      exact .inl (linkBytes_of_link_error hr hlink)
    | ok className =>
      rw [summaries_of_read hr hc] at he
      rcases Except.bind_eq_error.1 he with he | ⟨found, -, he⟩
      · obtain ⟨front, m, rest, hms, hfront, hm⟩ := Except.mapM_eq_error he
        have hwm : m.isWithin c.pool = true := hw m (by simp [hms])
        obtain ⟨e', hbytes, rfl | hstops⟩ := linkBytes_of_unreadable hr hc hms hwm hm
        · exact .inl hbytes
        · exact .inr ⟨className, front, m, rest, e', rfl, hms, hfront, hm, hstops, hbytes⟩
      · cases he

theorem summaries_agree_mixed :
    ∃ bs out found, read bs = .ok mixed ∧ (linkBytes ⟨"p", "E"⟩ bs).1 = .ok out ∧
      summaries ⟨"p", "E"⟩ bs = .ok found ∧ summaries ⟨"p", "E"⟩ out = .ok found ∧
      found.map StubSummary.method = ["g", "h"] := by
  have hback : read (mixedLinked.write.toOption.getD []) = .ok mixedLinked :=
    Except.eq_ok_of_toOption (by decide +kernel)
  have hnames : (summaries ⟨"p", "E"⟩ (mixed.write.toOption.getD [])).toOption.map
      (List.map StubSummary.method) = some ["g", "h"] := by decide +kernel
  obtain ⟨out, hwrite, hout⟩ := linkBytes_mixed
  obtain ⟨className, steps, reached, linked, found, hc, hrun, hlinked, -, -, hfound, -, hsame⟩ :=
    (summaries_agree read_mixed (by decide +kernel)).1 out hout
  obtain rfl : linked = mixedLinked :=
    Except.ok.inj ((link_eq_ok.2 ⟨className, steps, reached, hc, hrun, hlinked⟩).symm.trans link_mixed)
  rw [hwrite] at hback
  rw [hfound] at hnames
  exact ⟨_, out, found, read_mixed, hout, hfound, (hsame hback).trans hfound,
    Option.some.inj hnames⟩

end ClassFile

end StubLinker
