import StubLinker.CommandLine.Tool
import StubLinker.Proofs.Report.Scan
import StubLinker.Proofs.Report.Text

namespace StubLinker

theorem Disk.write_of_write {d d' : Disk} {path : String} {contents : Bytes}
    (h : d.write path contents = .ok d') (contents' : Bytes) :
    ∃ d'', d.write path contents' = .ok d'' := by
  obtain ⟨s, hs, h⟩ := Except.bind_eq_ok.1 h
  by_cases hplace : (s.isSpecial || s.slash) = true
  · rw [if_pos hplace] at h
    cases h
  rw [if_neg hplace] at h
  obtain ⟨u, hname, h⟩ := Except.bind_eq_ok.1 h
  refine ⟨d.put s.location (.file contents'), ?_⟩
  rw [write, hs, Except.ok_bind, if_neg hplace, hname, Except.ok_bind]
  cases ha : d.root.at? s.location with
  | none => rfl
  | some e =>
    simp only [ha] at h
    cases e with
    | folder inside => cases h
    | file old => rfl

namespace Reporting

def deliver (output : Option String) (r : Report) (disk : Disk) : Outcome :=
  let found := [s!"Found {r.count} stub methods."]
  match output with
  | none => { code := 0, printed := r.toJson ++ "\n", complaints := found, disk }
  | some path =>
    match disk.write path (Bytes.ofText r.toJson) with
    | .ok disk => { code := 0, complaints := found, disk }
    | .error e => .failed disk [s!"Error: {(ReportError.uncreated path e).message}"]

theorem run_eq_deliver {program : String} {args inputs : List String} {output : Option String}
    {disk : Disk} {r : Report} (hargs : arguments args ([], none) = some (inputs, output))
    (hinputs : inputs ≠ []) (h : Report.ofInputs disk inputs = .ok r) :
    run program args disk = deliver output r disk := by
  rw [run, hargs]
  cases inputs with
  | nil => exact absurd rfl hinputs
  | cons input inputs =>
    simp only [h]
    rfl

theorem code_deliver {output : Option String} {r r' : Report} {disk : Disk}
    (h : (deliver output r disk).code = 0) (hcount : r'.count = r.count) :
    (deliver output r' disk).code = 0 ∧
      (deliver output r' disk).complaints = (deliver output r disk).complaints := by
  unfold deliver at h ⊢
  rw [hcount]
  cases output with
  | none => exact ⟨rfl, rfl⟩
  | some path =>
    dsimp only at h ⊢
    cases hwrite : disk.write path (Bytes.ofText r.toJson) with
    | error e =>
      rw [hwrite] at h
      cases h
    | ok d =>
      obtain ⟨d', hwrite'⟩ := Disk.write_of_write hwrite (Bytes.ofText r'.toJson)
      rw [hwrite']
      exact ⟨rfl, rfl⟩

end Reporting

namespace Report

variable {d : Disk} {inputs inputs' : List String} {r : Report}

theorem takes_inputs (d : Disk) (inputs : List String) :
    Takes (fun r => inputs.foldlM (addInput d) r) (scanned d inputs) :=
  Takes.foldlM fun path _ => takes_addInput d path

theorem ofInputs_eq_ok :
    ofInputs d inputs = .ok r ↔ ∃ found, inputs.foldlM (addInput d) {} = .ok found ∧ r = found.sorted := by
  rw [ofInputs]
  cases inputs.foldlM (addInput d) {} with
  | error e => simp [Except.map]
  | ok found => simp [Except.map, eq_comm]

theorem lists_of_ofInputs (h : ofInputs d inputs = .ok r) :
    ∃ cs found, scanned d inputs = some cs ∧ Inspects cs found ∧ r.Lists found.flatten := by
  obtain ⟨reached, hloop, rfl⟩ := ofInputs_eq_ok.1 h
  obtain ⟨cs, found, hcs, hfound, hgives⟩ := takes_inputs d inputs {} reached hloop
  obtain rfl := Except.ok.inj (hloop.symm.trans (hgives {}))
  exact ⟨cs, found, hcs, hfound, lists_foldl_add found.flatten⟩

theorem ofInputs_of_perm (hp : inputs.Perm inputs') (h : ofInputs d inputs = .ok r) :
    ∃ r', ofInputs d inputs' = .ok r' := by
  obtain ⟨reached, hloop, -⟩ := ofInputs_eq_ok.1 h
  obtain ⟨stubs, hgives⟩ := gives_foldlM fun path hpath =>
    gives_of_foldlM (fun path _ => takes_addInput d path) hloop path (hp.mem_iff.2 hpath)
  exact ⟨_, ofInputs_eq_ok.2 ⟨_, hgives {}, rfl⟩⟩

/-- A report counts and lists every stub of its inputs, as often as it is found, and its text is that
of no other report. The same inputs in another order give a report that counts and lists the same,
with the same text if the stubs are told by class, method and descriptor. -/
theorem ofInputs_conserves (h : ofInputs d inputs = .ok r) :
    ∃ data found, scanned d inputs = some data ∧ Inspects data found ∧ r.Lists found.flatten ∧
      (∀ r' : Report, r'.toJson = r.toJson ↔ r' = r) ∧
      ∀ inputs', inputs.Perm inputs' →
        ∃ r', ofInputs d inputs' = .ok r' ∧ r'.count = r.count ∧
          (∀ name, (r'.listed name).Perm (r.listed name)) ∧
          (Told found.flatten → r'.toJson = r.toJson) ∧
          ∀ program args args' output,
            Reporting.arguments args ([], none) = some (inputs, output) →
            Reporting.arguments args' ([], none) = some (inputs', output) →
            (Reporting.run program args d).code = 0 →
            (Reporting.run program args' d).code = 0 ∧
              (Reporting.run program args' d).complaints = (Reporting.run program args d).complaints ∧
              (Told found.flatten → Reporting.run program args' d = Reporting.run program args d) := by
  obtain ⟨cs, found, hcs, hfound, hlists⟩ := lists_of_ofInputs h
  have htext (r' : Report) : r'.toJson = r.toJson ↔ r' = r :=
    ⟨toJson_injective, fun heq => by rw [heq]⟩
  refine ⟨cs, found, hcs, hfound, hlists, htext, fun inputs' hp => ?_⟩
  obtain ⟨r', h'⟩ := ofInputs_of_perm hp h
  obtain ⟨cs', found', hcs', hfound', hlists'⟩ := lists_of_ofInputs h'
  obtain ⟨ys, hys, hdata⟩ := gather_perm hp hcs
  obtain rfl : ys = cs' := Option.some.inj (hys.symm.trans hcs')
  have hstubs : found.flatten.Perm found'.flatten := (hfound.perm hfound' hdata).flatten
  have hcount : r'.count = r.count := by rw [hlists.count, hlists'.count, hstubs.length_eq]
  refine ⟨r', h', hcount, hlists.perm hlists' hstubs, ?_, ?_⟩
  · intro htold
    rw [hlists.eq_of_perm hlists' hstubs htold]
  · intro program args args' output hargs hargs' hcode
    have hne : inputs ≠ [] := by
      rintro rfl
      rw [Reporting.run, hargs] at hcode
      cases hcode
    have hne' : inputs' ≠ [] := fun hnil => hne (List.perm_nil.1 (hnil ▸ hp))
    rw [Reporting.run_eq_deliver hargs hne h] at hcode ⊢
    rw [Reporting.run_eq_deliver hargs' hne' h']
    obtain ⟨hcode', hcomplaints⟩ := Reporting.code_deliver hcode hcount
    refine ⟨hcode', hcomplaints, fun htold => ?_⟩
    rw [hlists.eq_of_perm hlists' hstubs htold]

theorem told_of_nodup {stubs : List StubSummary}
    (h : (stubs.map StubSummary.className).Nodup) : Told stubs :=
  fun _ hs _ ht hname _ _ => List.inj_on_of_nodup_map h hs ht hname

def constructing (name : String) : ClassFile where
  minor := 0
  major := 52
  pool := ⟨#[some (.utf8 name), some (.classInfo 1), some (.utf8 "make"), some (.utf8 "()V"),
    some (.utf8 "RuntimeVisibleAnnotations"),
    some (.utf8 "Lme/zhanghai/android/bytecoder/library/InvokeConstructor;"),
    some (.utf8 "className"), some (.utf8 "E")]⟩
  access := 0x0021
  thisClass := 2
  superClass := 0
  interfaces := []
  fields := []
  methods := [⟨0x0108, 3, 4, [.annotations 5 [⟨6, [(7, .text 8)]⟩]]⟩]
  attributes := []

def twoClasses : Disk where
  root :=
    .file "a.class" ((constructing "A").write.toOption.getD [])
      (.folder "d" (.file "b.class" ((constructing "B").write.toOption.getD []) .empty) .empty)

theorem ofInputs_conserves_twoClasses :
    ∃ r r', ofInputs twoClasses ["d", "a.class"] = .ok r ∧
      ofInputs twoClasses ["a.class", "d"] = .ok r' ∧ r.classes.keys = ["A", "B"] ∧ r.count = 2 ∧
      r'.toJson = r.toJson := by
  have hreport : (ofInputs twoClasses ["d", "a.class"]).toOption.map
      (fun r => (r.classes.keys, r.count)) = some (["A", "B"], 2) := by decide +kernel
  have hnames : (scanned twoClasses ["d", "a.class"]).map
      (fun cs => cs.map fun c => (ClassFile.summaries {} c.2).toOption.map
        (List.map StubSummary.className)) = some [some ["B"], some ["A"]] := by decide +kernel
  obtain ⟨r, hr, hkeys⟩ := Option.map_eq_some_iff.1 hreport
  obtain ⟨hkeys, hcount⟩ := Prod.mk.inj hkeys
  have h := Except.eq_ok_of_toOption hr
  obtain ⟨data, found, hdata, hfound, -, -, hperm⟩ := ofInputs_conserves h
  obtain ⟨r', h', -, -, htext, -⟩ := hperm ["a.class", "d"] (List.Perm.swap "a.class" "d" [])
  refine ⟨r, r', h, h', hkeys, hcount, htext (told_of_nodup ?_)⟩
  have hclasses : found.map (List.map StubSummary.className) = [["B"], ["A"]] := by
    rw [hdata, Option.map_some, Option.some.injEq] at hnames
    have hmap := congrArg
      (List.map fun x => x.toOption.map (List.map StubSummary.className)) hfound
    rw [List.map_map, List.map_map] at hmap
    apply (Option.some_injective _).list_map
    rw [List.map_map]
    exact hmap.symm.trans hnames
  rw [List.map_flatten, hclasses]
  decide

end Report

end StubLinker
