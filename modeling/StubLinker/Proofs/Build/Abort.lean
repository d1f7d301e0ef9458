import StubLinker.Proofs.Build.Failure
import StubLinker.Proofs.Build.UpToDate

namespace StubLinker

namespace Build

variable {b : Build} {w w' w1 : World} {input output path p : String} {li lo k : Location}
  {d d' d'' : Disk} {s s' : Summary} {x : String × Change} {incremental : Bool} {old : BuildState}
  {changes front rest : List (String × Change)} {cause : LinkError} {c contents out : Bytes}

def Renewed (changes : List (String × Change)) (p : String) : Prop :=
  (p, .added) ∈ changes ∨ (p, .changed) ∈ changes

def Unremoved (current : Location) (output : String) (changes : List (String × Change))
    (k : Location) : Prop :=
  ∀ p, (p, .removed) ∈ changes → Path.locate current (Path.join output p) ≠ k

theorem renewed_append : Renewed (front ++ rest) p ↔ Renewed front p ∨ Renewed rest p := by
  simp only [Renewed, List.mem_append]
  exact or_or_or_comm

theorem renewed_cons : Renewed (x :: rest) p ↔ Renewed [x] p ∨ Renewed rest p := by
  rw [← renewed_append, List.singleton_append]

theorem unremoved_append {current : Location} : Unremoved current output (front ++ rest) k ↔
    Unremoved current output front k ∧ Unremoved current output rest k := by
  simp only [Unremoved, List.mem_append, or_imp, forall_and]

theorem renewed_of_mem (h : x ∈ changes) (hx : x.2 = .added ∨ x.2 = .changed) :
    Renewed changes x.1 := by
  obtain ⟨p, change⟩ := x
  rcases hx with rfl | rfl
  · exact .inl h
  · exact .inr h

theorem Renewed.exists_mem (h : Renewed changes p) : ∃ x ∈ changes, x.1 = p := by
  rcases h with h | h
  · exact ⟨_, h, rfl⟩
  · exact ⟨_, h, rfl⟩

/-- What a row of changes does, wherever the paths lead that it removes. What is written is what an
input becomes, and nothing else is but removed. -/
structure Performs (b : Build) (output : String) (li lo : Location)
    (changes : List (String × Change)) (d d' : Disk) : Prop extends Disk.Keeps d d' where
  wellFormed : d'.root.WellFormed
  renewed : ∀ p, Renewed changes p → ∃ contents out, d.root.fileAt? (place li p) = some contents ∧
    b.outcome p contents = .ok out ∧
      (Unremoved d.current output changes (place lo p) → d'.root.fileAt? (place lo p) = some out)
  removed : ∀ p, (p, .removed) ∈ changes → Path.IsPlain p → d'.root.fileAt? (place lo p) = none
  other : ∀ k, (∀ p, Renewed changes p → k ≠ place lo p) →
    Unremoved d.current output changes k → d'.root.fileAt? k = d.root.fileAt? k
  files : ∀ k c, d'.root.fileAt? k = some c → d.root.fileAt? k = some c ∨
    ∃ p contents, Renewed changes p ∧ k = place lo p ∧
      d.root.fileAt? (place li p) = some contents ∧ b.outcome p contents = .ok c

theorem Performs.of_no_effect (hd : d.root.WellFormed) (hrenewed : ∀ p, ¬Renewed changes p)
    (hremoved : ∀ p, (p, .removed) ∈ changes → Path.IsPlain p →
      d.root.fileAt? (place lo p) = none) : b.Performs output li lo changes d d :=
  { Disk.Keeps.refl d with
    wellFormed := hd
    renewed := fun p hp => absurd hp (hrenewed p)
    removed := hremoved
    other := fun _ _ _ => rfl
    files := fun _ _ hc => .inl hc }

theorem performs_notChanged (hd : d.root.WellFormed) :
    b.Performs output li lo [(p, .notChanged)] d d :=
  .of_no_effect hd (by simp [Renewed]) (by simp)

theorem performs_removed (hd : d.root.WellFormed) (hlo : Path.locate d.current output = lo)
    (h : d.Stores (Path.locate d.current (Path.join output p)) none d') :
    b.Performs output li lo [(p, .removed)] d d' := by
  have hnone : ∀ q, ¬Renewed [(p, .removed)] q := by simp [Renewed]
  refine { h.toKeeps with
    wellFormed := h.wellFormed hd
    renewed := fun q hq => absurd hq (hnone q)
    removed := fun q hq hplain => ?_
    other := fun k _ hk => ?_
    files := fun k c hc => ?_ }
  · obtain rfl : q = p := by simpa using hq
    rw [h.fileAt?, if_pos]
    rw [Path.locate_join _ hplain, hlo, place]
  · rw [h.fileAt?, if_neg]
    exact fun heq => hk p List.mem_cons_self heq.symm
  · rw [h.fileAt?] at hc
    split at hc
    · cases hc
    · exact .inl hc

theorem performs_renewed (hd : d.root.WellFormed) (hx : x.2 = .added ∨ x.2 = .changed)
    (hcontents : d.root.fileAt? (place li x.1) = some contents)
    (hout : b.outcome x.1 contents = .ok out) (h : d.Stores (place lo x.1) (some out) d') :
    b.Performs output li lo [x] d d' := by
  have hmem : x ∈ [x] := List.mem_cons_self
  have hself : ∀ p, Renewed [x] p → p = x.1 := by
    intro p hp
    obtain ⟨y, hy, rfl⟩ := hp.exists_mem
    rw [List.mem_singleton.1 hy]
  refine { h.toKeeps with
    wellFormed := h.wellFormed hd
    renewed := fun p hp => ?_
    removed := fun p hp => ?_
    other := fun k hk _ => ?_
    files := fun k c hc => ?_ }
  · rw [hself p hp]
    exact ⟨contents, out, hcontents, hout, fun _ => by rw [h.fileAt?, if_pos rfl]⟩
  · rw [← List.mem_singleton.1 hp] at hx
    rcases hx with hx | hx <;> cases hx
  · rw [h.fileAt?, if_neg (hk x.1 (renewed_of_mem hmem hx))]
  · rw [h.fileAt?] at hc
    split at hc
    · rename_i hk
      cases hc
      exact .inr ⟨x.1, contents, renewed_of_mem hmem hx, hk, hcontents, hout⟩
    · exact .inl hc

theorem Performs.fileAt?_input (hapart : Apart li lo) (h : b.Performs output li lo changes d d')
    (hc : d'.root.fileAt? (place li p) = some c) : d.root.fileAt? (place li p) = some c := by
  rcases h.files _ _ hc with hc | ⟨q, contents, -, heq, -⟩
  · exact hc
  · exact absurd heq (hapart.place_ne p q)

theorem Performs.append (hapart : Apart li lo) (hne : ∀ x ∈ front, ∀ y ∈ rest, x.1 ≠ y.1)
    (h : b.Performs output li lo front d d') (h' : b.Performs output li lo rest d' d'') :
    b.Performs output li lo (front ++ rest) d d'' := by
  have hapartRow {p q : String} (hp : ∃ x ∈ front, x.1 = p) (hq : Renewed rest q) :
      place lo p ≠ place lo q := by
    obtain ⟨x, hx, rfl⟩ := hp
    obtain ⟨y, hy, rfl⟩ := hq.exists_mem
    exact fun heq => hne x hx y hy (place_injective heq)
  refine { h.toKeeps.trans h'.toKeeps with
    wellFormed := h'.wellFormed
    renewed := fun p hp => ?_
    removed := fun p hp hplain => ?_
    other := fun k hk hun => ?_
    files := fun k c hc => ?_ }
  · rcases renewed_append.1 hp with hp | hp
    · obtain ⟨contents, out, hcontents, hout, hwritten⟩ := h.renewed p hp
      refine ⟨contents, out, hcontents, hout, fun hun => ?_⟩
      obtain ⟨hunfront, hunrest⟩ := unremoved_append.1 hun
      rw [h'.other _ (fun q hq => hapartRow hp.exists_mem hq) (by rw [h.current]; exact hunrest)]
      exact hwritten hunfront
    · obtain ⟨contents, out, hcontents, hout, hwritten⟩ := h'.renewed p hp
      refine ⟨contents, out, h.fileAt?_input hapart hcontents, hout, fun hun => hwritten ?_⟩
      rw [h.current]
      exact (unremoved_append.1 hun).2
  · rcases List.mem_append.1 hp with hp | hp
    -- what is gone comes back only if a later change writes it, and that has another path
    · refine Option.eq_none_iff_forall_not_mem.2 fun c hc => ?_
      rcases h'.files _ c hc with hc | ⟨q, contents, hq, heq, -⟩
      · rw [h.removed p hp hplain] at hc
        cases hc
      · exact hapartRow ⟨_, hp, rfl⟩ hq heq
    · exact h'.removed p hp hplain
  · obtain ⟨hunfront, hunrest⟩ := unremoved_append.1 hun
    rw [h'.other k (fun p hp => hk p (renewed_append.2 (.inr hp))) (by rw [h.current]; exact hunrest)]
    exact h.other k (fun p hp => hk p (renewed_append.2 (.inl hp))) hunfront
  · rcases h'.files k c hc with hc | ⟨p, contents, hp, hk, hcontents, hout⟩
    · rcases h.files k c hc with hc | ⟨p, contents, hp, hrest⟩
      · exact .inl hc
      · exact .inr ⟨p, contents, renewed_append.2 (.inl hp), hrest⟩
    · exact .inr ⟨p, contents, renewed_append.2 (.inr hp), hk, h.fileAt?_input hapart hcontents, hout⟩

theorem performs_of_apply (hd : w.disk.root.WellFormed) (hlo : w.disk.StartsAt output lo)
    (hli : Path.locate w.disk.current input = li) (hp : Renewed [x] x.1 → Path.IsPlain x.1)
    (h : runOn (b.apply input output s x) w = (.ok s', w')) :
    b.Performs output li lo [x] w.disk w'.disk := by
  have hupdate {change : Change} {p : String} (hchange : change = .added ∨ change = .changed)
      (hp : Path.IsPlain p) (h : runOn (b.update input output p change s) w = (.ok s', w')) :
      b.Performs output li lo [(p, change)] w.disk w'.disk := by
    obtain ⟨contents, out, hcontents, hout, hstores⟩ := update_stores hlo.locate hli hp h
    exact performs_renewed hd hchange hcontents hout hstores
  obtain ⟨p, change⟩ := x
  cases change with
  | notChanged =>
    cases h
    exact performs_notChanged hd
  | removed =>
    obtain ⟨log, hremove⟩ := apply_removed_eq_ok h
    rcases removeOutput_cases hremove hd with hstores | ⟨hdisk, hr⟩
    · exact performs_removed hd hlo.locate hstores
    · rw [hdisk]
      refine .of_no_effect hd (by simp [Renewed]) fun q hq hplain => ?_
      obtain rfl : q = p := by simpa using hq
      rw [Folder.fileAt?, place, Disk.removeFile_notFound hlo hplain hr]
  | added => exact hupdate (.inl rfl) (hp (.inl List.mem_cons_self)) h
  | changed => exact hupdate (.inr rfl) (hp (.inr List.mem_cons_self)) h

theorem performs_of_foldlM (hd : w.disk.root.WellFormed) (hlo : w.disk.StartsAt output lo)
    (hfolder : output ≠ "" → w.disk.root.kind? lo = some .folder)
    (hli : Path.locate w.disk.current input = li) (hapart : Apart li lo)
    (hp : ∀ p, Renewed changes p → Path.IsPlain p) (hne : changes.Pairwise fun a b => a.1 < b.1)
    (h : runOn (changes.foldlM (b.apply input output) s) w = (.ok s', w')) :
    b.Performs output li lo changes w.disk w'.disk := by
  induction changes generalizing s w with
  | nil =>
    rw [List.foldlM_nil, runOn_pure] at h
    cases h
    exact .of_no_effect hd (by simp [Renewed]) (by simp)
  | cons x changes ih =>
    obtain ⟨hlt, hne⟩ := List.pairwise_cons.1 hne
    rw [List.foldlM_cons] at h
    obtain ⟨s1, w1, happly, h⟩ := runOn_bind_eq_ok.1 h
    have hfirst : b.Performs output li lo [x] w.disk w1.disk :=
      performs_of_apply hd hlo hli (fun hx => hp x.1 (renewed_cons.2 (.inl hx))) happly
    have hrest := ih hfirst.wellFormed (hlo.of_keeps hfolder hfirst.toKeeps)
      (fun hout => hfirst.folder lo (hfolder hout)) (by rw [hfirst.current]; exact hli)
      (fun p hx => hp p (renewed_cons.2 (.inr hx))) hne h
    refine hfirst.append hapart (fun y hy z hz heq => ?_) hrest
    rw [List.mem_singleton.1 hy] at heq
    exact String.lt_irrefl _ (heq ▸ hlt z hz)

def before (path : String) (changes : List (String × Change)) : List (String × Change) :=
  changes.filter (·.1 < path)

theorem mem_before : x ∈ before path changes ↔ x ∈ changes ∧ x.1 < path := by
  rw [before, List.mem_filter, decide_eq_true_iff]

theorem renewed_before : Renewed (before path changes) p ↔ Renewed changes p ∧ p < path := by
  simp only [Renewed, mem_before, or_and_right]

/-- A loop that fails on a class has made the changes before it, and has read what the class was when
it started. -/
theorem performs_of_badClass (hd : w.disk.root.WellFormed) (hlo : w.disk.StartsAt output lo)
    (hfolder : output ≠ "" → w.disk.root.kind? lo = some .folder)
    (hli : Path.locate w.disk.current input = li) (hapart : Apart li lo)
    (hp : ∀ p, Renewed changes p → Path.IsPlain p) (hne : changes.Pairwise fun a b => a.1 < b.1)
    (h : runOn (changes.foldlM (b.apply input output) s) w = (.error (.badClass path cause), w')) :
    b.Performs output li lo (before path changes) w.disk w'.disk ∧ Renewed changes path ∧
      ∃ contents, w.disk.root.fileAt? (place li path) = some contents ∧
        b.outcome path contents = .error cause := by
  obtain ⟨front, x, rest, s1, w1, rfl, hfront, hx⟩ := runOn_foldlM_eq_error h
  obtain ⟨rfl, hchange, hdisk, contents, hread, hout⟩ := apply_eq_badClass hx
  have hrenewed : Renewed (front ++ x :: rest) x.1 :=
    renewed_of_mem (List.mem_append_right _ List.mem_cons_self) hchange
  have hperforms : b.Performs output li lo front w.disk w1.disk :=
    performs_of_foldlM hd hlo hfolder hli hapart
      (fun p h => hp p (renewed_append.2 (.inl h))) (List.pairwise_append.1 hne).1 hfront
  have hcontents := Disk.read_eq_ok hread
  rw [Path.locate_join _ (hp _ hrenewed), hperforms.current, hli] at hcontents
  rw [before, filter_lt_of_pairwise hne, hdisk]
  exact ⟨hperforms, hrenewed, contents, hperforms.fileAt?_input hapart hcontents, hout⟩

/-- What the changes of a build are made on, with the record that it goes on from: the disk as it is
if the output keeps a record of these settings or is not found, and otherwise the disk without the
files of the output. -/
inductive Prepared (b : Build) (output : String) (incremental : Bool) (lo : Location) (d : Disk) :
    BuildState → Disk → Prop where
  | kept (old : BuildState) (hincremental : incremental = true)
      (hsettings : old.settings = b.settingsDigest)
      (hrecord : old.RecordedAt d (lo ++ [BuildState.fileName])) :
      Prepared b output incremental lo d old d
  | missing (hhas : d.has output = false) : Prepared b output incremental lo d {} d
  | wiped (d' : Disk) (hhas : d.has output = true)
      (hstale : incremental = true → ∀ s : BuildState,
        s.RecordedAt d (lo ++ [BuildState.fileName]) → s.settings ≠ b.settingsDigest)
      (hcurrent : d'.current = d.current)
      (hnone : ∀ k, d'.root.fileAt? (lo ++ k) = none)
      (hother : ∀ k, ¬lo <+: k → d'.root.fileAt? k = d.root.fileAt? k) :
      Prepared b output incremental lo d {} d'

theorem prepared_of_prepare (hd : w.disk.root.WellFormed)
    (hlo : Path.locate w.disk.current output = lo)
    (h : runOn (b.prepare output incremental) w = (.ok old, w')) :
    w'.disk.root.WellFormed ∧ w'.disk.current = w.disk.current ∧
      b.Prepared output incremental lo w.disk old w'.disk := by
  rcases prepare_eq_ok h with ⟨hincremental, hsettings, hdisk, bytes, text, hread, htext, hjson⟩ |
    ⟨rfl, hhas, hremove⟩ | ⟨rfl, hhas, hdisk⟩
  · have hfile := Disk.read_eq_ok hread
    rw [Path.locate_join _ BuildState.isPlain_fileName, hlo, BuildState.steps_fileName] at hfile
    rw [hdisk]
    exact ⟨hd, rfl, .kept old hincremental hsettings ⟨bytes, text, hfile, htext, hjson⟩⟩
  · obtain ⟨hcurrent, hd', houter, hnone⟩ := Session.removeTree_eq_ok hd hremove
    rw [hlo] at houter hnone
    refine ⟨hd', hcurrent, .wiped w'.disk hhas ?_ hcurrent hnone fun k hk => ?_⟩
    · rintro rfl s hs hsettings
      have hresolve := Disk.has_iff.1 hhas
      rw [hlo] at hresolve
      rw [prepare_of_recordedAt hresolve hs hsettings] at h
      split at h
      · cases h
      · cases h
        exact settingsDigest_ne_empty b hsettings.symm
    · exact Folder.fileAt?_of_kind? (houter k hk)
  · rw [hdisk]
    exact ⟨hd, rfl, .missing hhas⟩

theorem Prepared.fileAt?_outside (h : b.Prepared output incremental lo d old d')
    (hk : ¬lo <+: k) : d'.root.fileAt? k = d.root.fileAt? k := by
  cases h with
  | kept => rfl
  | missing => rfl
  | wiped _ _ _ _ _ hother => exact hother k hk

/-- An output is continued from its folder once that is made, also if its path is empty. -/
theorem startsAt_of_makeFolders (hlo : Path.locate w.disk.current output = lo)
    (h : runOn (Action.onDisk (Session.makeFolders output)) w = (.ok (), w')) :
    w.disk.Grows w'.disk ∧ w'.disk.StartsAt output lo ∧
      (output ≠ "" → w'.disk.root.kind? lo = some .folder) := by
  obtain ⟨d', hmakes, rfl⟩ := Action.onDisk_eq_ok h
  by_cases hne : output = ""
  · subst hne
    cases hmakes
    exact ⟨.refl _, .inr ⟨rfl, hlo⟩, fun h => absurd rfl h⟩
  · obtain ⟨hgrows, hresolve, hfolder⟩ := Session.resolve_of_makeFolders hne hmakes
    rw [hlo] at hresolve hfolder
    exact ⟨hgrows, .inl hresolve, fun _ => hfolder⟩

def Fails (b : Build) (inside : Folder) (changes : List (String × Change)) (p : String)
    (cause : LinkError) : Prop :=
  Renewed changes p ∧ ∃ contents, (p, contents) ∈ inputsOf inside ∧
    b.outcome p contents = .error cause

/-- What a build leaves that fails on a class: the changes before the first class that fails are made,
and nothing else is done but that what they remove may lie elsewhere than the paths say. Removals of
plain names, as builds record them, lie where they say. -/
structure Aborted (b : Build) (output : String) (lo : Location) (inside : Folder)
    (changes : List (String × Change)) (d d' : Disk) (path : String) (cause : LinkError) : Prop where
  fails : b.Fails inside changes path cause
  least : ∀ p e, b.Fails inside changes p e → ¬p < path
  written : ∀ p, Renewed changes p → p < path → ∃ contents out, (p, contents) ∈ inputsOf inside ∧
    b.outcome p contents = .ok out ∧
      (Unremoved d.current output (before path changes) (place lo p) →
        d'.root.fileAt? (place lo p) = some out)
  removed : ∀ p, (p, .removed) ∈ changes → p < path → Path.IsPlain p →
    d'.root.fileAt? (place lo p) = none
  later : ∀ p, ¬p < path → Unremoved d.current output (before path changes) (place lo p) →
    d'.root.fileAt? (place lo p) = d.root.fileAt? (place lo p)
  record : Unremoved d.current output (before path changes) (lo ++ [BuildState.fileName]) →
    d'.root.fileAt? (lo ++ [BuildState.fileName]) = d.root.fileAt? (lo ++ [BuildState.fileName])
  files : ∀ k c, d'.root.fileAt? k = some c → d.root.fileAt? k = some c ∨
    ∃ p contents, (p, contents) ∈ inputsOf inside ∧ b.outcome p contents = .ok c ∧ k = place lo p
  direct : (∀ q, (q, .removed) ∈ changes → Path.IsPlain q ∧ q ≠ BuildState.fileName) →
    ∀ p, Renewed changes p ∨ ¬p < path ∨ p = BuildState.fileName →
      Unremoved d.current output (before path changes) (place lo p)

theorem mem_inputsOf_of_renewed {inside : Folder} (hwf : inside.WellFormed)
    (h : Renewed (old.changes (b.record (inputsOf inside))) p) :
    Path.IsPlain p ∧ p ≠ BuildState.fileName ∧
      ∀ c, inside.fileAt? (Path.steps p) = some c → (p, c) ∈ inputsOf inside := by
  have hinput : ∃ c, (p, c) ∈ inputsOf inside := by
    rcases h with h | h
    · exact input_of_change hwf h (.inl rfl)
    · exact input_of_change hwf h (.inr rfl)
  obtain ⟨c, hc⟩ := hinput
  obtain ⟨hne, hfile⟩ := (mem_inputsOf hwf).1 hc
  exact ⟨isPlain_of_fileAt? hwf hfile, hne, fun c hc => (mem_inputsOf hwf).2 ⟨hne, hc⟩⟩

theorem Renewed.not_removed {r : BuildState} (h : Renewed (old.changes r) p) :
    (p, .removed) ∉ old.changes r := by
  intro hremoved
  have hp := BuildState.mem_changes.1 hremoved
  rcases h with h | h
  · have heq := hp.symm.trans (BuildState.mem_changes.1 h)
    cases heq
  · have heq := hp.symm.trans (BuildState.mem_changes.1 h)
    cases heq

/-- A removal of plain names lies where its path says, which is no output of another path. -/
theorem unremoved_of_isPlain {r : BuildState} (hlo : Path.locate d.current output = lo)
    (hplain : ∀ q, (q, .removed) ∈ old.changes r → Path.IsPlain q ∧ q ≠ BuildState.fileName)
    (hp : Renewed (old.changes r) p ∨ ¬p < path ∨ p = BuildState.fileName) :
    Unremoved d.current output (before path (old.changes r)) (place lo p) := by
  intro q hq heq
  obtain ⟨hq, hlt⟩ := mem_before.1 hq
  obtain ⟨hqplain, hne⟩ := hplain q hq
  rw [Path.locate_join _ hqplain, hlo] at heq
  obtain rfl := place_injective heq
  rcases hp with hp | hp | hp
  · exact hp.not_removed hq
  · exact hp hlt
  · exact hne hp

/-- What the changes before a class that fails leave. Folders that were made before them make no
difference. -/
theorem Performs.aborted {inside : Folder} (hwf : inside.WellFormed)
    (hlo : Path.locate d.current output = lo) (hgrows : d.Grows d')
    (hli : ∀ k, d'.root.fileAt? (li ++ k) = inside.fileAt? k)
    (h : b.Performs output li lo (before path (old.changes (b.record (inputsOf inside)))) d' d'')
    (hpath : Renewed (old.changes (b.record (inputsOf inside))) path)
    (hcontents : d'.root.fileAt? (place li path) = some contents)
    (hout : b.outcome path contents = .error cause) :
    b.Aborted output lo inside (old.changes (b.record (inputsOf inside))) d d'' path cause := by
  -- a renewed path that has contents is one of the inputs
  have hmem {p : String} {c : Bytes}
      (hp : Renewed (old.changes (b.record (inputsOf inside))) p)
      (hc : d'.root.fileAt? (place li p) = some c) : (p, c) ∈ inputsOf inside := by
    rw [place, hli] at hc
    exact (mem_inputsOf_of_renewed hwf hp).2.2 c hc
  -- a place keeps its file unless a change before the class writes it or takes it away
  have hkept {p : String} (hp : ¬Renewed (before path (old.changes (b.record (inputsOf inside)))) p)
      (hun : Unremoved d.current output (before path (old.changes (b.record (inputsOf inside))))
        (place lo p)) : d''.root.fileAt? (place lo p) = d.root.fileAt? (place lo p) := by
    rw [h.other _ (fun q hq heq => ?_) (by rw [hgrows.current]; exact hun), hgrows.fileAt?]
    obtain rfl := place_injective heq
    exact hp hq
  refine
    { fails := ⟨hpath, contents, hmem hpath hcontents, hout⟩
      least := ?_
      written := fun p hp hlt => ?_
      removed := fun p hp hlt => h.removed p (mem_before.2 ⟨hp, hlt⟩)
      later := fun p hlt => hkept fun hp => hlt (renewed_before.1 hp).2
      record := ?_
      files := fun k c hc => ?_
      direct := fun hplain p => unremoved_of_isPlain hlo hplain }
  · rintro p e ⟨hp, c, hc, herror⟩ hlt
    obtain ⟨c', out, hc', hok, -⟩ := h.renewed p (renewed_before.2 ⟨hp, hlt⟩)
    rw [place, hli, ((mem_inputsOf hwf).1 hc).2] at hc'
    cases hc'
    rw [herror] at hok
    cases hok
  · obtain ⟨c, out, hc, hok, hwritten⟩ := h.renewed p (renewed_before.2 ⟨hp, hlt⟩)
    rw [hgrows.current] at hwritten
    exact ⟨c, out, hmem hp hc, hok, hwritten⟩
  · rw [← place_fileName]
    exact hkept fun hp => (mem_inputsOf_of_renewed hwf (renewed_before.1 hp).1).2.1 rfl
  · rcases h.files k c hc with hc | ⟨p, c', hp, hk, hc', hok⟩
    · rw [hgrows.fileAt?] at hc
      exact .inl hc
    · exact .inr ⟨p, c', hmem (renewed_before.1 hp).1 hc', hok, hk⟩

/-- A build that fails on a class names the first one that fails, and leaves no file half done. -/
theorem aborted_of_badClass (hd : w.disk.root.WellFormed)
    (hlo : Path.locate w.disk.current output = lo) (hli : Path.locate w.disk.current input = li)
    (hapart : Apart li lo)
    (h : runOn (b.directory input output incremental) w = (.error (.badClass path cause), w')) :
    ∃ inside old d, inside.WellFormed ∧
      (∀ k, inside.fileAt? k = w.disk.root.fileAt? (li ++ k)) ∧
      b.Prepared output incremental lo w.disk old d ∧
      b.Aborted output lo inside (old.changes (b.record (inputsOf inside))) d w'.disk path cause := by
  obtain ⟨old, w1, w2, inside, -, hprepare, hmake, hinside, hloop⟩ := directory_eq_badClass h
  obtain ⟨hd1, hcurrent, hprepared⟩ := prepared_of_prepare hd hlo hprepare
  have hlo1 : Path.locate w1.disk.current output = lo := by rw [hcurrent, hlo]
  obtain ⟨hgrows, hstarts, hfolder⟩ := startsAt_of_makeFolders hlo1 hmake
  have hli2 : Path.locate w2.disk.current input = li := by rw [hgrows.current, hcurrent, hli]
  have hd2 := hgrows.wellFormed hd1
  have hat := (Disk.get_eq_ok (Disk.getFolder_eq_ok.1 hinside)).2
  rw [hli2] at hat
  have hwf : inside.WellFormed := hd2.at? hat
  obtain ⟨hperforms, hpath, contents, hcontents, hout⟩ := performs_of_badClass hd2 hstarts hfolder
    hli2 hapart (fun p hp => (mem_inputsOf_of_renewed hwf hp).1) (BuildState.pairwise_changes _ _)
    hloop
  refine ⟨inside, old, w1.disk, hwf, fun k => ?_, hprepared,
    hperforms.aborted hwf hlo1 hgrows (fileAt?_below hat) hpath hcontents hout⟩
  rw [← fileAt?_below hat, hgrows.fileAt?]
  exact hprepared.fileAt?_outside (hapart.not_prefix k)

section Examples

theorem aborted_interrupted :
    interrupted.root.WellFormed ∧ Apart ["in"] ["out"] ∧
      (runOn (({} : Build).directory "in" "out" true) ⟨interrupted, []⟩).1 =
        .error (.badClass "z.class" (.classFile .endOfFile)) ∧
      ∃ inside old d, inside.WellFormed ∧
        (∀ k, inside.fileAt? k = interrupted.root.fileAt? (["in"] ++ k)) ∧
        ({} : Build).Prepared "out" true ["out"] interrupted old d ∧
        ({} : Build).Aborted "out" ["out"] inside (old.changes (({} : Build).record (inputsOf inside))) d
          (runOn (({} : Build).directory "in" "out" true) ⟨interrupted, []⟩).2.disk "z.class"
          (.classFile .endOfFile) := by
  have hapart : Apart ["in"] ["out"] := ⟨by decide, by decide⟩
  refine ⟨wellFormed_interrupted, hapart, runOn_interrupted.1, ?_⟩
  exact aborted_of_badClass wellFormed_interrupted (by decide) (by decide) hapart
    (runOn_eq_of_fst runOn_interrupted.1)

/-- A record that names itself, and outputs by detours. -/
def detours : BuildState :=
  { settings := ({} : Build).settingsDigest,
    files := (((SortedMap.empty.insert BuildState.fileName "").insert "./b.txt" "").insert
      "./z.txt" "").insert "c/../a.txt" "" }

/-- An input with texts before and after a class that cannot be read, and an output with that
record. -/
def detoured : World :=
  { disk :=
      { root := .folder "in" (.file "a.txt" [1] (.file "b.txt" [1] (.file "n.class" [0]
            (.file "z.txt" [1] .empty))))
          (.folder "out" (.file BuildState.fileName (Bytes.ofText detours.toJson)
            (.folder "c" (.file "k.txt" [1] .empty) (.file "z.txt" [2] .empty))) .empty) } }

theorem prepare_detoured :
    runOn (({} : Build).prepare "out" true) detoured = (.ok detours, detoured) :=
  prepare_of_read rfl rfl

theorem wellFormed_detoured : detoured.disk.root.WellFormed :=
  ⟨by decide, by decide,
    ⟨by decide, by decide, by decide, by decide, by decide, by decide, by decide, by decide, trivial⟩,
    by decide, by decide,
    ⟨by decide, by decide, by decide, by decide, ⟨by decide, by decide, trivial⟩, by decide, by decide,
      trivial⟩, trivial⟩

/-- With that record, a build that goes on from it and fails on the class undoes what it wrote before
the class, writes what it removed before, and removes an output behind the class and the record. -/
theorem not_aborted_detoured :
    detoured.disk.root.WellFormed ∧ Apart ["in"] ["out"] ∧
      runOn (({} : Build).prepare "out" true) detoured = (.ok detours, detoured) ∧
      (runOn (({} : Build).directory "in" "out" true) detoured).1 =
        .error (.badClass "n.class" (.classFile .endOfFile)) ∧
      ∃ d, d = (runOn (({} : Build).directory "in" "out" true) detoured).2.disk ∧
        ("a.txt" < "n.class" ∧ detoured.disk.root.fileAt? ["in", "a.txt"] = some [1] ∧
          d.root.fileAt? ["out", "a.txt"] = none) ∧
        ("./b.txt" < "n.class" ∧ detours.files.get? "./b.txt" = some "" ∧
          d.root.fileAt? ["out", "b.txt"] = some [1]) ∧
        ("n.class" < "z.txt" ∧ detoured.disk.root.fileAt? ["out", "z.txt"] = some [2] ∧
          d.root.fileAt? ["out", "z.txt"] = none) ∧
        (detoured.disk.root.fileAt? ["out", BuildState.fileName]).isSome = true ∧
        d.root.fileAt? ["out", BuildState.fileName] = none := by
  refine ⟨wellFormed_detoured, ⟨by decide, by decide⟩, prepare_detoured, ?_, _, rfl, ?_⟩
  · rw [runOn_directory (by decide +kernel) prepare_detoured]
    simp only [carryOut, BuildState.changes_eq_merge]
    decide +kernel
  · rw [runOn_directory (by decide +kernel) prepare_detoured]
    simp only [carryOut, BuildState.changes_eq_merge]
    decide +kernel

end Examples

end Build

end StubLinker
