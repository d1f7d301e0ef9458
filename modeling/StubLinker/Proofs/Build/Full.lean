import StubLinker.Proofs.Build.Spared

namespace StubLinker

/-- Two runs give the same and leave the same disk. -/
structure EndsAlike {α : Type} (r r' : Except BuildError α × World) : Prop where
  result : r.1 = r'.1
  disk : r.2.disk = r'.2.disk

namespace Action

variable {α β : Type} {x x' : Action α} {f : α → Action β} {w w' : World}

/-- What the action gives and the disk that it leaves do not depend on the log. -/
def IgnoresLog (x : Action α) : Prop :=
  ∀ w w' : World, w.disk = w'.disk → EndsAlike (runOn x w) (runOn x w')

theorem ignoresLog_pure (a : α) : IgnoresLog (pure a : Action α) :=
  fun _ _ hdisk => ⟨rfl, hdisk⟩

theorem ignoresLog_report (level : Level) (message : String) :
    IgnoresLog (report level message) :=
  fun _ _ hdisk => ⟨rfl, hdisk⟩

theorem ignoresLog_onDisk (work : Session α) : IgnoresLog (onDisk work) := by
  intro w w' hdisk
  rw [runOn_onDisk, runOn_onDisk, hdisk]
  rcases runOn work w'.disk with ⟨_ | a, disk⟩ <;> exact ⟨rfl, rfl⟩

theorem endsAlike_bind (h : EndsAlike (runOn x w) (runOn x' w')) (hf : ∀ a, IgnoresLog (f a)) :
    EndsAlike (runOn (x >>= f) w) (runOn (x' >>= f) w') := by
  rw [runOn_bind, runOn_bind]
  obtain ⟨hresult, hdisk⟩ := h
  rcases hrun : runOn x w with ⟨r, t⟩
  rcases hrun' : runOn x' w' with ⟨r', t'⟩
  rw [hrun, hrun'] at hresult hdisk
  cases hresult
  cases r with
  | error e => exact ⟨rfl, hdisk⟩
  | ok a => exact hf a t t' hdisk

theorem IgnoresLog.bind (hx : IgnoresLog x) (hf : ∀ a, IgnoresLog (f a)) :
    IgnoresLog (x >>= f) :=
  fun w w' hdisk => endsAlike_bind (hx w w' hdisk) hf

theorem ignoresLog_foldlM {g : β → α → Action β} (hg : ∀ b a, IgnoresLog (g b a)) (as : List α)
    (b : β) : IgnoresLog (as.foldlM g b) := by
  induction as generalizing b with
  | nil => exact ignoresLog_pure b
  | cons a as ih =>
    rw [List.foldlM_cons]
    exact (hg b a).bind ih

end Action

namespace BuildState

variable {output text : String} {bytes : Bytes} {w : World}

/-- The record that the bytes of a file are the JSON of. -/
def decode (bytes : Bytes) : Option BuildState := do
  let text ← Bytes.toText? bytes
  (ofJson text).toOption

theorem load_of_text (hread : w.disk.read (Path.join output fileName) = .ok bytes)
    (htext : Bytes.toText? bytes = some text) :
    ∃ w', runOn (load output) w = (.ok ((decode bytes).getD {}), w') ∧ w'.disk = w.disk := by
  obtain ⟨log, hrun⟩ := runOn_load output w
  rw [hread] at hrun
  dsimp only at hrun
  rw [htext] at hrun
  dsimp only at hrun
  have hdecode : decode bytes = (ofJson text).toOption := by
    rw [decode, htext]
    rfl
  cases hjson : ofJson text with
  | ok s =>
    rw [hjson] at hrun hdecode
    rw [hdecode]
    exact ⟨w, hrun, rfl⟩
  | error e =>
    rw [hjson] at hrun hdecode
    rw [hdecode]
    exact ⟨⟨w.disk, log⟩, hrun, rfl⟩

theorem load_of_noText (hread : w.disk.read (Path.join output fileName) = .ok bytes)
    (htext : Bytes.toText? bytes = none) :
    runOn (load output) w = (.error .stateNotText, w) := by
  obtain ⟨log, hrun⟩ := runOn_load output w
  rw [hread] at hrun
  dsimp only at hrun
  rw [htext] at hrun
  exact hrun

end BuildState

namespace Build

open Action

variable {b : Build} {input output path : String} {w w' : World} {s old old' : BuildState}
  {bytes : Bytes}

theorem ignoresLog_link (path : String) (contents : Bytes) : IgnoresLog (b.link path contents) := by
  intro w w' hdisk
  rw [runOn_link, runOn_link]
  rcases ClassFile.linkBytes b.settings contents with ⟨_ | linked, lines⟩ <;> exact ⟨rfl, hdisk⟩

theorem ignoresLog_removeOutput (path : String) : IgnoresLog (removeOutput path) := by
  intro w w' hdisk
  rw [runOn_removeOutput, runOn_removeOutput, hdisk]
  cases w'.disk.removeFile path with
  | ok disk => exact ⟨rfl, rfl⟩
  | error e => cases e <;> exact ⟨rfl, hdisk⟩

theorem ignoresLog_update (change : Change) (s : Summary) :
    IgnoresLog (b.update input output path change s) := by
  apply (ignoresLog_onDisk _).bind
  intro contents
  split
  · apply (ignoresLog_report _ _).bind
    intro _
    apply (ignoresLog_link path contents).bind
    intro linked
    exact (ignoresLog_onDisk _).bind fun _ => ignoresLog_pure _
  · exact (ignoresLog_onDisk _).bind fun _ => ignoresLog_pure _

theorem ignoresLog_apply (s : Summary) (x : String × Change) :
    IgnoresLog (b.apply input output s x) := by
  obtain ⟨path, change⟩ := x
  cases change with
  | notChanged => exact ignoresLog_pure _
  | removed =>
    rw [apply_removed]
    apply (ignoresLog_report _ _).bind
    intro _
    exact (ignoresLog_removeOutput _).bind fun _ => ignoresLog_pure _
  | added => exact ignoresLog_update .added s
  | changed => exact ignoresLog_update .changed s

theorem ignoresLog_inputs : IgnoresLog (inputs input) := by
  intro w w' hdisk
  rw [runOn_inputs, runOn_inputs, hdisk]
  cases w'.disk.getFolder input <;> exact ⟨rfl, hdisk⟩

theorem ignoresLog_carryOut (old : BuildState) : IgnoresLog (b.carryOut input output old) := by
  apply (ignoresLog_onDisk _).bind
  intro _
  apply ignoresLog_inputs.bind
  intro files
  apply (ignoresLog_foldlM ignoresLog_apply _ _).bind
  intro summary
  apply (ignoresLog_onDisk _).bind
  intro _
  exact (ignoresLog_onDisk _).bind fun _ => ignoresLog_pure summary

theorem endsAlike_goOn {incremental incremental' : Bool} (hdisk : w.disk = w'.disk)
    (hold : old.settings ≠ b.settingsDigest) (hold' : old'.settings ≠ b.settingsDigest) :
    EndsAlike (runOn (b.goOn output incremental old) w)
      (runOn (b.goOn output incremental' old') w') := by
  obtain ⟨log, hrun⟩ := runOn_goOn b output incremental old w
  obtain ⟨log', hrun'⟩ := runOn_goOn b output incremental' old' w'
  rw [hrun, hrun', if_neg hold, if_neg hold', hdisk]
  split
  · rcases runOn (Session.removeTree output) w'.disk with ⟨_ | u, disk⟩ <;> exact ⟨rfl, rfl⟩
  · exact ⟨rfl, rfl⟩

/-- An incremental build that finds a record of other settings ends as a full build does. -/
theorem endsAlike_full (hload : runOn (BuildState.load output) w = (.ok s, w'))
    (hs : s.settings ≠ b.settingsDigest) :
    EndsAlike (runOn (b.directory input output true) w)
      (runOn (b.directory input output false) w) := by
  have hdisk : w'.disk = w.disk := by
    have hfound : (runOn (found output true) w).2.disk = w.disk := found_disk w
    rw [show runOn (found output true) w = (.ok s, w') from hload] at hfound
    exact hfound
  have hfull : runOn (b.prepare output false) w = runOn (b.goOn output false {}) w := by
    rw [prepare_eq]
    rfl
  have hprepare : EndsAlike (runOn (b.prepare output true) w)
      (runOn (b.prepare output false) w) := by
    rw [hfull, prepare_eq, runOn_bind, show runOn (found output true) w = (.ok s, w') from hload]
    exact endsAlike_goOn hdisk hs fun h => settingsDigest_ne_empty b h.symm
  rw [directory_eq, directory_eq, runOn_bind, runOn_bind]
  have hstate := checkOutput_state input output w
  rcases hcheck : runOn (checkOutput input output) w with ⟨_ | u, w0⟩
  · exact ⟨rfl, rfl⟩
  · rw [hcheck] at hstate
    cases hstate
    exact endsAlike_bind hprepare ignoresLog_carryOut

theorem full_ne_stateNotText (hcheck : (runOn (checkOutput input output) w).1 = .ok ()) :
    (runOn (b.directory input output false) w).1 ≠ .error .stateNotText := by
  intro h
  have hrun := runOn_eq_of_fst h
  rw [directory_eq] at hrun
  rcases runOn_bind_eq_error.1 hrun with hrun | ⟨u, w1, -, hrun⟩
  · rw [hrun] at hcheck
    cases hcheck
  rcases runOn_bind_eq_error.1 hrun with hrun | ⟨old, w2, -, hrun⟩
  · rw [prepare_eq] at hrun
    rcases runOn_bind_eq_error.1 hrun with hrun | ⟨s, w2, -, hrun⟩
    · cases hrun
    obtain ⟨log, hgo⟩ := runOn_goOn b output false s w2
    rw [hgo] at hrun
    split at hrun
    · cases hrun
    split at hrun
    · split at hrun <;> cases hrun
    · cases hrun
  · rcases failsAtWork_carryOut _ _ _ hrun with ⟨_, he⟩ | ⟨_, _, he⟩ <;> cases he

/-- A file in place of the record never stops a build: what is no record counts as a record of
nothing, and an incremental build over it ends as a full one does. -/
structure Recovers (b : Build) (input output : String) (w : World) (bytes : Bytes) : Prop where
  loaded : ∃ w', runOn (BuildState.load output) w = (.ok ((BuildState.decode bytes).getD {}), w') ∧
    w'.disk = w.disk
  alike : BuildState.decode bytes = none →
    EndsAlike (runOn (b.directory input output true) w) (runOn (b.directory input output false) w)

/-- A file in place of the record is recovered from exactly if it is text. Otherwise it fails the
build, which has done nothing then; a full build ends like this only if its output is refused. -/
theorem recovers_iff (b : Build) (input : String)
    (hread : w.disk.read (Path.join output BuildState.fileName) = .ok bytes) :
    (b.Recovers input output w bytes ↔ (Bytes.toText? bytes).isSome) ∧
    (Bytes.toText? bytes = none → runOn (BuildState.load output) w = (.error .stateNotText, w) ∧
      (EndsAlike (runOn (b.directory input output true) w)
        (runOn (b.directory input output false) w) ↔
          (runOn (checkOutput input output) w).1 ≠ .ok ())) := by
  refine ⟨⟨fun h => ?_, fun h => ?_⟩, fun htext => ⟨BuildState.load_of_noText hread htext, ?_⟩⟩
  · obtain ⟨w', hload, -⟩ := h.loaded
    cases htext : Bytes.toText? bytes with
    | some text => rfl
    | none =>
      rw [BuildState.load_of_noText hread htext] at hload
      cases hload
  · obtain ⟨text, htext⟩ := Option.isSome_iff_exists.1 h
    obtain ⟨w', hload, hdisk⟩ := BuildState.load_of_text hread htext
    refine ⟨⟨w', hload, hdisk⟩, fun hnone => ?_⟩
    rw [hnone] at hload
    exact endsAlike_full hload fun h => settingsDigest_ne_empty b h.symm
  · have hstate := checkOutput_state input output w
    rcases hcheck : runOn (checkOutput input output) w with ⟨e | u, w0⟩
    · refine iff_of_true ?_ (by simp)
      rw [directory_eq, directory_eq, runOn_bind, runOn_bind, hcheck]
      exact ⟨rfl, rfl⟩
    · rw [hcheck] at hstate
      rw [show w0 = w from hstate] at hcheck
      refine iff_of_false (fun h => ?_) (by simp)
      have hprepare : runOn (b.prepare output true) w = (.error .stateNotText, w) := by
        rw [prepare_eq, runOn_bind, show runOn (found output true) w = (.error .stateNotText, w) from
          BuildState.load_of_noText hread htext]
      have hfails : runOn (b.directory input output true) w = (.error .stateNotText, w) := by
        rw [directory_eq, runOn_bind, hcheck]
        dsimp only
        rw [runOn_bind, hprepare]
      -- a full build never reads the record, so it cannot end in this way
      have hresult := h.result
      rw [hfails] at hresult
      exact full_ne_stateNotText (by rw [hcheck]) hresult.symm

section Examples

/-- An output with one text and some bytes in place of its record. -/
def unreadable (bytes : Bytes) : Folder :=
  .file BuildState.fileName bytes (oneFile "b.txt" "2")

/-- An input with one text beside that output. -/
def garbled (bytes : Bytes) : World :=
  { disk := { root := .folder "in" (oneFile "a.txt" "1") (.folder "out" (unreadable bytes) .empty) } }

/-- A record that is cut off counts as none. -/
theorem recovers_iff_truncated :
    ({} : Build).Recovers "in" "out" (garbled (Bytes.ofText "\x7b")) (Bytes.ofText "\x7b") ∧
    BuildState.decode (Bytes.ofText "\x7b") = none :=
  ⟨(recovers_iff {} "in" (by decide +kernel)).1.2 (by decide +kernel), by decide +kernel⟩

/-- A record that is no text fails the build. -/
theorem not_recovers_garbled : ¬({} : Build).Recovers "in" "out" (garbled [0xff]) [0xff] ∧
    BuildState.decode [0xff] = none ∧
    runOn (({} : Build).directory "in" "out" true) (garbled [0xff]) =
      (.error .stateNotText, garbled [0xff]) ∧
    (runOn (({} : Build).directory "in" "out" false) (garbled [0xff])).1 =
      .ok { copied := 1 } := by
  refine ⟨fun h => ?_, by decide +kernel, by decide +kernel, by decide +kernel⟩
  obtain ⟨w', hload, -⟩ := h.loaded
  have hfails : (runOn (BuildState.load "out") (garbled [0xff])).1 = .error .stateNotText := by
    decide +kernel
  rw [hload] at hfails
  cases hfails

end Examples

end Build

end StubLinker
