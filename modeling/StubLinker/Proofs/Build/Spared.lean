import StubLinker.Proofs.Build.Directory
import StubLinker.Proofs.Disk.Within

namespace StubLinker

/-- The path leads to a place below a location. -/
def Path.LeadsBelow (current lo : Location) (path : String) : Prop :=
  lo <+: Path.locate current path ∧ Path.locate current path ≠ lo

theorem Path.leadsBelow_join {p : String} (current : Location) (base : String)
    (hp : Path.IsPlain p) :
    Path.LeadsBelow current (Path.locate current base) (Path.join base p) := by
  have hne : Path.steps p ≠ [] := Path.steps_ne_nil p
  rw [LeadsBelow, Path.locate_join current hp]
  exact ⟨List.prefix_append _ _, fun h => hne (List.append_right_eq_self.1 h)⟩

/-- Every recorded path leads below the output. -/
def BuildState.LeadsBelow (current : Location) (output : String) (s : BuildState) : Prop :=
  ∀ p digest, s.files.get? p = some digest →
    Path.LeadsBelow current (Path.locate current output) (Path.join output p)

theorem Build.leadsBelow_record {b : Build} {inside : Folder} (hwf : inside.WellFormed)
    (current : Location) (output : String) :
    (b.record (inputsOf inside)).LeadsBelow current output :=
  fun _ _ hp => Path.leadsBelow_join current output (isPlain_of_get?_record hwf hp).1

namespace Action

variable {α β : Type} {current lo : Location} {x : Action α} {f : α → Action β}

/-- However the action ends, files come, go and change only below a location. -/
def Confined (current lo : Location) (x : Action α) : Prop :=
  Relates (fun w w' : World => w.disk.root.WellFormed → w.disk.current = current →
    w.disk.Within lo w'.disk) x

theorem confined_of_disk_eq (h : ∀ w, (runOn x w).2.disk = w.disk) : Confined current lo x := by
  intro w _ _
  rw [h w]
  exact .refl lo w.disk

theorem confined_pure (a : α) : Confined current lo (pure a : Action α) :=
  confined_of_disk_eq fun _ => rfl

theorem confined_report (level : Level) (message : String) :
    Confined current lo (report level message) :=
  confined_of_disk_eq fun _ => rfl

theorem Confined.bind (hx : Confined current lo x) (hf : ∀ a, Confined current lo (f a)) :
    Confined current lo (x >>= f) := by
  apply Relates.bind _ hx hf
  intro w w' w'' h h' hd hcurrent
  have hfirst := h hd hcurrent
  exact hfirst.trans (h' (hfirst.wellFormed hd) (hfirst.current.trans hcurrent))

theorem confined_onDisk {work : Session α}
    (h : ∀ d : Disk, d.current = current → d.Within lo (runOn work d).2) :
    Confined current lo (onDisk work) := by
  intro w _ hcurrent
  have hwork := h w.disk hcurrent
  rw [runOn_onDisk]
  rcases hrun : runOn work w.disk with ⟨_ | a, disk⟩ <;>
  · rw [hrun] at hwork
    exact hwork

theorem confined_foldlM {as : List α} {g : β → α → Action β}
    (h : ∀ a ∈ as, ∀ b, Confined current lo (g b a)) (b : β) :
    Confined current lo (as.foldlM g b) := by
  apply Relates.foldlM _ _ h b
  · intro w _ _
    exact .refl lo w.disk
  · intro w w' w'' h h' hd hcurrent
    have hfirst := h hd hcurrent
    exact hfirst.trans (h' (hfirst.wellFormed hd) (hfirst.current.trans hcurrent))

end Action

namespace Build

open Action

variable {b : Build} {w w' : World} {current li lo : Location} {input output path : String}
  {incremental : Bool} {old : BuildState} {inside : Folder}

section Confined

theorem confined_writeFile (contents : Bytes) (hp : Path.LeadsBelow current lo path) :
    Confined current lo (onDisk (Session.writeFile path contents)) := by
  apply confined_onDisk
  rintro d rfl
  exact Session.within_writeFile contents hp.1 hp.2

theorem confined_link (path : String) (contents : Bytes) :
    Confined current lo (b.link path contents) := by
  apply confined_of_disk_eq
  intro w
  rw [runOn_link]
  rcases ClassFile.linkBytes b.settings contents with ⟨_ | out, lines⟩ <;> rfl

theorem confined_removeOutput (hp : Path.LeadsBelow current lo path) :
    Confined current lo (removeOutput path) := by
  rintro w hd rfl
  rw [runOn_removeOutput]
  cases hr : w.disk.removeFile path with
  | ok disk => exact (Disk.removeFile_eq_ok hd hr).within hp.1 hp.2
  | error e => cases e <;> exact .refl lo w.disk

theorem confined_update (change : Change) (s : Summary)
    (hp : Path.LeadsBelow current lo (Path.join output path)) :
    Confined current lo (b.update input output path change s) := by
  have hread : Confined current lo (Action.read (Path.join input path)) :=
    confined_of_disk_eq fun w => by rw [Action.read, onDisk_look_state]
  apply hread.bind
  intro contents
  split
  · apply (confined_report _ _).bind
    intro _
    apply (confined_link path contents).bind
    intro linked
    exact (confined_writeFile linked hp).bind fun _ => confined_pure _
  · exact (confined_writeFile contents hp).bind fun _ => confined_pure _

theorem confined_apply (s : Summary) (x : String × Change)
    (hp : Path.LeadsBelow current lo (Path.join output x.1)) :
    Confined current lo (b.apply input output s x) := by
  obtain ⟨path, change⟩ := x
  cases change with
  | notChanged => exact confined_pure _
  | removed =>
    rw [apply_removed]
    apply (confined_report _ _).bind
    intro _
    exact (confined_removeOutput hp).bind fun _ => confined_pure _
  | added => exact confined_update .added s hp
  | changed => exact confined_update .changed s hp

theorem found_disk (w : World) : (runOn (found output incremental) w).2.disk = w.disk := by
  cases incremental with
  | false => rfl
  | true =>
    obtain ⟨log, hrun⟩ := BuildState.runOn_load output w
    have hload : runOn (found output true) w = runOn (BuildState.load output) w := rfl
    rw [hload, hrun]
    split
    · rfl
    · rfl
    · split
      · rfl
      · split <;> rfl

theorem confined_found : Confined current lo (found output incremental) :=
  confined_of_disk_eq found_disk

theorem confined_goOn (hlo : Path.locate current output = lo) :
    Confined current lo (b.goOn output incremental old) := by
  rintro w - rfl
  obtain ⟨log, hrun⟩ := runOn_goOn b output incremental old w
  have hremove := Session.within_removeTree output w.disk
  rw [hlo] at hremove
  rw [hrun]
  split
  · exact .refl lo w.disk
  · split
    · rcases hrest : runOn (Session.removeTree output) w.disk with ⟨_ | u, disk⟩ <;>
      · rw [hrest] at hremove
        exact hremove
    · exact .refl lo w.disk

theorem confined_prepare (hlo : Path.locate current output = lo) :
    Confined current lo (b.prepare output incremental) := by
  rw [prepare_eq]
  exact confined_found.bind fun _ => confined_goOn hlo

theorem confined_inputs_bind {α : Type} {f : List (String × Bytes) → Action α}
    (h : ∀ inside : Folder, inside.WellFormed → Confined current lo (f (inputsOf inside))) :
    Confined current lo (inputs input >>= f) := by
  intro w hd hcurrent
  rw [runOn_bind, runOn_inputs]
  cases hinside : w.disk.getFolder input with
  | error e => exact .refl lo w.disk
  | ok inside =>
    have hat := (Disk.get_eq_ok (Disk.getFolder_eq_ok.1 hinside)).2
    exact h inside (hd.at? hat) w hd hcurrent

theorem confined_carryOut (hlo : Path.locate current output = lo)
    (hold : old.LeadsBelow current output) : Confined current lo (b.carryOut input output old) := by
  have hmake : Confined current lo (onDisk (Session.makeFolders output)) :=
    confined_onDisk fun d _ => (Session.relates_makeFolders output d).within lo
  apply hmake.bind
  intro _
  apply confined_inputs_bind
  intro inside hwf
  -- a path that changes is recorded or an input, and either leads below the output
  have hchange : ∀ x ∈ old.changes (b.record (inputsOf inside)),
      Path.LeadsBelow current lo (Path.join output x.1) := by
    intro x hx
    rw [← hlo]
    have hmem := BuildState.mem_changes.1 hx
    cases hnew : (b.record (inputsOf inside)).files.get? x.1 with
    | some digest => exact leadsBelow_record hwf current output _ _ hnew
    | none =>
      cases hrecord : old.files.get? x.1 with
      | some digest => exact hold _ _ hrecord
      | none =>
        rw [hnew, hrecord] at hmem
        cases hmem
  apply (confined_foldlM (fun x hx s => confined_apply s x (hchange x hx)) _).bind
  intro summary
  have hsave : Path.LeadsBelow current lo (Path.join output BuildState.fileName) := by
    rw [← hlo]
    exact Path.leadsBelow_join current output BuildState.isPlain_fileName
  apply (confined_writeFile _ hsave).bind
  intro _
  have hprune : Confined current lo (onDisk (Session.prune output)) :=
    confined_onDisk fun d _ => (Session.relates_prune output d).within lo
  exact hprune.bind fun _ => confined_pure summary

theorem confined_directory (hlo : Path.locate w.disk.current output = lo)
    (hd : w.disk.root.WellFormed)
    (hold : ∀ old w', runOn (b.prepare output incremental) w = (.ok old, w') →
      old.LeadsBelow w.disk.current output) :
    w.disk.Within lo (runOn (b.directory input output incremental) w).2.disk := by
  have hstate := checkOutput_state input output w
  rw [directory_eq, runOn_bind]
  rcases hcheck : runOn (checkOutput input output) w with ⟨_ | u, w0⟩ <;>
    rw [hcheck] at hstate <;> obtain rfl := hstate
  · exact .refl lo w0.disk
  · have hprepare : w0.disk.Within lo (runOn (b.prepare output incremental) w0).2.disk :=
      confined_prepare hlo w0 hd rfl
    dsimp only
    rw [runOn_bind]
    rcases hrun : runOn (b.prepare output incremental) w0 with ⟨_ | old, w1⟩ <;>
      rw [hrun] at hprepare
    · exact hprepare
    · have hrest : w1.disk.Within lo (runOn (b.carryOut input output old) w1).2.disk :=
        confined_carryOut hlo (hold old w1 hrun) w1 (hprepare.wellFormed hd) hprepare.current
      exact hprepare.trans hrest

end Confined

section Proceeds

variable {α β : Type} {x : Action α} {f : α → Action β}

/-- Whatever the action fails with, the disk refuses something or a class does not link. -/
def FailsAtWork (x : Action α) : Prop :=
  ∀ w w' e, runOn x w = (.error e, w') →
    (∃ cause, e = .disk cause) ∨ ∃ path cause, e = .badClass path cause

theorem FailsAtWork.bind (hx : FailsAtWork x) (hf : ∀ a, FailsAtWork (f a)) :
    FailsAtWork (x >>= f) := by
  intro w w' e h
  rcases runOn_bind_eq_error.1 h with h | ⟨a, w1, -, h⟩
  · exact hx w w' e h
  · exact hf a w1 w' e h

theorem failsAtWork_of_ok (h : ∀ w, ∃ a w', runOn x w = (.ok a, w')) : FailsAtWork x := by
  intro w w' e hrun
  obtain ⟨a, w1, hok⟩ := h w
  rw [hok] at hrun
  cases hrun

theorem failsAtWork_pure (a : α) : FailsAtWork (pure a : Action α) :=
  failsAtWork_of_ok fun w => ⟨a, w, rfl⟩

theorem failsAtWork_report (level : Level) (message : String) :
    FailsAtWork (report level message) :=
  failsAtWork_of_ok fun _ => ⟨(), _, rfl⟩

theorem failsAtWork_onDisk (work : Session α) : FailsAtWork (onDisk work) := by
  intro w w' e h
  obtain ⟨cause, disk, -, heq, -⟩ := onDisk_eq_error h
  exact .inl ⟨cause, heq⟩

theorem failsAtWork_link (path : String) (contents : Bytes) :
    FailsAtWork (b.link path contents) := by
  intro w w' e h
  rw [runOn_link] at h
  split at h
  · cases h
  · cases h
    exact .inr ⟨path, _, rfl⟩

theorem failsAtWork_removeOutput (path : String) : FailsAtWork (removeOutput path) :=
  fun _ _ _ h => .inl (removeOutput_eq_error h)

theorem failsAtWork_update (change : Change) (s : Summary) :
    FailsAtWork (b.update input output path change s) := by
  apply (failsAtWork_onDisk _).bind
  intro contents
  split
  · apply (failsAtWork_report _ _).bind
    intro _
    apply (failsAtWork_link path contents).bind
    intro linked
    exact (failsAtWork_onDisk _).bind fun _ => failsAtWork_pure _
  · exact (failsAtWork_onDisk _).bind fun _ => failsAtWork_pure _

theorem failsAtWork_apply (s : Summary) (x : String × Change) :
    FailsAtWork (b.apply input output s x) := by
  obtain ⟨path, change⟩ := x
  cases change with
  | notChanged => exact failsAtWork_pure _
  | removed =>
    rw [apply_removed]
    apply (failsAtWork_report _ _).bind
    intro _
    exact (failsAtWork_removeOutput _).bind fun _ => failsAtWork_pure _
  | added => exact failsAtWork_update .added s
  | changed => exact failsAtWork_update .changed s

theorem failsAtWork_foldlM_apply (changes : List (String × Change)) (s : Summary) :
    FailsAtWork (changes.foldlM (b.apply input output) s) := by
  induction changes generalizing s with
  | nil => exact failsAtWork_pure s
  | cons x changes ih =>
    rw [List.foldlM_cons]
    exact (failsAtWork_apply s x).bind fun s => ih s

theorem failsAtWork_inputs : FailsAtWork (inputs input) := by
  intro w w' e h
  rw [runOn_inputs] at h
  split at h <;> cases h
  exact .inl ⟨_, rfl⟩

theorem failsAtWork_carryOut : FailsAtWork (b.carryOut input output old) := by
  apply (failsAtWork_onDisk _).bind
  intro _
  apply failsAtWork_inputs.bind
  intro files
  apply (failsAtWork_foldlM_apply _ _).bind
  intro summary
  apply (failsAtWork_onDisk _).bind
  intro _
  exact (failsAtWork_onDisk _).bind fun _ => failsAtWork_pure summary

/-- Whatever the action fails with, it does not refuse the output for holding the input. -/
def Proceeds (x : Action α) : Prop :=
  ∀ w w' l k, runOn x w ≠ (.error (.outputHoldsInput l k), w')

theorem Proceeds.bind (hx : Proceeds x) (hf : ∀ a, Proceeds (f a)) : Proceeds (x >>= f) := by
  intro w w' l k h
  rcases runOn_bind_eq_error.1 h with h | ⟨a, w1, -, h⟩
  · exact hx w w' l k h
  · exact hf a w1 w' l k h

theorem proceeds_prepare : Proceeds (b.prepare output incremental) := by
  intro w w' l k h
  rcases prepare_eq_error h with ⟨_, he⟩ | he <;> cases he

theorem proceeds_carryOut : Proceeds (b.carryOut input output old) := by
  intro w w' l k h
  rcases failsAtWork_carryOut w w' _ h with ⟨_, he⟩ | ⟨_, _, he⟩ <;> cases he

end Proceeds

/-- The path leads to something, or the folders that it leads through can be made. -/
def Opens (d : Disk) (output : String) : Prop :=
  d.has output = true ∨ (runOn (Session.makeFolders output) d).1 = .ok ()

/-- The files below one location, but for those of a folder at another, are as before, and none is
added but there. -/
structure Spared (li lo : Location) (d d' : Disk) : Prop where
  kept : ∀ k contents, li <+: k → ¬(lo <+: k ∧ d.root.kind? lo = some .folder) →
    d.root.fileAt? k = some contents → d'.root.fileAt? k = some contents
  added : ∀ k, li <+: k → ¬lo <+: k → d.root.fileAt? k = none → d'.root.fileAt? k = none

/-- A build that would write into its input or above it is refused, with nothing done. Any other build
spares the input, however it ends. -/
structure KeepsInput (b : Build) (input output : String) (incremental : Bool) (li lo : Location)
    (w : World) : Prop where
  refused : Opens w.disk output → lo <+: li →
    runOn (b.directory input output incremental) w = (.error (.outputHoldsInput lo li), w)
  spared : ¬(Opens w.disk output ∧ lo <+: li) →
    Spared li lo w.disk (runOn (b.directory input output incremental) w).2.disk

theorem spared_of_within {d d' : Disk} (hd : d.root.WellFormed) (h : d.Within lo d')
    (li : Location) : Spared li lo d d' where
  kept := by
    intro k contents _ hnot hk
    by_cases hpre : lo <+: k
    · -- where the output is no folder, the only file at or below it is the output itself
      by_cases hself : lo = k
      · subst hself
        exact h.self hd contents hk
      · have hnone : d.root.kind? k = none :=
          Disk.kind?_below (fun hfolder => hnot ⟨hpre, hfolder⟩) hpre hself
        rw [Folder.fileAt?_eq_some.1 hk] at hnone
        cases hnone
    · rw [h.outside hd k hpre, hk]
  added := by
    intro k _ hpre hk
    rw [h.outside hd k hpre, hk]

theorem spared_of_keepsFiles {d d' : Disk} (hd : d.root.WellFormed) (h : d.KeepsFiles d')
    (li lo : Location) : Spared li lo d d' where
  kept := fun k _ _ _ hk => (h.fileAt? hd k).trans hk
  added := fun k _ _ hk => (h.fileAt? hd k).trans hk

theorem runOn_checkOutput_of_not_has (h : w.disk.has output = false) :
    runOn (checkOutput input output) w = (.ok (), w) := by
  rw [checkOutput, runOn_bind, Action.runOn_look]
  dsimp only
  rw [h]
  rfl

/-- A build whose output is not there and cannot be made only makes folders. -/
theorem keepsFiles_of_not_opens (h : ¬Opens w.disk output) :
    w.disk.KeepsFiles (runOn (b.directory input output incremental) w).2.disk := by
  rw [Opens, not_or] at h
  obtain ⟨hhas, hmake⟩ := h
  have hhas : w.disk.has output = false := Bool.not_eq_true _ ▸ hhas
  -- an output that is missing is not cleared
  have hprepare : (runOn (b.prepare output incremental) w).2.disk = w.disk := by
    have hfound : (runOn (found output incremental) w).2.disk = w.disk := found_disk w
    rw [prepare_eq, runOn_bind]
    rcases hrun : runOn (found output incremental) w with ⟨_ | old, w1⟩ <;> rw [hrun] at hfound
    · exact hfound
    · obtain ⟨log, hgo⟩ := runOn_goOn b output incremental old w1
      have hfound : w1.disk = w.disk := hfound
      dsimp only
      rw [hgo, hfound, hhas, if_neg Bool.false_ne_true]
      split
      · exact hfound
      · rfl
  rw [directory_eq, runOn_bind, runOn_checkOutput_of_not_has hhas]
  dsimp only
  rw [runOn_bind]
  rcases hrun : runOn (b.prepare output incremental) w with ⟨_ | old, w1⟩ <;> rw [hrun] at hprepare
  · dsimp only at hprepare ⊢
    rw [hprepare]
    exact .refl w.disk
  · dsimp only at hprepare ⊢
    have hgrows := Session.relates_makeFolders output w.disk
    rw [carryOut, runOn_bind, Action.runOn_onDisk, hprepare]
    rcases hmade : runOn (Session.makeFolders output) w.disk with ⟨e | u, disk⟩ <;>
      rw [hmade] at hgrows hmake
    · exact hgrows
    · exact absurd rfl hmake

/-- As long as the record that is kept in the output names nothing elsewhere, an input is kept from
every build, but for one whose output is missing when it is checked and turns out to be the input or
to lie above it once its folders are made. -/
theorem keepsInput_iff (b : Build) (input output : String) (incremental : Bool)
    (hd : w.disk.root.WellFormed) (hli : w.disk.resolve input = .ok li)
    (hlo : Path.locate w.disk.current output = lo)
    (hrecord : incremental = true → ∀ s : BuildState, s.settings = b.settingsDigest →
      s.RecordedAt w.disk (lo ++ [BuildState.fileName]) → s.LeadsBelow w.disk.current output) :
    b.KeepsInput input output incremental li lo w ↔
      ¬(w.disk.has output = false ∧ Opens w.disk output ∧ lo <+: li) := by
  constructor
  · intro hkeeps hmissed
    obtain ⟨hhas, hopens, hpre⟩ := hmissed
    have hrefused := hkeeps.refused hopens hpre
    -- a missing output passes the check, and no later step refuses it
    rw [directory_eq, runOn_bind, runOn_checkOutput_of_not_has hhas] at hrefused
    exact (proceeds_prepare.bind fun old => proceeds_carryOut) w w lo li hrefused
  · intro hseen
    refine ⟨fun hopens hpre => ?_, fun hnot => ?_⟩
    · have hhas : w.disk.has output = true := by
        cases hhas : w.disk.has output with
        | true => rfl
        | false => exact absurd ⟨hhas, hopens, hpre⟩ hseen
      have hfound := Disk.has_iff.1 hhas
      rw [hlo] at hfound
      rw [directory_eq, runOn_bind, runOn_checkOutput hli hfound, if_pos hpre]
    · by_cases hopens : Opens w.disk output
      · apply spared_of_within hd
        apply confined_directory hlo hd
        intro old w' hprepare
        rcases prepare_eq_ok hprepare with
          ⟨hinc, hsettings, -, bytes, text, hread, htext, hjson⟩ | ⟨rfl, -, -⟩ | ⟨rfl, -, -⟩
        · have hfile := Disk.read_eq_ok hread
          rw [Path.locate_join _ BuildState.isPlain_fileName, hlo, BuildState.steps_fileName]
            at hfile
          exact hrecord hinc old hsettings ⟨bytes, text, hfile, htext, hjson⟩
        · intro p digest hp
          cases hp
        · intro p digest hp
          cases hp
      · exact spared_of_keepsFiles hd (keepsFiles_of_not_opens hopens) li lo

section Examples

theorem keepsInput_iff_beside :
    ({} : Build).KeepsInput "in" "out" true ["in"] ["out"] (beside "a.txt" "2") := by
  have hold : (oneFile "a.txt" "1").WellFormed := ⟨by decide, by decide, trivial⟩
  refine (keepsInput_iff {} "in" "out" true (wellFormed_beside (by decide) "2") (by decide +kernel)
    (by decide) fun _ s _ hs => ?_).2 fun h => absurd h.2.2 (by decide)
  rw [recordedAt_beside hs]
  exact leadsBelow_record hold _ "out"

def strayRecord : BuildState :=
  { settings := ({} : Build).settingsDigest, files := SortedMap.empty.insert "../in/a.txt" "" }

/-- An input with one text beside an output with that record. -/
def strayed : World :=
  { disk :=
      { root := .folder "in" (oneFile "a.txt" "1")
          (.folder "out" (oneFile BuildState.fileName strayRecord.toJson) .empty) } }

theorem prepare_strayed :
    runOn (({} : Build).prepare "out" true) strayed = (.ok strayRecord, strayed) :=
  prepare_of_read rfl rfl

/-- A full build by a detour inside the input takes the input for its output, and what a record
names outside the output is removed from the input. -/
theorem not_keepsInput :
    (unbuilt.disk.root.WellFormed ∧ unbuilt.disk.resolve "in" = .ok ["in"] ∧
      Path.locate unbuilt.disk.current "in/x/.." = ["in"] ∧
      ¬({} : Build).KeepsInput "in" "in/x/.." false ["in"] ["in"] unbuilt) ∧
    (strayed.disk.root.WellFormed ∧ strayed.disk.resolve "in" = .ok ["in"] ∧
      Path.locate strayed.disk.current "out" = ["out"] ∧
      ¬({} : Build).KeepsInput "in" "out" true ["in"] ["out"] strayed) := by
  refine ⟨⟨wellFormed_unbuilt, by decide +kernel, by decide, fun h => ?_⟩,
    ⟨by decide, by decide, ⟨by decide, by decide, trivial⟩, by decide, by decide,
      ⟨by decide, by decide, trivial⟩, trivial⟩, by decide +kernel, by decide, fun h => ?_⟩
  · have hrun : (runOn (({} : Build).directory "in" "in/x/.." false) unbuilt).1 =
        .ok { copied := 1 } := by
      decide +kernel
    rw [h.refused (.inr (by decide +kernel)) (List.prefix_refl _)] at hrun
    cases hrun
  · have hkept := (h.spared fun hnot => absurd hnot.2 (by decide)).kept ["in", "a.txt"]
      (Bytes.ofText "1") (by decide) (fun hnot => absurd hnot.1 (by decide)) rfl
    rw [runOn_directory (by decide +kernel) prepare_strayed] at hkept
    simp only [carryOut, BuildState.changes_eq_merge] at hkept
    revert hkept
    decide +kernel

end Examples

end Build

end StubLinker
