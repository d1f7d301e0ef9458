import StubLinker.Proofs.Build.Counts
import StubLinker.Proofs.Build.UpToDate

namespace StubLinker

namespace Build

variable {b : Build} {input output : String} {incremental : Bool} {w w' w1 w2 : World}
  {old s : BuildState} {summary : Summary} {inside : Folder} {bytes : Bytes} {d : Disk}

/-- The record that a build goes on from: that of the output, if the build is incremental and the
record is for its settings. -/
def recorded (b : Build) (output : String) (incremental : Bool) (d : Disk) : Option BuildState := do
  let bytes ← (d.read (Path.join output BuildState.fileName)).toOption
  let s ← BuildState.decode bytes
  if incremental && s.settings = b.settingsDigest then some s else none

def clears (b : Build) (output : String) (incremental : Bool) (d : Disk) : Bool :=
  (b.recorded output incremental d).isNone && d.has output

theorem recorded_eq_some :
    b.recorded output incremental d = some s ↔
      incremental = true ∧ s.settings = b.settingsDigest ∧ ∃ bytes text,
        d.read (Path.join output BuildState.fileName) = .ok bytes ∧
          Bytes.toText? bytes = some text ∧ BuildState.ofJson text = .ok s := by
  constructor
  · intro h
    obtain ⟨bytes, hread, h⟩ := Option.bind_eq_some_iff.1 h
    obtain ⟨found, hdecode, h⟩ := Option.bind_eq_some_iff.1 h
    obtain ⟨text, htext, hjson⟩ := Option.bind_eq_some_iff.1 hdecode
    split at h
    · rename_i hgoes
      cases h
      obtain ⟨hincremental, hsettings⟩ := Bool.and_eq_true_iff.1 hgoes
      exact ⟨hincremental, of_decide_eq_true hsettings, bytes, text,
        Except.eq_ok_of_toOption hread, htext, Except.eq_ok_of_toOption hjson⟩
    · cases h
  · rintro ⟨rfl, hsettings, bytes, text, hread, htext, hjson⟩
    simp [recorded, BuildState.decode, Except.toOption, hread, htext, hjson, hsettings]

theorem prepare_recorded (h : runOn (b.prepare output incremental) w = (.ok old, w')) :
    (b.recorded output incremental w.disk = some old ∧ w'.disk = w.disk) ∨
      (b.recorded output incremental w.disk = none ∧ old = {} ∧
        ((w.disk.has output = true ∧
            runOn (Session.removeTree output) w.disk = (.ok (), w'.disk)) ∨
          (w.disk.has output = false ∧ w'.disk = w.disk))) := by
  cases hrecorded : b.recorded output incremental w.disk with
  | some s =>
    left
    obtain ⟨rfl, hsettings, bytes, text, hread, htext, hjson⟩ := recorded_eq_some.1 hrecorded
    have hload : runOn (found output true) w = (.ok s, w) :=
      BuildState.load_of_ofJson hread htext hjson
    obtain ⟨log, hgo⟩ := runOn_goOn b output true s w
    rw [prepare_eq, runOn_bind, hload] at h
    dsimp only at h
    rw [hgo, if_pos hsettings] at h
    cases h
    exact ⟨rfl, rfl⟩
  | none =>
    right
    rcases prepare_eq_ok h with ⟨hinc, hsettings, -, hread⟩ | ⟨hold, hhas, hremove⟩ | ⟨hold, hhas, hdisk⟩
    · rw [recorded_eq_some.2 ⟨hinc, hsettings, hread⟩] at hrecorded
      cases hrecorded
    · exact ⟨rfl, hold, .inl ⟨hhas, hremove⟩⟩
    · exact ⟨rfl, hold, .inr ⟨hhas, hdisk⟩⟩

/-- What is in the input folder of a build when its files are listed. -/
structure Scans (b : Build) (input output : String) (incremental : Bool) (d : Disk)
    (inside : Folder) : Prop where
  wellFormed : inside.WellFormed
  fileAt? : ∀ k, inside.fileAt? k =
    if b.clears output incremental d = true ∧
        Path.locate d.current output <+: Path.locate d.current input ++ k then none
    else d.root.fileAt? (Path.locate d.current input ++ k)
  apart : ¬Path.locate d.current input <+: Path.locate d.current output →
    ∀ before, d.getFolder input = .ok before → inputsOf inside = inputsOf before

/-- Preparing the output takes its files away if it is cleared, and no other file. -/
theorem fileAt?_prepared (hd : w.disk.root.WellFormed)
    (hprepare : runOn (b.prepare output incremental) w = (.ok old, w1))
    (hmake : runOn (Action.onDisk (Session.makeFolders output)) w1 = (.ok (), w2)) :
    w2.disk.current = w.disk.current ∧ w2.disk.root.WellFormed ∧
      ∀ l, w2.disk.root.fileAt? l =
        if b.clears output incremental w.disk = true ∧ Path.locate w.disk.current output <+: l then none
        else w.disk.root.fileAt? l := by
  obtain ⟨disk, hrun, rfl⟩ := Action.onDisk_eq_ok hmake
  have hgrows := Session.grows_makeFolders output w1.disk
  rw [hrun] at hgrows
  dsimp only
  have hsame (hdisk : w1.disk = w.disk) (hclears : b.clears output incremental w.disk = false) :
      disk.current = w.disk.current ∧ disk.root.WellFormed ∧ ∀ l, disk.root.fileAt? l =
        if b.clears output incremental w.disk = true ∧ Path.locate w.disk.current output <+: l then none
        else w.disk.root.fileAt? l := by
    rw [hdisk] at hgrows
    refine ⟨hgrows.current, hgrows.wellFormed hd, fun l => ?_⟩
    rw [hgrows.fileAt?, if_neg (by simp [hclears])]
  rcases prepare_recorded hprepare with ⟨hrecorded, hdisk⟩ | ⟨hrecorded, -, hprepared⟩
  · exact hsame hdisk (by simp [clears, hrecorded])
  rcases hprepared with ⟨hhas, hremove⟩ | ⟨hhas, hdisk⟩
  · obtain ⟨hcurrent, hwf, helse, hnone⟩ := Session.removeTree_eq_ok hd hremove
    refine ⟨hgrows.current.trans hcurrent, hgrows.wellFormed hwf, fun l => ?_⟩
    have hclears : b.clears output incremental w.disk = true := by simp [clears, hrecorded, hhas]
    rw [hgrows.fileAt?]
    by_cases hl : Path.locate w.disk.current output <+: l
    · rw [if_pos ⟨hclears, hl⟩]
      obtain ⟨k, rfl⟩ := hl
      exact hnone k
    · rw [if_neg fun h => hl h.2]
      exact Folder.fileAt?_of_kind? (helse l hl)
  · exact hsame hdisk (by simp [clears, hhas])

theorem counts_of_directory (hd : w.disk.root.WellFormed)
    (h : runOn (b.directory input output incremental) w = (.ok summary, w')) :
    ∃ inside, b.Scans input output incremental w.disk inside ∧
      b.Counts ((b.recorded output incremental w.disk).getD {}) (inputsOf inside) summary := by
  obtain ⟨old, w1, hcheck, hprepare, hcarry⟩ := directory_eq_ok h
  obtain ⟨w2, inside, w3, w4, hmake, hinside, hloop, -⟩ := carryOut_eq_ok hcarry
  obtain ⟨hcurrent, hwf, hfiles⟩ := fileAt?_prepared hd hprepare hmake
  have hat := (Disk.get_eq_ok (Disk.getFolder_eq_ok.1 hinside)).2
  have hscan (k : Location) : inside.fileAt? k =
      if b.clears output incremental w.disk = true ∧
          Path.locate w.disk.current output <+: Path.locate w.disk.current input ++ k then none
      else w.disk.root.fileAt? (Path.locate w.disk.current input ++ k) := by
    rw [← fileAt?_below hat, hcurrent, hfiles]
  have hinsideWf : inside.WellFormed := hwf.at? hat
  refine ⟨inside, ⟨hinsideWf, hscan, fun hnot before hbefore => ?_⟩, ?_⟩
  · obtain ⟨hli, hatBefore⟩ := Disk.get_eq_ok (Disk.getFolder_eq_ok.1 hbefore)
    have hbeforeWf : before.WellFormed := hd.at? hatBefore
    rw [inputsOf, inputsOf, Folder.files_eq_of_fileAt? hinsideWf hbeforeWf]
    intro k
    rw [hscan, ← fileAt?_below hatBefore, if_neg]
    rintro ⟨hclears, hprefix⟩
    -- An output that is there and above the input would have been refused.
    have hlo := Disk.has_iff.1 (Bool.and_eq_true_iff.1 hclears).2
    have hoff : ¬Path.locate w.disk.current output <+: Path.locate w.disk.current input := by
      intro habove
      rw [runOn_checkOutput hli hlo, if_pos habove] at hcheck
      cases hcheck
    rcases List.prefix_or_prefix_of_prefix hprefix (List.prefix_append _ k) with habove | hbelow
    · exact hoff habove
    · exact hnot hbelow
  · have hold : (b.recorded output incremental w.disk).getD {} = old := by
      rcases prepare_recorded hprepare with ⟨hrecorded, -⟩ | ⟨hrecorded, rfl, -⟩
      · rw [hrecorded]
        rfl
      · rw [hrecorded]
        rfl
    rw [hold, foldlM_counts hloop]
    exact counts_foldl b old hinsideWf

/-- The changes between any two records are their difference. A build that succeeds counts every file
that is in its input once the output is prepared: as unchanged just those of which the record that it
goes on from has the digest, and as removed just the paths of that record that are no input. A full
build, or one of other settings, goes on from no record. -/
theorem directory_conserves :
    (∀ old new : BuildState, BuildState.Difference old new (old.changes new)) ∧
      ∀ (b : Build) (input output : String) (incremental : Bool) (w w' : World) (summary : Summary),
        w.disk.root.WellFormed →
        runOn (b.directory input output incremental) w = (.ok summary, w') →
        ∃ inside, b.Scans input output incremental w.disk inside ∧
          b.Counts ((b.recorded output incremental w.disk).getD {}) (inputsOf inside) summary :=
  ⟨BuildState.difference_changes, fun _ _ _ _ _ _ _ => counts_of_directory⟩

section Examples

theorem runOn_replaced : (runOn (({} : Build).directory "in" "out" true) (beside "b.txt" "2")).1 =
    .ok { copied := 1, removed := 1 } := by
  rw [runOn_directory (by decide +kernel) (prepare_beside "b.txt" "2")]
  simp only [carryOut, BuildState.changes_eq_merge]
  decide +kernel

theorem directory_conserves_replaced :
    ∃ inside w', runOn (({} : Build).directory "in" "out" true) (beside "b.txt" "2") =
        (.ok { copied := 1, removed := 1 }, w') ∧
      ({} : Build).Scans "in" "out" true (beside "b.txt" "2").disk inside ∧
      ({} : Build).Counts ((({} : Build).recorded "out" true (beside "b.txt" "2").disk).getD {})
        (inputsOf inside) { copied := 1, removed := 1 } := by
  have hrun := runOn_eq_of_fst runOn_replaced
  obtain ⟨inside, hscans, hcounts⟩ := directory_conserves.2 {} "in" "out" true _ _ _
    (wellFormed_beside (by decide) "2") hrun
  exact ⟨inside, _, hrun, hscans, hcounts⟩

theorem recordedAt_beside_copied (name text : String) :
    (({} : Build).record [("a.txt", Bytes.ofText "1")]).RecordedAt (beside name text).disk
      ["out", BuildState.fileName] :=
  ⟨_, _, rfl, Bytes.toText?_ofText _, BuildState.ofJson_toJson _⟩

/-- A full build copies an input that the output has a record of, and counts no path of that record
as removed. -/
theorem full_ignores_record :
    ∃ s : BuildState, s.settings = ({} : Build).settingsDigest ∧
      (s.RecordedAt (beside "a.txt" "1").disk ["out", BuildState.fileName] ∧
        ∃ summary w', runOn (({} : Build).directory "in" "out" false) (beside "a.txt" "1") =
            (.ok summary, w') ∧
          summary.unchanged ≠ (inputsOf (oneFile "a.txt" "1")).countP (keeps s)) ∧
      s.RecordedAt (beside "b.txt" "2").disk ["out", BuildState.fileName] ∧
        ∃ summary w', runOn (({} : Build).directory "in" "out" false) (beside "b.txt" "2") =
            (.ok summary, w') ∧
          summary.removed ≠
            s.files.keys.countP fun path => path ∉ (inputsOf (oneFile "b.txt" "2")).map Prod.fst := by
  have hkept : (runOn (({} : Build).directory "in" "out" false) (beside "a.txt" "1")).1 =
      .ok { copied := 1 } := by decide +kernel
  have hgone : (runOn (({} : Build).directory "in" "out" false) (beside "b.txt" "2")).1 =
      .ok { copied := 1 } := by decide +kernel
  refine ⟨({} : Build).record [("a.txt", Bytes.ofText "1")], settings_record {} _,
    ⟨recordedAt_beside_copied _ _, _, _, runOn_eq_of_fst hkept, ?_⟩,
    recordedAt_beside_copied _ _, _, _, runOn_eq_of_fst hgone, ?_⟩
  · decide +kernel
  · decide +kernel

end Examples

end Build

end StubLinker
