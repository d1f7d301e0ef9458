import StubLinker.Build.Directory
import StubLinker.Proofs.Build.State
import StubLinker.Proofs.Disk.Session

namespace StubLinker

namespace Action

variable {α β : Type} {w w' : World} {path : String}

theorem runOn_report (level : Level) (message : String) (w : World) :
    runOn (report level message) w = (.ok (), { w with log := w.log ++ [⟨.build, level, message⟩] }) :=
  rfl

theorem runOn_look (f : Disk → α) (w : World) : runOn (look f) w = (.ok (f w.disk), w) :=
  rfl

theorem runOn_onDisk (work : Session α) (w : World) :
    runOn (onDisk work) w =
      match runOn work w.disk with
      | (.ok a, disk) => (.ok a, { w with disk })
      | (.error e, disk) => (.error (.disk e), { w with disk }) := by
  rw [onDisk, runOn_bind, runOn_get]
  dsimp only
  have hrun : work.run.run w.disk = runOn work w.disk := rfl
  rw [hrun]
  rcases runOn work w.disk with ⟨_ | a, disk⟩ <;> rfl

theorem onDisk_eq_ok {work : Session α} {a : α} (h : runOn (onDisk work) w = (.ok a, w')) :
    ∃ disk, runOn work w.disk = (.ok a, disk) ∧ w' = { w with disk } := by
  rw [runOn_onDisk] at h
  rcases hrun : runOn work w.disk with ⟨_ | a', disk⟩
  · rw [hrun] at h
    cases h
  · rw [hrun] at h
    cases h
    exact ⟨disk, rfl, rfl⟩

theorem onDisk_eq_error {work : Session α} {e : BuildError}
    (h : runOn (onDisk work) w = (.error e, w')) :
    ∃ cause disk, runOn work w.disk = (.error cause, disk) ∧ e = .disk cause ∧
      w' = { w with disk } := by
  rw [runOn_onDisk] at h
  rcases hrun : runOn work w.disk with ⟨cause | a, disk⟩
  · rw [hrun] at h
    cases h
    exact ⟨cause, disk, rfl, rfl, rfl⟩
  · rw [hrun] at h
    cases h

theorem onDisk_look_state (f : Disk → Except DiskError α) (w : World) :
    (runOn (onDisk (Session.look f)) w).2 = w := by
  rw [runOn_onDisk, Session.runOn_look]
  cases f w.disk <;> rfl

end Action

namespace Build

variable {b : Build} {w w' : World} {input output p path : String} {contents out : Bytes}
  {li lo : Location} {e : BuildError}

theorem checkOutput_state (input output : String) (w : World) :
    (runOn (checkOutput input output) w).2 = w := by
  rw [checkOutput, runOn_bind, Action.runOn_look]
  dsimp only
  split
  · rw [runOn_bind, Action.runOn_onDisk, Session.runOn_look]
    cases w.disk.resolve input with
    | error e => rfl
    | ok li =>
      dsimp only
      rw [runOn_bind, Action.runOn_onDisk, Session.runOn_look]
      cases w.disk.resolve output with
      | error e => rfl
      | ok lo =>
        dsimp only
        split <;> rfl
  · rfl

def inputsOf (inside : Folder) : List (String × Bytes) :=
  (inside.files.map fun f => ("/".intercalate f.1, f.2)).filter fun f =>
    f.1 != BuildState.fileName

theorem runOn_inputs (input : String) (w : World) :
    runOn (inputs input) w =
      match w.disk.getFolder input with
      | .ok inside => (.ok (inputsOf inside), w)
      | .error e => (.error (.disk e), w) := by
  rw [inputs, runOn_bind, Action.runOn_onDisk, Session.runOn_look]
  cases w.disk.getFolder input <;> rfl

theorem runOn_link (b : Build) (path : String) (contents : Bytes) (w : World) :
    runOn (b.link path contents) w =
      match ClassFile.linkBytes b.settings contents with
      | (.ok linked, lines) => (.ok linked, { w with log := w.log ++ lines })
      | (.error e, lines) => (.error (.badClass path e), { w with log := w.log ++ lines }) := by
  rw [link]
  rcases ClassFile.linkBytes b.settings contents with ⟨_ | linked, lines⟩ <;> rfl

theorem runOn_removeOutput (path : String) (w : World) :
    runOn (removeOutput path) w =
      match w.disk.removeFile path with
      | .ok disk => (.ok (), { w with disk })
      | .error .notFound => (.ok (), w)
      | .error e => (.error (.disk e), w) := by
  rw [removeOutput, runOn_bind, runOn_get]
  dsimp only
  cases w.disk.removeFile path with
  | ok disk => rfl
  | error e => cases e <;> rfl

/-- What an update does: the input is read, and what it becomes is written. -/
theorem runOn_update (b : Build) (input output path : String) (change : Change) (s : Summary)
    (w : World) : ∃ log, runOn (b.update input output path change s) w =
      match w.disk.read (Path.join input path) with
      | .error e => (.error (.disk e), w)
      | .ok contents =>
        match b.outcome path contents with
        | .error e => (.error (.badClass path e), ⟨w.disk, log⟩)
        | .ok out =>
          match runOn (Session.writeFile (Path.join output path) out) w.disk with
          | (.error e, disk) => (.error (.disk e), ⟨disk, log⟩)
          | (.ok _, disk) =>
            (.ok (if b.links path then { s with rewritten := s.rewritten + 1 }
              else { s with copied := s.copied + 1 }), ⟨disk, log⟩) := by
  rw [update, runOn_bind, Action.read, Action.runOn_onDisk, Session.runOn_look]
  cases w.disk.read (Path.join input path) with
  | error e => exact ⟨w.log, rfl⟩
  | ok contents =>
    dsimp only
    by_cases hlinks : b.links path = true
    · rw [if_pos hlinks, runOn_bind, Action.runOn_report, outcome, if_pos hlinks]
      dsimp only
      rw [runOn_bind, runOn_link]
      rcases ClassFile.linkBytes b.settings contents with ⟨e | out, lines⟩
      · exact ⟨_, rfl⟩
      · dsimp only
        rw [runOn_bind, Action.runOn_onDisk]
        rcases runOn (Session.writeFile (Path.join output path) out) w.disk with ⟨e | u, disk⟩
        · exact ⟨_, rfl⟩
        · simp only [hlinks]
          exact ⟨_, rfl⟩
    · rw [if_neg hlinks, runOn_bind, Action.runOn_onDisk, outcome, if_neg hlinks]
      dsimp only
      rcases runOn (Session.writeFile (Path.join output path) contents) w.disk with ⟨e | u, disk⟩
      · exact ⟨w.log, rfl⟩
      · simp only [hlinks]
        exact ⟨w.log, rfl⟩

section Update

variable {b : Build} {input output path : String} {change : Change} {s s' : Summary} {w w' : World}

/-- An update that succeeds reads an input that has an outcome, and writes it. -/
theorem runOn_update_eq_ok (h : runOn (b.update input output path change s) w = (.ok s', w')) :
    ∃ c o, w.disk.read (Path.join input path) = .ok c ∧ b.outcome path c = .ok o ∧
      runOn (Session.writeFile (Path.join output path) o) w.disk = (.ok (), w'.disk) := by
  obtain ⟨log, hrun⟩ := runOn_update b input output path change s w
  rw [hrun] at h
  cases hread : w.disk.read (Path.join input path) with
  | error e =>
    rw [hread] at h
    cases h
  | ok c =>
    rw [hread] at h
    dsimp only at h
    cases hout : b.outcome path c with
    | error e =>
      rw [hout] at h
      cases h
    | ok o =>
      rw [hout] at h
      dsimp only at h
      rcases hwrite : runOn (Session.writeFile (Path.join output path) o) w.disk with ⟨e | u, disk⟩
      · rw [hwrite] at h
        cases h
      · rw [hwrite] at h
        cases h
        exact ⟨c, o, rfl, hout, hwrite⟩

theorem runOn_update_of_writeFile {c o : Bytes} {d' : Disk} (change : Change) (s : Summary)
    (hread : w.disk.read (Path.join input path) = .ok c) (hout : b.outcome path c = .ok o)
    (hwrite : runOn (Session.writeFile (Path.join output path) o) w.disk = (.ok (), d')) :
    ∃ s' log, runOn (b.update input output path change s) w = (.ok s', ⟨d', log⟩) := by
  obtain ⟨log, hrun⟩ := runOn_update b input output path change s w
  rw [hread] at hrun
  dsimp only at hrun
  rw [hout] at hrun
  dsimp only at hrun
  rw [hwrite] at hrun
  exact ⟨_, log, hrun⟩

end Update

end Build

end StubLinker
