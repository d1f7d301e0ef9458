import StubLinker.Proofs.Build.Apply
import StubLinker.Proofs.Build.Record
import StubLinker.Proofs.Build.Settings

namespace StubLinker

namespace Build

variable {b : Build} {w w' : World} {input output path : String} {incremental : Bool}
  {summary : Summary} {cause : LinkError} {lo : Location} {old : BuildState} {inside : Folder}

theorem place_fileName (lo : Location) :
    place lo BuildState.fileName = lo ++ [BuildState.fileName] := by
  rw [place, BuildState.steps_fileName]

theorem fits_fileName : Path.Fits BuildState.fileName :=
  ⟨by decide, by decide, by decide⟩

theorem isPlain_of_mem_changes (hwf : inside.WellFormed)
    (hold : ∀ p digest, old.files.get? p = some digest →
      Path.IsPlain p ∧ p ≠ BuildState.fileName)
    {x : String × Change} (hx : x ∈ old.changes (b.record (inputsOf inside))) :
    Path.IsPlain x.1 ∧ x.1 ≠ BuildState.fileName := by
  obtain ⟨p, change⟩ := x
  rw [BuildState.mem_changes] at hx
  cases hnew : (b.record (inputsOf inside)).files.get? p with
  | some digest => exact isPlain_of_get?_record hwf hnew
  | none =>
    cases hrecord : old.files.get? p with
    | none =>
      rw [hnew, hrecord] at hx
      cases hx
    | some digest => exact hold p digest hrecord

theorem onDisk_ne_badClass {α : Type} {work : Session α} :
    runOn (Action.onDisk work) w ≠ (.error (.badClass path cause), w') := by
  intro h
  obtain ⟨e, disk, hrun, heq, hw⟩ := Action.onDisk_eq_error h
  cases heq

theorem checkOutput_ne_badClass :
    runOn (checkOutput input output) w ≠ (.error (.badClass path cause), w') := by
  intro h
  rcases runOn_bind_eq_error.1 h with h | ⟨found, w1, -, h⟩
  · cases h
  split at h
  · rcases runOn_bind_eq_error.1 h with h | ⟨li, w2, -, h⟩
    · exact onDisk_ne_badClass h
    rcases runOn_bind_eq_error.1 h with h | ⟨lo, w3, -, h⟩
    · exact onDisk_ne_badClass h
    split at h <;> cases h
  · cases h

theorem checkOutput_eq_ok {u : Unit} (h : runOn (checkOutput input output) w = (.ok u, w')) :
    w' = w := by
  rw [← checkOutput_state input output w, h]

theorem runOn_checkOutput {li : Location} (hli : w.disk.resolve input = .ok li)
    (hlo : w.disk.resolve output = .ok lo) :
    runOn (checkOutput input output) w =
      if lo <+: li then (.error (.outputHoldsInput lo li), w) else (.ok (), w) := by
  rw [checkOutput, runOn_bind, Action.runOn_look]
  dsimp only
  rw [if_pos (Disk.has_of_resolve hlo), runOn_bind, Action.runOn_onDisk, Session.runOn_look, hli]
  dsimp only
  rw [runOn_bind, Action.runOn_onDisk, Session.runOn_look, hlo]
  dsimp only
  simp only [List.isPrefixOf_iff_prefix]
  split <;> rfl

/-- The record that a build finds: an incremental one that of the output, a full one none. -/
def found (output : String) (incremental : Bool) : Action BuildState :=
  if incremental then BuildState.load output else pure {}

def goOn (b : Build) (output : String) (incremental : Bool) (old : BuildState) :
    Action BuildState := do
  if old.settings = b.settingsDigest then return old
  if incremental && !old.files.entries.isEmpty then
    Action.report .warn "Build settings changed since the last run, rebuilding everything"
  if ← Action.look (·.has output) then
    Action.onDisk (Session.removeTree output)
  return {}

theorem prepare_eq (b : Build) (output : String) (incremental : Bool) :
    b.prepare output incremental = found output incremental >>= b.goOn output incremental := by
  cases incremental <;> rfl

/-- A record of these settings is gone on from. Otherwise an output that is there is removed. -/
theorem runOn_goOn (b : Build) (output : String) (incremental : Bool) (old : BuildState)
    (w : World) : ∃ log, runOn (b.goOn output incremental old) w =
      if old.settings = b.settingsDigest then (.ok old, w)
      else if w.disk.has output then
        match runOn (Session.removeTree output) w.disk with
        | (.error e, disk) => (.error (.disk e), ⟨disk, log⟩)
        | (.ok _, disk) => (.ok {}, ⟨disk, log⟩)
      else (.ok {}, ⟨w.disk, log⟩) := by
  have hwipe (log : List LogLine) : runOn (do
      if ← Action.look (·.has output) then
        Action.onDisk (Session.removeTree output)
      return ({} : BuildState)) ⟨w.disk, log⟩ =
        if w.disk.has output then
          match runOn (Session.removeTree output) w.disk with
          | (.error e, disk) => (.error (.disk e), ⟨disk, log⟩)
          | (.ok _, disk) => (.ok {}, ⟨disk, log⟩)
        else (.ok {}, ⟨w.disk, log⟩) := by
    rw [runOn_bind, Action.runOn_look]
    dsimp only
    split
    · rw [runOn_bind, Action.runOn_onDisk]
      dsimp only
      rcases runOn (Session.removeTree output) w.disk with ⟨e | u, disk⟩ <;> rfl
    · rfl
  unfold goOn
  split
  · exact ⟨w.log, rfl⟩
  · split
    · rw [runOn_bind, Action.runOn_report]
      exact ⟨_, hwipe _⟩
    · exact ⟨w.log, hwipe w.log⟩

/-- A record that is not gone on from gives way to none, and an output that is there is removed. -/
theorem goOn_eq_ok {s : BuildState} (h : runOn (b.goOn output incremental s) w = (.ok old, w')) :
    (s.settings = b.settingsDigest ∧ old = s ∧ w' = w) ∨
      (old = {} ∧ w.disk.has output = true ∧
        runOn (Session.removeTree output) w.disk = (.ok (), w'.disk)) ∨
      (old = {} ∧ w.disk.has output = false ∧ w'.disk = w.disk) := by
  obtain ⟨log, hrun⟩ := runOn_goOn b output incremental s w
  rw [hrun] at h
  split at h
  · rename_i hsettings
    cases h
    exact .inl ⟨hsettings, rfl, rfl⟩
  · split at h
    · rename_i hhas
      rcases hremove : runOn (Session.removeTree output) w.disk with ⟨e | u, disk⟩
      · rw [hremove] at h
        cases h
      · rw [hremove] at h
        cases h
        exact .inr (.inl ⟨rfl, hhas, rfl⟩)
    · rename_i hhas
      cases h
      exact .inr (.inr ⟨rfl, Bool.not_eq_true _ ▸ hhas, rfl⟩)

/-- The record that is found is one that is read from the output, by an incremental build, or none. -/
theorem found_eq_ok {s : BuildState} (h : runOn (found output incremental) w = (.ok s, w')) :
    w'.disk = w.disk ∧ (s = {} ∨ incremental = true ∧ ∃ bytes text,
      w.disk.read (Path.join output BuildState.fileName) = .ok bytes ∧
        Bytes.toText? bytes = some text ∧ BuildState.ofJson text = .ok s) := by
  cases incremental with
  | false =>
    cases h
    exact ⟨rfl, .inl rfl⟩
  | true =>
    obtain ⟨hdisk, hs⟩ := BuildState.load_eq_ok h
    exact ⟨hdisk, hs.imp_right fun hread => ⟨rfl, hread⟩⟩

/-- The record that a build goes on from: one of its settings that is read from the output, or none,
once an output that is there is removed. -/
theorem prepare_eq_ok (h : runOn (b.prepare output incremental) w = (.ok old, w')) :
    (incremental = true ∧ old.settings = b.settingsDigest ∧ w'.disk = w.disk ∧ ∃ bytes text,
        w.disk.read (Path.join output BuildState.fileName) = .ok bytes ∧
          Bytes.toText? bytes = some text ∧ BuildState.ofJson text = .ok old) ∨
      (old = {} ∧ w.disk.has output = true ∧
        runOn (Session.removeTree output) w.disk = (.ok (), w'.disk)) ∨
      (old = {} ∧ w.disk.has output = false ∧ w'.disk = w.disk) := by
  rw [prepare_eq] at h
  obtain ⟨s, w1, hfound, h⟩ := runOn_bind_eq_ok.1 h
  obtain ⟨hdisk, hs⟩ := found_eq_ok hfound
  rcases goOn_eq_ok h with ⟨hsettings, rfl, rfl⟩ | hcleared
  · rcases hs with rfl | ⟨hincremental, hread⟩
    · exact absurd hsettings.symm (settingsDigest_ne_empty b)
    · exact .inl ⟨hincremental, hsettings, hdisk, hread⟩
  · rw [hdisk] at hcleared
    exact .inr hcleared

theorem found_eq_error {e : BuildError}
    (h : runOn (found output incremental) w = (.error e, w')) :
    (∃ cause, e = .disk cause) ∨ e = .stateNotText := by
  cases incremental with
  | false => cases h
  | true =>
    have hload : runOn (BuildState.load output) w = (.error e, w') := h
    obtain ⟨log, hrun⟩ := BuildState.runOn_load output w
    rw [hrun] at hload
    split at hload
    · cases hload
    · cases hload
      exact .inl ⟨_, rfl⟩
    · split at hload
      · cases hload
        exact .inr rfl
      · split at hload <;> cases hload

/-- The record to go on from is missed only if the disk refuses something or its file is no text. -/
theorem prepare_eq_error {e : BuildError}
    (h : runOn (b.prepare output incremental) w = (.error e, w')) :
    (∃ cause, e = .disk cause) ∨ e = .stateNotText := by
  rw [prepare_eq] at h
  rcases runOn_bind_eq_error.1 h with h | ⟨old, w1, -, h⟩
  · exact found_eq_error h
  obtain ⟨log, hrun⟩ := runOn_goOn b output incremental old w1
  rw [hrun] at h
  split at h
  · cases h
  split at h
  · split at h
    · cases h
      exact .inl ⟨_, rfl⟩
    · cases h
  · cases h

theorem inputs_bind_eq_ok {α : Type} {f : List (String × Bytes) → Action α} {a : α} :
    runOn (inputs input >>= f) w = (.ok a, w') ↔
      ∃ inside, w.disk.getFolder input = .ok inside ∧ runOn (f (inputsOf inside)) w = (.ok a, w') := by
  rw [runOn_bind, runOn_inputs]
  cases w.disk.getFolder input with
  | error e => simp
  | ok inside => simp

theorem directory_eq_badClass
    (h : runOn (b.directory input output incremental) w = (.error (.badClass path cause), w')) :
    ∃ old w1 w2 inside, runOn (checkOutput input output) w = (.ok (), w) ∧
      runOn (b.prepare output incremental) w = (.ok old, w1) ∧
      runOn (Action.onDisk (Session.makeFolders output)) w1 = (.ok (), w2) ∧
      w2.disk.getFolder input = .ok inside ∧
      runOn ((old.changes (b.record (inputsOf inside))).foldlM (b.apply input output) {}) w2 =
        (.error (.badClass path cause), w') := by
  rcases runOn_bind_eq_error.1 h with h | ⟨u, w0, hcheck, h⟩
  · exact absurd h checkOutput_ne_badClass
  rw [checkOutput_eq_ok hcheck] at h hcheck
  rcases runOn_bind_eq_error.1 h with h | ⟨old, w1, hprepare, h⟩
  · rcases prepare_eq_error h with ⟨_, he⟩ | he <;> cases he
  rcases runOn_bind_eq_error.1 h with h | ⟨u, w2, hmake, h⟩
  · exact absurd h onDisk_ne_badClass
  rw [runOn_bind, runOn_inputs] at h
  cases hinside : w2.disk.getFolder input with
  | error e =>
    rw [hinside] at h
    cases h
  | ok inside =>
    rw [hinside] at h
    refine ⟨old, w1, w2, inside, hcheck, hprepare, hmake, hinside, ?_⟩
    rcases runOn_bind_eq_error.1 h with h | ⟨summary, w3, -, h⟩
    · exact h
    rcases runOn_bind_eq_error.1 h with h | ⟨u, w4, -, h⟩
    · exact absurd h onDisk_ne_badClass
    rcases runOn_bind_eq_error.1 h with h | ⟨u, w5, -, h⟩
    · exact absurd h onDisk_ne_badClass
    · cases h

def carryOut (b : Build) (input output : String) (old : BuildState) : Action Summary := do
  Action.onDisk (Session.makeFolders output)
  let new := b.record (← inputs input)
  let summary ← (old.changes new).foldlM (b.apply input output) {}
  new.save output
  Action.onDisk (Session.prune output)
  return summary

theorem directory_eq (b : Build) (input output : String) (incremental : Bool) :
    b.directory input output incremental = (do
      checkOutput input output
      let old ← b.prepare output incremental
      b.carryOut input output old) :=
  rfl

theorem directory_eq_ok
    (h : runOn (b.directory input output incremental) w = (.ok summary, w')) :
    ∃ old w1, runOn (checkOutput input output) w = (.ok (), w) ∧
      runOn (b.prepare output incremental) w = (.ok old, w1) ∧
      runOn (b.carryOut input output old) w1 = (.ok summary, w') := by
  rw [directory_eq] at h
  obtain ⟨u, w0, hcheck, h⟩ := runOn_bind_eq_ok.1 h
  rw [checkOutput_eq_ok hcheck] at h hcheck
  obtain ⟨old, w1, hprepare, hcarry⟩ := runOn_bind_eq_ok.1 h
  exact ⟨old, w1, hcheck, hprepare, hcarry⟩

theorem carryOut_eq_ok (h : runOn (b.carryOut input output old) w = (.ok summary, w')) :
    ∃ w2 inside w3 w4, runOn (Action.onDisk (Session.makeFolders output)) w = (.ok (), w2) ∧
      w2.disk.getFolder input = .ok inside ∧
      runOn ((old.changes (b.record (inputsOf inside))).foldlM (b.apply input output) {}) w2 =
        (.ok summary, w3) ∧
      runOn ((b.record (inputsOf inside)).save output) w3 = (.ok (), w4) ∧
      runOn (Action.onDisk (Session.prune output)) w4 = (.ok (), w') := by
  obtain ⟨u, w2, hmake, h⟩ := runOn_bind_eq_ok.1 h
  obtain ⟨inside, hinside, h⟩ := inputs_bind_eq_ok.1 h
  obtain ⟨summary', w3, hloop, h⟩ := runOn_bind_eq_ok.1 h
  obtain ⟨u, w4, hsave, h⟩ := runOn_bind_eq_ok.1 h
  obtain ⟨u, w5, hprune, h⟩ := runOn_bind_eq_ok.1 h
  rw [runOn_pure] at h
  cases h
  exact ⟨w2, inside, w3, w4, hmake, hinside, hloop, hsave, hprune⟩

theorem runOn_carryOut {d₂ d₄ d₅ : Disk} {w3 : World}
    (hmake : runOn (Session.makeFolders output) w.disk = (.ok (), d₂))
    (hinside : d₂.getFolder input = .ok inside)
    (hloop : runOn ((old.changes (b.record (inputsOf inside))).foldlM (b.apply input output) {})
      ⟨d₂, w.log⟩ = (.ok summary, w3))
    (hsave : runOn (Session.writeFile (Path.join output BuildState.fileName)
      (Bytes.ofText (b.record (inputsOf inside)).toJson)) w3.disk = (.ok (), d₄))
    (hprune : runOn (Session.prune output) d₄ = (.ok (), d₅)) :
    runOn (b.carryOut input output old) w = (.ok summary, ⟨d₅, w3.log⟩) := by
  rw [carryOut, runOn_bind, Action.runOn_onDisk, hmake]
  dsimp only
  rw [runOn_bind, runOn_inputs, hinside]
  dsimp only
  rw [runOn_bind, hloop]
  dsimp only
  rw [runOn_bind, BuildState.save, Action.runOn_onDisk, hsave]
  dsimp only
  rw [runOn_bind, Action.runOn_onDisk, hprune]
  rfl

theorem ne_empty_of_carryOut (h : runOn (b.carryOut input output old) w = (.ok summary, w')) :
    output ≠ "" := by
  obtain ⟨w2, inside, w3, w4, -, -, -, -, hprune⟩ := carryOut_eq_ok h
  obtain ⟨d5, hprunes, -⟩ := Action.onDisk_eq_ok hprune
  exact Disk.ne_empty_of_resolve (Session.resolve_of_prune hprunes)

theorem runOn_directory {old : BuildState} {w1 : World}
    (hcheck : (runOn (checkOutput input output) w).1 = .ok ())
    (hprepare : runOn (b.prepare output incremental) w = (.ok old, w1)) :
    runOn (b.directory input output incremental) w = runOn (b.carryOut input output old) w1 := by
  have hstate := checkOutput_state input output w
  rcases hrun : runOn (checkOutput input output) w with ⟨result, w0⟩
  rw [hrun] at hcheck hstate
  cases hcheck
  cases hstate
  rw [directory_eq, runOn_bind, hrun]
  dsimp only
  rw [runOn_bind, hprepare]

theorem prepare_of_read {s : BuildState}
    (h : w.disk.read (Path.join output BuildState.fileName) = .ok (Bytes.ofText s.toJson))
    (hsettings : s.settings = b.settingsDigest) :
    runOn (b.prepare output true) w = (.ok s, w) := by
  have hload : runOn (found output true) w = (.ok s, w) := BuildState.load_of_read h
  obtain ⟨log, hgo⟩ := runOn_goOn b output true s w
  rw [prepare_eq, runOn_bind, hload]
  dsimp only
  rw [hgo, if_pos hsettings]

/-- A record for the settings of the build is gone on from, unless its path is one that no entry can
have. -/
theorem prepare_of_recordedAt {s : BuildState} (hlo : w.disk.resolve output = .ok lo)
    (hs : s.RecordedAt w.disk (lo ++ [BuildState.fileName])) (hsettings : s.settings = b.settingsDigest) :
    runOn (b.prepare output true) w =
      match Disk.checkPath (Path.join output BuildState.fileName) with
      | .error e => (.error (.disk e), w)
      | .ok _ => (.ok s, w) := by
  have hload : runOn (found output true) w = runOn (BuildState.load output) w := rfl
  rw [prepare_eq, runOn_bind, hload, BuildState.load_of_recordedAt hlo hs]
  cases Disk.checkPath (Path.join output BuildState.fileName) with
  | error e => rfl
  | ok u =>
    obtain ⟨log, hgo⟩ := runOn_goOn b output true s w
    dsimp only
    rw [hgo, if_pos hsettings]

section Examples

def oneFile (name text : String) : Folder :=
  .file name (Bytes.ofText text) .empty

/-- An input that was never built. -/
def unbuilt : World :=
  { disk := { root := .folder "in" (oneFile "a.txt" "1") .empty } }

/-- What a build leaves in the output of that input. -/
def copied : Folder :=
  .file BuildState.fileName
    (Bytes.ofText (({} : Build).record [("a.txt", Bytes.ofText "1")]).toJson) (oneFile "a.txt" "1")

/-- An input with one text beside that output. -/
def beside (name text : String) : World :=
  { disk := { root := .folder "in" (oneFile name text) (.folder "out" copied .empty) } }

theorem prepare_beside (name text : String) :
    runOn (({} : Build).prepare "out" true) (beside name text) =
      (.ok (({} : Build).record [("a.txt", Bytes.ofText "1")]), beside name text) :=
  prepare_of_read rfl (settings_record {} _)

theorem recordedAt_beside {s : BuildState} {name text : String}
    (h : s.RecordedAt (beside name text).disk ["out", BuildState.fileName]) :
    s = ({} : Build).record (inputsOf (oneFile "a.txt" "1")) := by
  obtain ⟨bytes, recorded, hfile, htext, hjson⟩ := h
  have hcopied : (beside name text).disk.root.fileAt? ["out", BuildState.fileName] =
      some (Bytes.ofText (({} : Build).record [("a.txt", Bytes.ofText "1")]).toJson) := rfl
  obtain rfl := Option.some.inj (hcopied.symm.trans hfile)
  rw [Bytes.toText?_ofText] at htext
  obtain rfl := Option.some.inj htext
  rw [BuildState.ofJson_toJson] at hjson
  exact (Except.ok.inj hjson).symm

theorem wellFormed_unbuilt : unbuilt.disk.root.WellFormed :=
  ⟨by decide, by decide, ⟨by decide, by decide, trivial⟩, trivial⟩

theorem wellFormed_beside {name : String} (hn : Folder.IsPlain name) (text : String) :
    (beside name text).disk.root.WellFormed :=
  ⟨by decide, by decide, ⟨hn, by simp [Folder.names], trivial⟩, by decide, by decide,
    ⟨by decide, by decide, by decide, by decide, trivial⟩, trivial⟩

end Examples

end Build

end StubLinker
