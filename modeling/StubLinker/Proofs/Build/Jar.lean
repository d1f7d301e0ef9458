import Mathlib.Data.List.Forall2
import StubLinker.Build.Jar
import StubLinker.Proofs.Archive.RoundTrip
import StubLinker.Proofs.Build.Fresh
import StubLinker.Proofs.Build.Saved
import StubLinker.Proofs.Disk.Above
import StubLinker.Proofs.Disk.Within

namespace StubLinker

namespace Build

variable {b : Build} {input output name : String} {w w' : World} {bytes c out : Bytes}
  {e : ArchiveEntry} {entries : List ArchiveEntry} {built : List (String × Bytes)}
  {s summary : Summary} {fault : BuildError}

def opened (e : ArchiveEntry) : Except BuildError Bytes :=
  match e.contents with
  | .ok contents => .ok (if e.isFolder then [] else contents)
  | .error cause => if e.isFolder && cause.isInContents then .ok [] else .error (.archive cause)

/-- The entry that an entry becomes: a folder stays one, the contents of a file become what those of an
input do. -/
def rebuilt (b : Build) (e : ArchiveEntry) : Except BuildError (String × Bytes) := do
  let contents ← opened e
  if e.isFolder then return (e.name, [])
  else return (e.name, ← (b.outcome e.name contents).mapError (.badClass e.name))

def tally (b : Build) (s : Summary) (e : ArchiveEntry) : Summary :=
  if e.isFolder then s
  else if b.links e.name then { s with rewritten := s.rewritten + 1 }
  else { s with copied := s.copied + 1 }

theorem runOn_contentsOf (e : ArchiveEntry) (w : World) :
    runOn (contentsOf e) w = (opened e, w) := by
  unfold contentsOf opened
  cases e.contents with
  | ok contents => rfl
  | error cause =>
    dsimp only
    split <;> rfl

theorem runOn_convert (b : Build) (input : String) (built : List (String × Bytes)) (s : Summary)
    (e : ArchiveEntry) (w : World) : ∃ log, runOn (b.convert input (built, s) e) w =
      match b.rebuilt e with
      | .ok new => (.ok (built ++ [new], b.tally s e), ⟨w.disk, log⟩)
      | .error fault => (.error fault, ⟨w.disk, log⟩) := by
  rw [convert, rebuilt, tally, runOn_bind, runOn_contentsOf]
  cases opened e with
  | error fault => exact ⟨w.log, rfl⟩
  | ok contents =>
    rw [Except.ok_bind]
    dsimp only
    by_cases hfolder : e.isFolder = true
    · simp only [if_pos hfolder]
      exact ⟨w.log, rfl⟩
    · simp only [if_neg hfolder]
      rw [outcome]
      by_cases hlinks : b.links e.name = true
      · simp only [if_pos hlinks]
        rw [runOn_bind, Action.runOn_report]
        dsimp only
        rw [runOn_bind, runOn_link]
        rcases ClassFile.linkBytes b.settings contents with ⟨_ | linked, lines⟩ <;> exact ⟨_, rfl⟩
      · simp only [if_neg hlinks]
        exact ⟨w.log, rfl⟩

theorem runOn_foldlM_convert (b : Build) (input : String) (entries : List ArchiveEntry)
    (built : List (String × Bytes)) (s : Summary) (w : World) :
    ∃ log, runOn (entries.foldlM (b.convert input) (built, s)) w =
      match entries.mapM b.rebuilt with
      | .ok new => (.ok (built ++ new, entries.foldl b.tally s), ⟨w.disk, log⟩)
      | .error fault => (.error fault, ⟨w.disk, log⟩) := by
  induction entries generalizing built s w with
  | nil =>
    refine ⟨w.log, ?_⟩
    rw [List.foldlM_nil, runOn_pure, List.mapM_nil]
    dsimp only [pure, Except.pure]
    rw [List.append_nil]
    rfl
  | cons e entries ih =>
    obtain ⟨log, hfirst⟩ := runOn_convert b input built s e w
    rw [List.foldlM_cons, runOn_bind, hfirst, List.mapM_cons]
    cases b.rebuilt e with
    | error fault => exact ⟨log, rfl⟩
    | ok new =>
      obtain ⟨log', hrest⟩ := ih (built ++ [new]) (b.tally s e) ⟨w.disk, log⟩
      dsimp only
      rw [hrest, Except.ok_bind]
      cases entries.mapM b.rebuilt with
      | error fault => exact ⟨log', rfl⟩
      | ok more =>
        refine ⟨log', ?_⟩
        dsimp only
        rw [List.append_assoc]
        rfl

theorem runOn_openArchive (hread : w.disk.read input = .ok bytes)
    (harchive : Archive.read bytes = .ok entries) :
    runOn (openArchive input) w = (.ok entries, w) := by
  have hfile : w.disk.hasFolder input = false := by
    rw [Bool.eq_false_iff]
    intro hfolder
    obtain ⟨l, hresolve, hl⟩ := Disk.hasFolder_iff.1 hfolder
    have hfile := Disk.read_eq_ok hread
    rw [← (Disk.resolve_eq_ok hresolve).1, Disk.fileAt?_of_folder hl] at hfile
    cases hfile
  rw [openArchive, runOn_bind, Action.runOn_look]
  dsimp only
  rw [hfile, if_neg Bool.false_ne_true, runOn_bind, Action.read, Action.runOn_onDisk,
    Session.runOn_look, hread]
  dsimp only
  rw [harchive]
  rfl

/-- What a build of an archive does: it makes the folders above the output, rebuilds the entries and
moves the archive of them in. -/
theorem runOn_jar (b : Build) (output : String) (hread : w.disk.read input = .ok bytes)
    (harchive : Archive.read bytes = .ok entries) : ∃ log, runOn (b.jar input output) w =
      match runOn (Session.makeFolders (Path.folder output)) w.disk with
      | (.error cause, disk) => (.error (.disk cause), ⟨disk, log⟩)
      | (.ok _, disk) =>
        match entries.mapM b.rebuilt with
        | .error fault => (.error fault, ⟨disk, log⟩)
        | .ok built =>
          match disk.moveIn output (Archive.write built) with
          | .error cause => (.error (.disk cause), ⟨disk, log⟩)
          | .ok disk => (.ok (entries.foldl b.tally {}), ⟨disk, log⟩) := by
  rw [jar, runOn_bind, runOn_openArchive hread harchive]
  dsimp only
  rw [runOn_bind, Action.runOn_onDisk]
  rcases runOn (Session.makeFolders (Path.folder output)) w.disk with ⟨cause | u, disk⟩
  · exact ⟨w.log, rfl⟩
  · obtain ⟨log, hloop⟩ := runOn_foldlM_convert b input entries [] {} ⟨disk, w.log⟩
    dsimp only
    rw [runOn_bind, hloop]
    cases entries.mapM b.rebuilt with
    | error fault => exact ⟨log, rfl⟩
    | ok built =>
      dsimp only
      rw [runOn_bind, Action.runOn_onDisk, Session.runOn_change]
      dsimp only [List.nil_append]
      cases disk.moveIn output (Archive.write built) with
      | error cause => exact ⟨log, rfl⟩
      | ok disk => exact ⟨log, rfl⟩

/-- What a build of folders makes of an added input, wherever it reads these contents there: it fails
on the disk only, and what it writes is read back. A whole build into an empty folder leaves this file
in its place. -/
structure AddsAs (b : Build) (name : String) (c out : Bytes) : Prop where
  written : ∀ input output s s' w w', w.disk.read (Path.join input name) = .ok c →
    runOn (b.apply input output s (name, .added)) w = (.ok s', w') →
    w'.disk.read (Path.join output name) = .ok out
  refused : ∀ input output s fault w w', w.disk.read (Path.join input name) = .ok c →
    runOn (b.apply input output s (name, .added)) w = (.error fault, w') →
    ∃ cause, fault = .disk cause
  made : ∀ inside tree : Folder, inside.WellFormed → b.Makes inside tree →
    name ≠ BuildState.fileName → inside.fileAt? (Path.steps name) = some c →
    tree.fileAt? (Path.steps name) = some out

theorem addsAs_of_outcome (hout : b.outcome name c = .ok out) : b.AddsAs name c out where
  written input output s s' w w' hread h := by
    rw [apply_added] at h
    obtain ⟨c', out', hread', hout', hwrite⟩ := runOn_update_eq_ok h
    rw [hread] at hread'
    cases hread'
    rw [hout] at hout'
    cases hout'
    exact Session.read_of_writeFile hwrite
  refused input output s fault w w' hread h := by
    obtain ⟨log, hrun⟩ := runOn_update b input output name .added s w
    rw [hread] at hrun
    dsimp only at hrun
    rw [hout] at hrun
    dsimp only at hrun
    rw [apply_added, hrun] at h
    split at h
    · cases h
      exact ⟨_, rfl⟩
    · cases h
  made inside tree hwf hmakes hne hc := by
    rw [((makes_iff hwf).1 hmakes).files, target_of_input hne hc hout]

/-- An entry of the output that carries on one of the input: it has the same name; a folder holds
nothing, and a file holds what a build of folders makes of an input with its contents. -/
structure Carries (b : Build) (e : ArchiveEntry) (new : String × Bytes) : Prop where
  name : new.1 = e.name
  folder : e.isFolder = true → new.2 = []
  file : e.isFolder = false →
    ∃ c, e.contents = .ok c ∧ b.outcome e.name c = .ok new.2 ∧ b.AddsAs e.name c new.2

theorem carries_of_rebuilt {new : String × Bytes} (h : b.rebuilt e = .ok new) : b.Carries e new := by
  obtain ⟨contents, hopened, h⟩ := Except.bind_eq_ok.1 h
  by_cases hfolder : e.isFolder = true
  · rw [if_pos hfolder] at h
    cases h
    exact ⟨rfl, fun _ => rfl, fun hfile => absurd hfolder (by simp [hfile])⟩
  · rw [if_neg hfolder] at h
    obtain ⟨out, hout, h⟩ := Except.bind_eq_ok.1 h
    cases h
    have hout := Except.mapError_eq_ok.1 hout
    refine ⟨rfl, fun h => absurd h hfolder, fun _ => ⟨contents, ?_, hout, addsAs_of_outcome hout⟩⟩
    have hfile : e.isFolder = false := Bool.eq_false_iff.2 hfolder
    rw [opened, hfile] at hopened
    cases hcontents : e.contents with
    | ok c =>
      rw [hcontents] at hopened
      cases hopened
      rfl
    | error cause =>
      rw [hcontents] at hopened
      cases hopened

theorem forall₂_carries (h : entries.mapM b.rebuilt = .ok built) :
    List.Forall₂ b.Carries entries built := by
  have hmap := Except.mapM_eq_ok.1 h
  rw [← List.forall₂_eq_eq_eq, List.forall₂_map_left_iff, List.forall₂_map_right_iff] at hmap
  exact hmap.imp fun e new => carries_of_rebuilt

theorem map_name_of_carries (h : List.Forall₂ b.Carries entries built) :
    built.map (·.1) = entries.map (·.name) := by
  rw [← List.forall₂_eq_eq_eq, List.forall₂_map_left_iff, List.forall₂_map_right_iff]
  exact h.flip.imp fun new e hnew => hnew.name

theorem foldl_tally (b : Build) (entries : List ArchiveEntry) (s : Summary) :
    (entries.foldl b.tally s).rewritten + (entries.foldl b.tally s).copied =
        s.rewritten + s.copied + entries.countP (!·.isFolder) ∧
      (entries.foldl b.tally s).unchanged = s.unchanged ∧
      (entries.foldl b.tally s).removed = s.removed := by
  induction entries generalizing s with
  | nil => exact ⟨rfl, rfl, rfl⟩
  | cons e entries ih =>
    obtain ⟨hfiles, hunchanged, hremoved⟩ := ih (b.tally s e)
    rw [List.foldl_cons, hfiles, hunchanged, hremoved, List.countP_cons, tally]
    split
    · rename_i hfolder
      simp [hfolder]
    · rename_i hfile
      split <;> simp [hfile] <;> omega

theorem jar_eq_ok (hread : w.disk.read input = .ok bytes)
    (harchive : Archive.read bytes = .ok entries)
    (h : runOn (b.jar input output) w = (.ok summary, w')) :
    ∃ built, entries.mapM b.rebuilt = .ok built ∧ summary = entries.foldl b.tally {} ∧
      w'.disk.read output = .ok (Archive.write built) := by
  obtain ⟨log, hrun⟩ := runOn_jar b output hread harchive
  rw [h] at hrun
  split at hrun
  · cases hrun
  · split at hrun
    · cases hrun
    · rename_i built hbuilt
      split at hrun
      · cases hrun
      · rename_i hmove
        cases hrun
        exact ⟨built, hbuilt, rfl, Disk.read_of_moveIn hmove⟩

theorem jar_eq_error (hread : w.disk.read input = .ok bytes)
    (harchive : Archive.read bytes = .ok entries)
    (h : runOn (b.jar input output) w = (.error fault, w')) :
    w'.disk = (runOn (Session.makeFolders (Path.folder output)) w.disk).2 := by
  obtain ⟨log, hrun⟩ := runOn_jar b output hread harchive
  rw [h] at hrun
  rcases hmake : runOn (Session.makeFolders (Path.folder output)) w.disk with ⟨cause | u, disk⟩
  · rw [hmake] at hrun
    cases hrun
    rfl
  · rw [hmake] at hrun
    dsimp only at hrun
    split at hrun
    · cases hrun
      rfl
    · split at hrun
      · cases hrun
        rfl
      · cases hrun

theorem exists_mapM_rebuilt : (∃ built, entries.mapM b.rebuilt = .ok built) ↔
    ∀ e ∈ entries, ∃ new, b.rebuilt e = .ok new := by
  refine ⟨fun ⟨built, hbuilt⟩ e he => ?_, fun h => ?_⟩
  · have hmem : b.rebuilt e ∈ built.map .ok := by
      rw [← Except.mapM_eq_ok.1 hbuilt]
      exact List.mem_map_of_mem he
    obtain ⟨new, -, hnew⟩ := List.mem_map.1 hmem
    exact ⟨new, hnew.symm⟩
  · obtain ⟨built, hbuilt⟩ := Except.exists_map_eq_ok h
    exact ⟨built, Except.mapM_eq_ok.2 hbuilt⟩

/-- A build succeeds exactly if each entry can be rebuilt and a file can be written at the output. -/
theorem exists_jar_eq_ok (hread : w.disk.read input = .ok bytes)
    (harchive : Archive.read bytes = .ok entries) :
    (∃ summary w', runOn (b.jar input output) w = (.ok summary, w')) ↔
      (∀ e ∈ entries, ∃ new, b.rebuilt e = .ok new) ∧
        (runOn (Session.writeFile output []) w.disk).1 = .ok () := by
  obtain ⟨log, hrun⟩ := runOn_jar b output hread harchive
  rw [hrun, Session.writeFile, runOn_bind, ← exists_mapM_rebuilt]
  rcases runOn (Session.makeFolders (Path.folder output)) w.disk with ⟨cause | u, disk⟩
  · simp
  · dsimp only
    rw [Session.runOn_change]
    cases entries.mapM b.rebuilt with
    | error fault => simp
    | ok built =>
      -- whether a file can be moved into place does not depend on its contents
      have hmove := Disk.moveIn_map_unit disk output (Archive.write built) []
      dsimp only
      cases hnew : disk.moveIn output (Archive.write built) with
      | error cause =>
        rw [hnew] at hmove
        cases hempty : disk.moveIn output [] with
        | error cause' => simp
        | ok disk' =>
          rw [hempty] at hmove
          cases hmove
      | ok disk' =>
        rw [hnew] at hmove
        cases hempty : disk.moveIn output [] with
        | error cause' =>
          rw [hempty] at hmove
          cases hmove
        | ok disk'' => simp

/-- A build of an archive succeeds exactly if each entry can be rebuilt and the output be written. Then
it carries each entry on, in order, and the archive that it writes is read as these entries. If it
fails, every file stays as it is; if there was an output, the whole disk does, and if there was none,
none comes to be, unless its path steps back out of a folder that is missing. -/
theorem jar_conserves (b : Build) (output : String) (hread : w.disk.read input = .ok bytes)
    (harchive : Archive.read bytes = .ok entries) :
    ((∃ summary w', runOn (b.jar input output) w = (.ok summary, w')) ↔
      (∀ e ∈ entries, ∃ new, b.rebuilt e = .ok new) ∧
        (runOn (Session.writeFile output []) w.disk).1 = .ok ()) ∧
    (∀ summary w', runOn (b.jar input output) w = (.ok summary, w') →
      ∃ built, List.Forall₂ b.Carries entries built ∧
        w'.disk.read output = .ok (Archive.write built) ∧
        (Archive.Fits built →
          Archive.read (Archive.write built) = .ok (built.map fun new => ⟨new.1, .ok new.2⟩)) ∧
        summary.rewritten + summary.copied = entries.countP (!·.isFolder) ∧
        summary.unchanged = 0 ∧ summary.removed = 0) ∧
    ∀ fault w', runOn (b.jar input output) w = (.error fault, w') →
      w.disk.Grows w'.disk ∧ (w.disk.has output = true → w'.disk = w.disk) ∧
      (w.disk.Steady output → w.disk.has output = false → w'.disk.has output = false) := by
  refine ⟨exists_jar_eq_ok hread harchive, fun summary w' h => ?_, fun fault w' h => ?_⟩
  · obtain ⟨built, hbuilt, rfl, hwritten⟩ := jar_eq_ok hread harchive h
    have hcarries := forall₂_carries hbuilt
    have hdistinct : (built.map (·.1)).Nodup := by
      rw [map_name_of_carries hcarries]
      exact Archive.nodup_of_read harchive
    obtain ⟨hfiles, hunchanged, hremoved⟩ := foldl_tally b entries {}
    refine ⟨built, hcarries, hwritten, Archive.read_write hdistinct, ?_, hunchanged, hremoved⟩
    rw [hfiles]
    exact Nat.zero_add _
  · rw [jar_eq_error hread harchive h]
    exact ⟨Session.grows_makeFolders _ _, Session.makeFolders_of_has, Session.has_makeFolders⟩

section Examples

/-- A disk with an archive. -/
def shelved (entries : List (String × Bytes)) : World :=
  { disk := { root := .file "in.jar" (Archive.write entries) .empty } }

/-- A folder and a text in it. -/
def sound : List (String × Bytes) :=
  [("d/", []), ("d/a.txt", Bytes.ofText "1")]

/-- A class that cannot be read. -/
def broken : List (String × Bytes) :=
  [("a.class", Bytes.ofText "x")]

theorem read_sound :
    Archive.read (Archive.write sound) = .ok (sound.map fun e => ⟨e.1, .ok e.2⟩) :=
  Archive.read_write (by decide) ⟨by decide, by decide, by decide +kernel⟩

theorem read_broken :
    Archive.read (Archive.write broken) = .ok (broken.map fun e => ⟨e.1, .ok e.2⟩) :=
  Archive.read_write (by decide) ⟨by decide, by decide, by decide +kernel⟩

theorem jar_conserves_shelved :
    (∃ built w', runOn (({} : Build).jar "in.jar" "out.jar") (shelved sound) =
        (.ok { copied := 1 }, w') ∧
      List.Forall₂ ({} : Build).Carries (sound.map fun e => ⟨e.1, .ok e.2⟩) built ∧
      w'.disk.read "out.jar" = .ok (Archive.write built)) ∧
    ∃ w', runOn (({} : Build).jar "in.jar" "out.jar") (shelved broken) =
        (.error (.badClass "a.class" (.classFile .endOfFile)), w') ∧
      w'.disk.has "out.jar" = false := by
  constructor
  · have hrun := runOn_eq_of_fst (x := ({} : Build).jar "in.jar" "out.jar") (s := shelved sound)
      (r := .ok { copied := 1 }) (by decide +kernel)
    obtain ⟨built, hcarries, hwritten, -⟩ := (jar_conserves {} "out.jar" rfl read_sound).2.1 _ _ hrun
    exact ⟨built, _, hrun, hcarries, hwritten⟩
  · have hrun := runOn_eq_of_fst (x := ({} : Build).jar "in.jar" "out.jar") (s := shelved broken)
      (r := .error (.badClass "a.class" (.classFile .endOfFile))) (by decide +kernel)
    have hfail := (jar_conserves {} "out.jar" rfl read_broken).2.2 _ _ hrun
    exact ⟨_, hrun, hfail.2.2 (Disk.steady_of_onward (by decide)) (by decide)⟩

/-- An output that steps back out of a missing folder comes to be, as the folder that it steps back
into, though the build fails. -/
theorem not_absent_stepping_back :
    (shelved broken).disk.read "in.jar" = .ok (Archive.write broken) ∧
    Archive.read (Archive.write broken) = .ok [⟨"a.class", .ok (Bytes.ofText "x")⟩] ∧
    (runOn (({} : Build).jar "in.jar" "x/../x") (shelved broken)).1 =
      .error (.badClass "a.class" (.classFile .endOfFile)) ∧
    (shelved broken).disk.has "x/../x" = false ∧
    (runOn (({} : Build).jar "in.jar" "x/../x") (shelved broken)).2.disk.has "x/../x" = true :=
  ⟨rfl, read_broken, by decide +kernel, by decide +kernel, by decide +kernel⟩

end Examples

end Build

end StubLinker
