import StubLinker.Proofs.Build.Record

namespace StubLinker

namespace Disk

variable {d d' : Disk} {path : String} {l : Location} {contents : Bytes}

theorem spot_of_moveIn (h : d.moveIn path contents = .ok d') :
    ∃ front name l, checkPath path = .ok () ∧ Path.steps path = front ++ [name] ∧
      front.foldlM d.step (d.start path) = .ok l ∧ d.root.kind? l = some .folder ∧
      Folder.IsPlain name ∧ name.utf8ByteSize ≤ 255 := by
  obtain ⟨s, hspot, hplace, hsize, hslash, -⟩ := moveIn_spot h
  obtain ⟨front, blank, hsteps, hblank, hplain, hfront, hfolder⟩ := spot_eq_ok hspot hplace
  obtain ⟨u, hcheck, -⟩ := Except.bind_eq_ok.1 hspot
  rw [spot_eq d hsteps hplain.1 hblank, hcheck, Except.ok_bind, hfront, Except.ok_bind,
    step_stay hfolder, Except.ok_bind] at hspot
  have hend : blank = [] := by
    rw [← Except.ok.inj hspot] at hslash
    simpa using hslash
  exact ⟨front, s.name, s.folder, hcheck, hend ▸ hsteps, hfront, hfolder, hplain, hsize⟩

theorem read_of_moveIn (h : d.moveIn path contents = .ok d') : d'.read path = .ok contents := by
  obtain ⟨front, name, l, hcheck, hsteps, hfront, hfolder, hplain, hsize⟩ := spot_of_moveIn h
  have hstores := moveIn_eq_ok h
  have hlocate : Path.locate d.current path = l ++ [name] := by
    rw [Path.locate, hsteps, List.foldl_append, List.foldl_cons, List.foldl_nil,
      Path.walk_plain hplain, (foldlM_step_eq_ok hfront).1]
    rfl
  have hfile : d'.root.fileAt? (l ++ [name]) = some contents := by
    rw [hstores.fileAt?, if_pos hlocate.symm]
  have hstep : d'.step l name = .ok (l ++ [name]) := by
    rw [step_plain (hstores.folder l hfolder) hplain, if_neg (by omega),
      if_pos (by rw [Folder.fileAt?_eq_some.1 hfile]; rfl)]
  refine read_of_resolve ?_ hfile
  rw [resolve, hcheck, Except.ok_bind, hsteps, start_of_current hstores.current, List.foldlM_append,
    hstores.toKeeps.foldlM_step hfront hfolder, Except.ok_bind, List.foldlM_cons, hstep]
  rfl

theorem moveIn_map_unit (d : Disk) (path : String) (c c' : Bytes) :
    (d.moveIn path c).map (fun _ => ()) = (d.moveIn path c').map fun _ => () := by
  unfold moveIn
  cases d.spot path with
  | error e => rfl
  | ok s =>
    rw [Except.ok_bind, Except.ok_bind]
    by_cases hspecial : s.isSpecial = true
    · rw [if_pos hspecial, if_pos hspecial]
      rfl
    rw [if_neg hspecial, if_neg hspecial]
    cases checkName s.name with
    | error e => rfl
    | ok u =>
      by_cases hslash : s.slash = true
      · simp only [hslash]
        rfl
      simp only [hslash]
      cases d.root.at? s.location with
      | none => rfl
      | some e => cases e <;> rfl

end Disk

namespace Session

variable {d d' : Disk} {path : String} {contents : Bytes}

theorem read_of_writeFile (h : runOn (writeFile path contents) d = (.ok (), d')) :
    d'.read path = .ok contents := by
  obtain ⟨u, d1, -, h⟩ := runOn_bind_eq_ok.1 h
  rw [runOn_change] at h
  cases hm : d1.moveIn path contents with
  | error e =>
    rw [hm] at h
    cases h
  | ok made =>
    rw [hm] at h
    cases h
    exact Disk.read_of_moveIn hm

theorem runOn_writeFile_fst (path : String) (c c' : Bytes) (d : Disk) :
    (runOn (writeFile path c) d).1 = (runOn (writeFile path c') d).1 := by
  rw [writeFile, writeFile, runOn_bind, runOn_bind]
  rcases runOn (makeFolders (Path.folder path)) d with ⟨e | u, d1⟩
  · rfl
  · have hmove := Disk.moveIn_map_unit d1 path c c'
    dsimp only
    rw [runOn_change, runOn_change]
    revert hmove
    cases d1.moveIn path c <;> cases d1.moveIn path c' <;> intro hmove <;> cases hmove <;> rfl

end Session

namespace BuildState

variable {s t : BuildState} {output : String} {w w' : World}

theorem toJson_injective (h : s.toJson = t.toJson) : s = t := by
  have hs := ofJson_toJson s
  rw [h, ofJson_toJson] at hs
  exact (Except.ok.inj hs).symm

theorem ofText_injective {a b : String} (h : Bytes.ofText a = Bytes.ofText b) : a = b := by
  have ha := Bytes.toText?_ofText a
  rw [h, Bytes.toText?_ofText] at ha
  exact (Option.some.inj ha).symm

theorem read_of_save (h : runOn (s.save output) w = (.ok (), w')) :
    w'.disk.read (Path.join output fileName) = .ok (Bytes.ofText s.toJson) := by
  obtain ⟨disk, hwrite, rfl⟩ := Action.onDisk_eq_ok h
  exact Session.read_of_writeFile hwrite

theorem runOn_save_fst (s t : BuildState) (output : String) (w : World) :
    (runOn (s.save output) w).1 = (runOn (t.save output) w).1 := by
  have hwrite := Session.runOn_writeFile_fst (Path.join output fileName) (Bytes.ofText s.toJson)
    (Bytes.ofText t.toJson) w.disk
  rw [save, save, Action.runOn_onDisk, Action.runOn_onDisk]
  revert hwrite
  rcases runOn (Session.writeFile (Path.join output fileName) (Bytes.ofText s.toJson)) w.disk with
    ⟨e | u, disk⟩ <;>
  rcases runOn (Session.writeFile (Path.join output fileName) (Bytes.ofText t.toJson)) w.disk with
    ⟨e' | u', disk'⟩ <;> intro hwrite <;> cases hwrite <;> rfl

/-- A record is saved wherever any other is, as a text of its own, and is loaded as it was. -/
theorem save_faithful (s : BuildState) (output : String) (w : World) :
    (∀ w', runOn (s.save output) w = (.ok (), w') →
      w'.disk.read (Path.join output fileName) = .ok (Bytes.ofText s.toJson) ∧
      runOn (load output) w' = (.ok s, w')) ∧
    ∀ t : BuildState, (runOn (t.save output) w).1 = (runOn (s.save output) w).1 ∧
      (t.toJson = s.toJson ↔ t = s) ∧
      (Bytes.ofText t.toJson = Bytes.ofText s.toJson ↔ t = s) := by
  refine ⟨fun w' h => ?_, fun t => ⟨runOn_save_fst t s output w, ?_, ?_⟩⟩
  · have hread := read_of_save h
    exact ⟨hread, load_of_read hread⟩
  · exact ⟨toJson_injective, fun h => h ▸ rfl⟩
  · exact ⟨fun h => toJson_injective (ofText_injective h), fun h => h ▸ rfl⟩

/-- A record with texts that need escapes, an empty one and one beyond 16 bits. -/
def intricate : BuildState where
  settings := "\"\\\n\u0000\u007f"
  files := .ofList [("", "/"), ("a\tb\\\"", "\u0001"), ("😀", ""), ("\u2028", "{}")]

theorem save_faithful_intricate : ∃ w', runOn (intricate.save "out") {} = (.ok (), w') ∧
    runOn (load "out") w' = (.ok intricate, w') := by
  have hsave := runOn_eq_of_fst (r := .ok ())
    (show (runOn (intricate.save "out") {}).1 = .ok () by decide +kernel)
  exact ⟨_, hsave, ((save_faithful intricate "out" {}).1 _ hsave).2⟩

end BuildState

end StubLinker
