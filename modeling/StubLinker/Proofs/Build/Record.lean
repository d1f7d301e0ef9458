import StubLinker.Proofs.Build.Action

namespace StubLinker

namespace BuildState

variable {s : BuildState} {files : List (String × Bytes)} {path digest output : String}
  {w w' : World}

theorem get?_record (s : BuildState) (name : String) (contents : Bytes) (path : String) :
    (s.record name contents).files.get? path =
      if path = name then some (sha256 contents) else s.files.get? path :=
  SortedMap.get?_insert s.files name (sha256 contents) path

theorem get?_foldl_record (hone : ∀ p c c', (p, c) ∈ files → (p, c') ∈ files → c = c') :
    (files.foldl (fun s f => s.record f.1 f.2) s).files.get? path = some digest ↔
      (∃ c, (path, c) ∈ files ∧ sha256 c = digest) ∨
        (∀ c, (path, c) ∉ files) ∧ s.files.get? path = some digest := by
  induction files generalizing s with
  | nil => simp
  | cons f files ih =>
    obtain ⟨name, contents⟩ := f
    have hrest := ih (s := s.record name contents) fun p c c' h h' =>
      hone p c c' (List.mem_cons_of_mem _ h) (List.mem_cons_of_mem _ h')
    rw [List.foldl_cons, hrest, get?_record]
    by_cases hpath : path = name
    · subst hpath
      have hsame : ∀ c, (path, c) ∈ (path, contents) :: files → c = contents := fun c hc =>
        hone path c contents hc List.mem_cons_self
      rw [if_pos rfl]
      constructor
      · rintro (⟨c, hc, hdigest⟩ | ⟨-, hdigest⟩)
        · exact .inl ⟨c, List.mem_cons_of_mem _ hc, hdigest⟩
        · exact .inl ⟨contents, List.mem_cons_self, Option.some.inj hdigest⟩
      · rintro (⟨c, hc, hdigest⟩ | ⟨hnone, -⟩)
        · rw [hsame c hc] at hdigest
          -- a later entry of this path has the same contents
          by_cases hmem : ∃ c, (path, c) ∈ files
          · obtain ⟨c', hc'⟩ := hmem
            refine .inl ⟨c', hc', ?_⟩
            rw [hsame c' (List.mem_cons_of_mem _ hc'), hdigest]
          · exact .inr ⟨fun c' hc' => hmem ⟨c', hc'⟩, by rw [hdigest]⟩
        · exact absurd List.mem_cons_self (hnone contents)
    · rw [if_neg hpath]
      simp [hpath]

theorem runOn_load (output : String) (w : World) :
    ∃ log, runOn (load output) w =
      match w.disk.read (Path.join output fileName) with
      | .error .notFound => (.ok {}, w)
      | .error e => (.error (.disk e), w)
      | .ok bytes =>
        match Bytes.toText? bytes with
        | none => (.error .stateNotText, w)
        | some text =>
          match ofJson text with
          | .ok s => (.ok s, w)
          | .error _ => (.ok {}, ⟨w.disk, log⟩) := by
  rw [load, runOn_bind, Action.runOn_look]
  dsimp only
  cases w.disk.read (Path.join output fileName) with
  | error e => cases e <;> exact ⟨w.log, rfl⟩
  | ok bytes =>
    dsimp only
    cases Bytes.toText? bytes with
    | none => exact ⟨w.log, rfl⟩
    | some text =>
      dsimp only
      cases ofJson text with
      | ok s => exact ⟨w.log, rfl⟩
      | error e => exact ⟨_, rfl⟩

theorem isPlain_fileName : Path.IsPlain fileName := by
  decide

theorem steps_fileName : Path.steps fileName = [fileName] := by
  decide

/-- A file whose text is the JSON of a record. -/
def RecordedAt (s : BuildState) (d : Disk) (l : Location) : Prop :=
  ∃ bytes text, d.root.fileAt? l = some bytes ∧ Bytes.toText? bytes = some text ∧
    ofJson text = .ok s

theorem load_of_ofJson {bytes : Bytes} {text : String}
    (hread : w.disk.read (Path.join output fileName) = .ok bytes)
    (htext : Bytes.toText? bytes = some text) (hjson : ofJson text = .ok s) :
    runOn (load output) w = (.ok s, w) := by
  obtain ⟨log, hrun⟩ := runOn_load output w
  rw [hrun, hread]
  simp only [htext, hjson]

theorem load_eq_ok {w' : World} (h : runOn (load output) w = (.ok s, w')) :
    w'.disk = w.disk ∧ (s = {} ∨ ∃ bytes text, w.disk.read (Path.join output fileName) = .ok bytes ∧
      Bytes.toText? bytes = some text ∧ ofJson text = .ok s) := by
  obtain ⟨log, hrun⟩ := runOn_load output w
  rw [hrun] at h
  split at h
  · cases h
    exact ⟨rfl, .inl rfl⟩
  · cases h
  · rename_i bytes hread
    split at h
    · cases h
    · rename_i text htext
      split at h
      · rename_i hjson
        cases h
        exact ⟨rfl, .inr ⟨bytes, text, hread, htext, hjson⟩⟩
      · cases h
        exact ⟨rfl, .inl rfl⟩

theorem load_of_read (h : w.disk.read (Path.join output fileName) = .ok (Bytes.ofText s.toJson)) :
    runOn (load output) w = (.ok s, w) :=
  load_of_ofJson h (Bytes.toText?_ofText _) (ofJson_toJson s)

theorem RecordedAt.folder {d : Disk} {lo : Location} (h : s.RecordedAt d (lo ++ [fileName])) :
    d.root.kind? lo = some .folder := by
  obtain ⟨bytes, text, hfile, -⟩ := h
  exact Folder.kind?_of_append (by rw [Folder.fileAt?_eq_some.1 hfile]; rfl) (List.cons_ne_nil _ _)

theorem RecordedAt.eq {s' : BuildState} {d d' : Disk} {l : Location} (h : s.RecordedAt d l)
    (h' : s'.RecordedAt d' l) (hfile : d'.root.fileAt? l = d.root.fileAt? l) : s' = s := by
  obtain ⟨bytes, text, hbytes, htext, hs⟩ := h
  obtain ⟨bytes', text', hbytes', htext', hs'⟩ := h'
  rw [hfile, hbytes] at hbytes'
  cases hbytes'
  rw [htext] at htext'
  cases htext'
  rw [hs] at hs'
  cases hs'
  rfl

/-- The record of an output that is found is loaded, unless its path is one that no entry can
have. -/
theorem load_of_recordedAt {lo : Location} (hlo : w.disk.resolve output = .ok lo)
    (hs : s.RecordedAt w.disk (lo ++ [fileName])) :
    runOn (load output) w =
      match Disk.checkPath (Path.join output fileName) with
      | .error e => (.error (.disk e), w)
      | .ok _ => (.ok s, w) := by
  obtain ⟨log, hrun⟩ := runOn_load output w
  have hfolder := hs.folder
  obtain ⟨bytes, text, hfile, htext, hjson⟩ := hs
  have hread := Disk.read_join (p := fileName) hlo hfolder (by decide) (steps_fileName ▸ hfile)
  cases hcheck : Disk.checkPath (Path.join output fileName) with
  | error e =>
    rw [hcheck] at hread
    rw [hrun, hread]
    cases e with
    | notFound =>
      exact absurd (Disk.checkPath_eq_notFound hcheck) (Path.join_ne_empty _ isPlain_fileName)
    | _ => rfl
  | ok u =>
    rw [hcheck] at hread
    rw [hrun, hread]
    simp only [Except.ok_bind, htext, hjson]

end BuildState

namespace Build

variable {b : Build} {inside : Folder} {path digest : String} {contents : Bytes} {w w' : World}
  {output : String} {s : BuildState} {lo : Location}

theorem mem_inputsOf (hwf : inside.WellFormed) :
    (path, contents) ∈ inputsOf inside ↔
      path ≠ BuildState.fileName ∧ inside.fileAt? (Path.steps path) = some contents := by
  unfold inputsOf
  rw [List.mem_filter, List.mem_map, bne_iff_ne, and_comm]
  refine and_congr_right fun _ => ?_
  constructor
  · rintro ⟨⟨l, c⟩, hmem, heq⟩
    obtain ⟨rfl, rfl⟩ := Prod.mk.inj heq
    have hfile := (Folder.mem_files hwf.distinct).1 hmem
    have hplain : ∀ n ∈ l, Folder.IsPlain n :=
      hwf.isPlain_of_kind? (by rw [Folder.fileAt?_eq_some.1 hfile]; rfl)
    have hne : l ≠ [] := by
      rintro rfl
      rw [Folder.fileAt?_nil] at hfile
      cases hfile
    rw [Path.steps_intercalate hne fun n hn => (hplain n hn).2.2.2]
    exact hfile
  · intro hfile
    refine ⟨(Path.steps path, contents), (Folder.mem_files hwf.distinct).2 hfile, ?_⟩
    rw [Path.intercalate_steps]

theorem settings_record (b : Build) (files : List (String × Bytes)) :
    (b.record files).settings = b.settingsDigest := by
  have hsettings (s : BuildState) :
      (files.foldl (fun s f => s.record f.1 f.2) s).settings = s.settings := by
    induction files generalizing s with
    | nil => rfl
    | cons f files ih => exact ih (s.record f.1 f.2)
  exact hsettings _

theorem get?_record (hwf : inside.WellFormed) :
    (b.record (inputsOf inside)).files.get? path = some digest ↔
      path ≠ BuildState.fileName ∧
        ∃ contents, inside.fileAt? (Path.steps path) = some contents ∧ sha256 contents = digest := by
  rw [record, BuildState.get?_foldl_record]
  · simp only [mem_inputsOf hwf]
    constructor
    · rintro (⟨c, ⟨hne, hc⟩, hdigest⟩ | ⟨-, hnone⟩)
      · exact ⟨hne, c, hc, hdigest⟩
      · cases hnone
    · rintro ⟨hne, c, hc, hdigest⟩
      exact .inl ⟨c, ⟨hne, hc⟩, hdigest⟩
  · intro p c c' h h'
    rw [mem_inputsOf hwf] at h h'
    exact Option.some.inj (h.2.symm.trans h'.2)

theorem isPlain_of_fileAt? (hwf : inside.WellFormed)
    (h : inside.fileAt? (Path.steps path) = some contents) : Path.IsPlain path :=
  hwf.isPlain_of_kind? (by rw [Folder.fileAt?_eq_some.1 h]; rfl)

theorem isPlain_of_get?_record (hwf : inside.WellFormed)
    (h : (b.record (inputsOf inside)).files.get? path = some digest) :
    Path.IsPlain path ∧ path ≠ BuildState.fileName := by
  obtain ⟨hne, contents, hcontents, -⟩ := (get?_record hwf).1 h
  exact ⟨isPlain_of_fileAt? hwf hcontents, hne⟩

theorem change_of_input (hwf : inside.WellFormed) (h : (path, contents) ∈ inputsOf inside) :
    (∃ change, (path, change) ∈ s.changes (b.record (inputsOf inside)) ∧
      (change = .added ∨ change = .changed)) ∨
    (path, .notChanged) ∈ s.changes (b.record (inputsOf inside)) ∧
      s.files.get? path = some (sha256 contents) := by
  obtain ⟨hne, hc⟩ := (mem_inputsOf hwf).1 h
  have hnew := (get?_record (b := b) hwf).2 ⟨hne, contents, hc, rfl⟩
  cases hold : s.files.get? path with
  | none =>
    have hx := Change.of?_eq_added.2 ⟨hold, _, hnew⟩
    exact .inl ⟨.added, BuildState.mem_changes.2 hx, .inl rfl⟩
  | some digest =>
    by_cases hsame : digest = sha256 contents
    · subst hsame
      have hx := Change.of?_eq_notChanged.2 ⟨_, hold, hnew⟩
      exact .inr ⟨BuildState.mem_changes.2 hx, rfl⟩
    · have hx := Change.of?_eq_changed.2 ⟨_, _, hold, hnew, hsame⟩
      exact .inl ⟨.changed, BuildState.mem_changes.2 hx, .inr rfl⟩

theorem exists_get?_record (hwf : inside.WellFormed) :
    (∃ digest, (b.record (inputsOf inside)).files.get? path = some digest) ↔
      ∃ contents, (path, contents) ∈ inputsOf inside := by
  constructor
  · rintro ⟨digest, hnew⟩
    obtain ⟨hne, contents, hcontents, -⟩ := (get?_record hwf).1 hnew
    exact ⟨contents, (mem_inputsOf hwf).2 ⟨hne, hcontents⟩⟩
  · rintro ⟨contents, hmem⟩
    obtain ⟨hne, hcontents⟩ := (mem_inputsOf hwf).1 hmem
    exact ⟨_, (get?_record hwf).2 ⟨hne, contents, hcontents, rfl⟩⟩

theorem input_of_change (hwf : inside.WellFormed) {change : Change}
    (hx : (path, change) ∈ s.changes (b.record (inputsOf inside)))
    (hchange : change = .added ∨ change = .changed) :
    ∃ contents, (path, contents) ∈ inputsOf inside := by
  have hof := BuildState.mem_changes.1 hx
  rw [← exists_get?_record (b := b) hwf]
  rcases hchange with rfl | rfl
  · exact (Change.of?_eq_added.1 hof).2
  · obtain ⟨-, digest, -, hnew, -⟩ := Change.of?_eq_changed.1 hof
    exact ⟨digest, hnew⟩

theorem removed_iff (hwf : inside.WellFormed) :
    (path, .removed) ∈ s.changes (b.record (inputsOf inside)) ↔
      (∃ digest, s.files.get? path = some digest) ∧
        ¬∃ contents, (path, contents) ∈ inputsOf inside := by
  rw [BuildState.mem_changes, Change.of?_eq_removed, ← exists_get?_record (b := b) hwf,
    ← Option.isSome_iff_exists (x := (b.record (inputsOf inside)).files.get? path),
    Option.not_isSome_iff_eq_none]

end Build

end StubLinker
