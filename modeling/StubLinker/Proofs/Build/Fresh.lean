import StubLinker.Proofs.Build.UpToDate
import StubLinker.Proofs.Disk.Between
import StubLinker.Proofs.Disk.Emptied

namespace StubLinker

namespace Build

variable {b : Build} {inside out : Folder} {d : Disk} {w : World} {l : Location} {p : String}
  {c o : Bytes} {s : Summary} {changes : List (String × Change)}

def bench (inside : Folder) : Disk :=
  { root := .folder "i" inside (.folder "o" .empty .empty) }

def filled (inside out : Folder) : Folder :=
  .folder "i" inside (.folder "o" out .empty)

def Makes (b : Build) (inside out : Folder) : Prop :=
  ∃ summary w, runOn (b.directory "i" "o" false) ⟨bench inside, []⟩ = (.ok summary, w) ∧
    w.disk.root.at? ["o"] = some (.folder out)

theorem wellFormed_bench (hwf : inside.WellFormed) : (bench inside).root.WellFormed := by
  have hlt : ∀ n ∈ ["o"], "i" < n := by
    rw [List.forall_mem_singleton]
    decide
  exact ⟨by decide, hlt, hwf, by decide, fun n hn => absurd hn List.not_mem_nil, trivial, trivial⟩

theorem apart_bench : Apart ["i"] ["o"] :=
  ⟨by decide, by decide⟩

theorem resolve_input (hd : d.current = []) (hl : d.root.kind? ["i"] = some .folder) :
    d.resolve "i" = .ok ["i"] :=
  Disk.resolve_name hd (by decide) rfl (by decide) hl

theorem resolve_output (hd : d.current = []) (hl : d.root.kind? ["o"] = some .folder) :
    d.resolve "o" = .ok ["o"] :=
  Disk.resolve_name hd (by decide) rfl (by decide) hl

theorem kind?_filled_input (inside out : Folder) (k : Location) :
    (filled inside out).kind? ("i" :: k) = inside.kind? k := by
  rw [Folder.kind?_cons]
  rfl

theorem kind?_filled_output (inside out : Folder) (k : Location) :
    (filled inside out).kind? ("o" :: k) = out.kind? k := by
  rw [Folder.kind?_cons]
  rfl

theorem between_bench (inside out : Folder) :
    (bench inside).Between (bench inside).root (filled inside out) := by
  refine ⟨rfl, fun k => .inr rfl, fun k => ?_⟩
  have hbench : (bench inside).root = filled inside .empty := rfl
  rw [hbench]
  cases k with
  | nil => exact .inr (by rw [Folder.kind?_nil, Folder.kind?_nil])
  | cons n k =>
    by_cases hi : n = "i"
    · subst hi
      exact .inr (by rw [kind?_filled_input, kind?_filled_input])
    by_cases ho : n = "o"
    · subst ho
      rw [kind?_filled_output, kind?_filled_output]
      cases k with
      | nil => exact .inr (by rw [Folder.kind?_nil, Folder.kind?_nil])
      | cons m k => exact .inl rfl
    · exact .inl (Folder.kind?_eq_none (by simp [filled, Folder.names, hi, ho]) k)

theorem makeFolders_bench (inside : Folder) :
    runOn (Session.makeFolders "o") { root := .folder "i" inside .empty } =
      (.ok (), bench inside) := by
  have hput : Disk.put { root := .folder "i" inside .empty } ["o"] (.folder .empty) =
      bench inside := by
    have hlt : ¬"o" < "i" := by decide
    have hne : ¬"o" = "i" := by decide
    simp only [Disk.put, Folder.put, Folder.place, if_neg hlt, if_neg hne]
    rfl
  rw [← hput]
  rfl

theorem prepare_bench (b : Build) (inside : Folder) :
    ∃ log, runOn (b.prepare "o" false) ⟨bench inside, []⟩ =
      (.ok {}, ⟨{ root := .folder "i" inside .empty }, log⟩) := by
  have hnone : ({} : BuildState).settings ≠ b.settingsDigest :=
    fun h => settingsDigest_ne_empty b h.symm
  have hhas : (bench inside).has "o" = true := rfl
  have hremove : runOn (Session.removeTree "o") (bench inside) =
      (.ok (), { root := .folder "i" inside .empty }) := rfl
  obtain ⟨log, hgo⟩ := runOn_goOn b "o" false {} ⟨bench inside, []⟩
  refine ⟨log, ?_⟩
  rw [prepare_eq, runOn_bind]
  dsimp only [found]
  rw [if_neg Bool.false_ne_true, runOn_pure]
  dsimp only
  rw [hgo, if_neg hnone, if_pos hhas, hremove]

theorem apply_between (h : w.disk.Between (bench inside).root (filled inside out))
    (hc : inside.fileAt? (Path.steps p) = some c) (ho : b.outcome p c = .ok o)
    (hout : out.fileAt? (Path.steps p) = some o) (hfits : Path.Fits p) :
    ∃ s' w', runOn (b.apply "i" "o" s (p, .added)) w = (.ok s', w') ∧
      w'.disk.Between (bench inside).root (filled inside out) := by
  have hi : Disk.Spells "i" p := Disk.spells_of_fits (by decide) (by decide) (by decide) hfits
  have hs : Disk.Spells "o" p := Disk.spells_of_fits (by decide) (by decide) (by decide) hfits
  have hfolder : w.disk.root.kind? ["i"] = some .folder := h.folder (kind?_filled_input inside _ [])
  have hresolve := resolve_input h.current hfolder
  have hlo : w.disk.root.kind? ["o"] = some .folder := h.folder (kind?_filled_output inside .empty [])
  have hfile : w.disk.root.fileAt? (["i"] ++ Path.steps p) = some c := by
    refine h.file ?_
    rw [← hc]
    exact Folder.fileAt?_of_kind? (kind?_filled_input inside _ _)
  have hread : w.disk.read (Path.join "i" p) = .ok c := by
    rw [Disk.read_join hresolve hfolder hfits.names hfile, hi.check]
    rfl
  have hupper : (filled inside out).fileAt? (["o"] ++ Path.steps p) = some o := by
    rw [← hout]
    exact Folder.fileAt?_of_kind? (kind?_filled_output inside out _)
  obtain ⟨d', hwrite, hd'⟩ :=
    Session.writeFile_between h (resolve_output h.current hlo) hlo hs hupper
  obtain ⟨s', log, hrun⟩ := runOn_update_of_writeFile .added s hread ho hwrite
  exact ⟨s', _, hrun, hd'⟩

theorem foldlM_apply_between (h : w.disk.Between (bench inside).root (filled inside out))
    (hx : ∀ x ∈ changes, x.2 = .added ∧ Path.Fits x.1 ∧ ∃ c o,
      inside.fileAt? (Path.steps x.1) = some c ∧ b.outcome x.1 c = .ok o ∧
        out.fileAt? (Path.steps x.1) = some o) :
    ∃ s' w', runOn (changes.foldlM (b.apply "i" "o") s) w = (.ok s', w') ∧
      w'.disk.Between (bench inside).root (filled inside out) := by
  induction changes generalizing s w with
  | nil => exact ⟨s, w, rfl, h⟩
  | cons x changes ih =>
    obtain ⟨⟨hadded, hfits, c, o, hc, ho, hout⟩, hrest⟩ := List.forall_mem_cons.1 hx
    obtain ⟨p, change⟩ := x
    obtain rfl : change = .added := hadded
    obtain ⟨s1, w1, happly, h1⟩ := apply_between (s := s) h hc ho hout hfits
    obtain ⟨s2, w2, hloop, h2⟩ := ih (s := s1) h1 hrest
    refine ⟨s2, w2, ?_, h2⟩
    rw [List.foldlM_cons]
    exact runOn_bind_eq_ok.2 ⟨s1, w1, happly, hloop⟩

theorem mem_changes_empty (hwf : inside.WellFormed) {x : String × Change}
    (hx : x ∈ BuildState.changes {} (b.record (inputsOf inside))) :
    x.2 = .added ∧ ∃ c, (x.1, c) ∈ inputsOf inside := by
  have hadded : x.2 = .added := BuildState.eq_added_of_mem_changes rfl hx
  exact ⟨hadded, input_of_change hwf hx (.inl hadded)⟩

theorem UpToDate.exists_fits (hwf : inside.WellFormed) (h : b.UpToDate inside out)
    (hl : out.fileAt? l = some o) : ∃ p, Path.steps p = l ∧ Path.Fits p := by
  rw [h.files] at hl
  by_cases hrecord : l = [BuildState.fileName]
  · exact ⟨BuildState.fileName, hrecord ▸ BuildState.steps_fileName, fits_fileName⟩
  · cases hc : inside.fileAt? l with
    | none =>
      rw [target_eq_none hrecord hc] at hl
      cases hl
    | some c =>
      obtain ⟨p, rfl⟩ := exists_path hwf hc
      refine ⟨p, rfl, h.fits p c ((mem_inputsOf hwf).2 ⟨?_, hc⟩)⟩
      rintro rfl
      exact hrecord BuildState.steps_fileName

/-- On the way to an output that is up to date, each folder in it leads to one of its files. -/
theorem UpToDate.spellsBelow (hwf : inside.WellFormed) (h : b.UpToDate inside out)
    (hd : d.Between (bench inside).root (filled inside out)) : d.SpellsBelow "o" ["o"] := by
  intro k hk hfolder
  have hupper : out.kind? k = some .folder := by
    rcases hd.upper (["o"] ++ k) with hnone | hsame
    · rw [hnone] at hfolder
      cases hfolder
    · rw [← hfolder, hsame]
      exact (kind?_filled_output inside out k).symm
  rcases (Folder.kind?_eq_folder h.wellFormed.distinct h.trimmed).1 hupper with
    rfl | ⟨m, o, -, hfile⟩
  · exact absurd rfl hk
  · obtain ⟨p, hsteps, hfits⟩ := h.exists_fits hwf hfile
    have hsp : Disk.Spells "o" p := Disk.spells_of_fits (by decide) (by decide) (by decide) hfits
    exact hsp.of_prefix ⟨m, hsteps.symm⟩ hk

/-- With nothing recorded every change adds an input, and the output tells what it becomes. -/
theorem UpToDate.adds (hwf : inside.WellFormed) (h : b.UpToDate inside out) {x : String × Change}
    (hx : x ∈ BuildState.changes {} (b.record (inputsOf inside))) :
    x.2 = .added ∧ Path.Fits x.1 ∧ ∃ c o, inside.fileAt? (Path.steps x.1) = some c ∧
      b.outcome x.1 c = .ok o ∧ out.fileAt? (Path.steps x.1) = some o := by
  obtain ⟨hadded, c, hc⟩ := mem_changes_empty hwf hx
  obtain ⟨hne, hfile⟩ := (mem_inputsOf hwf).1 hc
  obtain ⟨o, ho⟩ := h.outcomes x.1 c hc
  exact ⟨hadded, h.fits x.1 c hc, c, o, hfile, ho,
    (h.files _).trans (target_of_input hne hfile ho)⟩

theorem UpToDate.records (h : b.UpToDate inside out) :
    (filled inside out).fileAt? (["o"] ++ Path.steps BuildState.fileName) =
      some (Bytes.ofText (b.record (inputsOf inside)).toJson) := by
  rw [← target_fileName, ← h.files, BuildState.steps_fileName]
  exact Folder.fileAt?_of_kind? (kind?_filled_output inside out _)

/-- A full build in an empty folder succeeds if there is an output that is up to date. -/
theorem UpToDate.succeeds (hwf : inside.WellFormed) (h : b.UpToDate inside out) :
    ∃ summary w, runOn (b.directory "i" "o" false) ⟨bench inside, []⟩ = (.ok summary, w) := by
  obtain ⟨log, hprepare⟩ := prepare_bench b inside
  have hcheck : (runOn (checkOutput "i" "o") ⟨bench inside, []⟩).1 = .ok () := rfl
  have hchanges := fun x hx => h.adds hwf (x := x) hx
  obtain ⟨s, w1, hloop, h1⟩ :=
    foldlM_apply_between (s := {}) (w := ⟨bench inside, log⟩) (between_bench inside out) hchanges
  have hlo1 : w1.disk.root.kind? ["o"] = some .folder :=
    h1.folder (kind?_filled_output inside .empty [])
  obtain ⟨d2, hsave, h2⟩ := Session.writeFile_between h1 (resolve_output h1.current hlo1) hlo1
    (Disk.spells_of_fits (by decide) (by decide) (by decide) fits_fileName) h.records
  have hlo2 : d2.root.kind? ["o"] = some .folder :=
    h2.folder (kind?_filled_output inside .empty [])
  have ha := foldlM_apply_eq_ok (w := ⟨bench inside, log⟩) (wellFormed_bench hwf)
    (resolve_output rfl rfl) rfl rfl (fun x hx => (hchanges x hx).2.1.isPlain)
    (BuildState.pairwise_changes _ _) hloop
  have hd2 := (Session.writeFile_eq_ok hsave).wellFormed ha.wellFormed
  obtain ⟨d3, hprune⟩ := Session.prune_of_resolve hd2 (resolve_output h2.current hlo2) hlo2
    (resolve_output h2.current (Disk.folder_put .empty hlo2)) (h.spellsBelow hwf h2)
  refine ⟨s, ⟨d3, w1.log⟩, ?_⟩
  rw [runOn_directory hcheck hprepare]
  exact runOn_carryOut (makeFolders_bench inside) rfl hloop hsave hprune

/-- What a full build makes in an empty folder is the output that is up to date. -/
theorem makes_iff (hwf : inside.WellFormed) : b.Makes inside out ↔ b.UpToDate inside out := by
  -- whatever is made is up to date, and there is only one output that is
  have hmade {summary : Summary} {w : World}
      (hrun : runOn (b.directory "i" "o" false) ⟨bench inside, []⟩ = (.ok summary, w)) :
      ∃ out, w.disk.root.at? ["o"] = some (.folder out) ∧ b.UpToDate inside out := by
    have hnone (l : Location) : (bench inside).root.fileAt? (["o"] ++ l) = none := by
      rw [fileAt?_below (g := .empty) rfl]
      cases l <;> rfl
    have hlo : Path.locate (bench inside).current "o" = ["o"] := rfl
    have hli : Path.locate (bench inside).current "i" = ["i"] := rfl
    obtain ⟨inside', out, hd, hinside, hout, hsame, hup⟩ :=
      upToDate_iff (wellFormed_bench hwf) hlo hli apart_bench (.inl hnone) hrun
    have hwf' : inside'.WellFormed := hd.at? hinside
    have hsame' (k : Location) : inside.fileAt? k = inside'.fileAt? k := by
      rw [hsame]
      exact (fileAt?_below (g := inside) rfl k).symm
    exact ⟨out, hout, (hup.2 (.inl rfl)).congr hwf' hwf hsame'⟩
  constructor
  · rintro ⟨summary, w, hrun, hout⟩
    obtain ⟨out', hout', hup⟩ := hmade hrun
    rw [hout] at hout'
    cases hout'
    exact hup
  · intro h
    obtain ⟨summary, w, hrun⟩ := h.succeeds hwf
    obtain ⟨out', hout', hup⟩ := hmade hrun
    rw [h.unique hup] at hout'
    exact ⟨summary, w, hrun, hout'⟩

end Build

end StubLinker
