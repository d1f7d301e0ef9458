import StubLinker.Proofs.Disk.Session

namespace StubLinker

namespace Disk

variable {d d' d'' : Disk} {path : String} {lo l k : Location} {c : Option Bytes}

/-- No file comes, goes or changes. -/
structure KeepsFiles (d d' : Disk) : Prop where
  current : d'.current = d.current
  wellFormed : d.root.WellFormed → d'.root.WellFormed
  fileAt? : d.root.WellFormed → ∀ k, d'.root.fileAt? k = d.root.fileAt? k

/-- Files come, go and change only below a location. -/
structure Within (lo : Location) (d d' : Disk) : Prop where
  current : d'.current = d.current
  wellFormed : d.root.WellFormed → d'.root.WellFormed
  outside : d.root.WellFormed → ∀ k, ¬lo <+: k → d'.root.fileAt? k = d.root.fileAt? k
  self : d.root.WellFormed → ∀ c, d.root.fileAt? lo = some c → d'.root.fileAt? lo = some c

theorem KeepsFiles.refl (d : Disk) : d.KeepsFiles d :=
  ⟨rfl, fun hd => hd, fun _ _ => rfl⟩

theorem KeepsFiles.trans (h : d.KeepsFiles d') (h' : d'.KeepsFiles d'') : d.KeepsFiles d'' where
  current := h'.current.trans h.current
  wellFormed := fun hd => h'.wellFormed (h.wellFormed hd)
  fileAt? := fun hd k => (h'.fileAt? (h.wellFormed hd) k).trans (h.fileAt? hd k)

theorem KeepsFiles.within (h : d.KeepsFiles d') (lo : Location) : d.Within lo d' where
  current := h.current
  wellFormed := h.wellFormed
  outside := fun hd k _ => h.fileAt? hd k
  self := fun hd _ hc => (h.fileAt? hd lo).trans hc

theorem Within.refl (lo : Location) (d : Disk) : d.Within lo d :=
  (KeepsFiles.refl d).within lo

theorem Within.trans (h : d.Within lo d') (h' : d'.Within lo d'') : d.Within lo d'' where
  current := h'.current.trans h.current
  wellFormed := fun hd => h'.wellFormed (h.wellFormed hd)
  outside := fun hd k hk => (h'.outside (h.wellFormed hd) k hk).trans (h.outside hd k hk)
  self := fun hd c hc => h'.self (h.wellFormed hd) c (h.self hd c hc)

theorem Grows.keepsFiles (h : d.Grows d') : d.KeepsFiles d' :=
  ⟨h.current, h.wellFormed, fun _ k => h.fileAt? k⟩

theorem Stores.within (h : d.Stores l c d') (hl : lo <+: l) (hne : l ≠ lo) : d.Within lo d' where
  current := h.current
  wellFormed := h.wellFormed
  outside := by
    intro _ k hk
    rw [h.fileAt?, if_neg]
    rintro rfl
    exact hk hl
  self := by
    intro _ c hc
    rw [h.fileAt?, if_neg (Ne.symm hne), hc]

theorem fileAt?_of_folder (h : d.root.kind? l = some .folder) : d.root.fileAt? l = none := by
  rw [Folder.fileAt?, h]

theorem within_put_folder (inside : Folder) (hl : d.root.kind? l = some .folder)
    (hi : inside.WellFormed) : d.Within l (d.put l (.folder inside)) where
  current := rfl
  wellFormed := fun hd => wellFormed_put_folder hd hl hi
  outside := by
    intro _ k hk
    exact Folder.fileAt?_of_kind? (by rw [kind?_put_folder inside hl, if_neg hk])
  self := by
    intro _ c hc
    rw [fileAt?_of_folder hl] at hc
    cases hc

theorem keepsFiles_removeFolder (h : d.removeFolder path = .ok d') : d.KeepsFiles d' := by
  obtain ⟨hat, hne, rfl⟩ := removeFolder_eq_ok h
  generalize Path.locate d.current path = l at hat hne ⊢
  have hl : d.root.kind? l = some .folder := by
    rw [Folder.kind?, hat]
    rfl
  refine ⟨rfl, fun hd => ?_, fun hd k => ?_⟩
  · exact Folder.wellFormed_remove hd (hd.isPlain_of_kind? (by rw [hl]; rfl))
  · have hremove : (d.remove l).root.kind? k = if l <+: k then none else d.root.kind? k :=
      Folder.kind?_remove hd hne k
    by_cases hk : l <+: k
    · have hnone : d.root.fileAt? k = none := by
        obtain ⟨rest, rfl⟩ := hk
        rw [Folder.fileAt?_of_kind? (Folder.kind?_append_of_folder hat rest)]
        cases rest <;> rfl
      rw [hnone, Folder.fileAt?, hremove, if_pos hk]
    · exact Folder.fileAt?_of_kind? (by rw [hremove, if_neg hk])

end Disk

namespace Session

variable {d d' : Disk} {path : String} {lo : Location}

theorem relates_keepsFiles_look {α : Type} (f : Disk → Except DiskError α) :
    Relates Disk.KeepsFiles (look f) := by
  intro d
  rw [runOn_look]
  exact .refl d

theorem relates_makeFolders (path : String) : Relates Disk.KeepsFiles (makeFolders path) :=
  fun d => (grows_makeFolders path d).keepsFiles

theorem relates_pruneEach (path : String) (f : Folder) :
    Relates Disk.KeepsFiles (pruneEach path f) := by
  have htrans : ∀ d d' d'' : Disk, d.KeepsFiles d' → d'.KeepsFiles d'' → d.KeepsFiles d'' :=
    fun _ _ _ => .trans
  induction f generalizing path with
  | empty => exact relates_pure .refl true
  | file name contents rest ih => exact (ih path).bind htrans fun _ => relates_pure .refl _
  | folder name inside rest ihi ih =>
    apply (ih path).bind htrans
    intro others
    apply (relates_keepsFiles_look _).bind htrans
    intro _
    apply (ihi (Path.join path name)).bind htrans
    intro bare
    split
    · have hremove : Relates Disk.KeepsFiles
          (change (·.removeFolder (Path.join path name))) := by
        intro d
        rw [runOn_change]
        cases hm : d.removeFolder (Path.join path name) with
        | error e => exact .refl d
        | ok made => exact Disk.keepsFiles_removeFolder hm
      exact hremove.bind htrans fun _ => relates_pure .refl _
    · exact relates_pure .refl _

theorem relates_prune (path : String) : Relates Disk.KeepsFiles (prune path) := by
  have htrans : ∀ d d' d'' : Disk, d.KeepsFiles d' → d'.KeepsFiles d'' → d.KeepsFiles d'' :=
    fun _ _ _ => .trans
  apply (relates_keepsFiles_look _).bind htrans
  intro inside
  exact (relates_pruneEach path inside).bind htrans fun _ => relates_pure .refl ()

theorem within_removeTree (path : String) (d : Disk) :
    d.Within (Path.locate d.current path) (runOn (removeTree path) d).2 := by
  rw [removeTree, runOn_bind, runOn_look]
  cases hresolve : d.resolve path with
  | error e => exact .refl _ d
  | ok l =>
    dsimp only
    obtain ⟨rfl, -⟩ := Disk.resolve_eq_ok hresolve
    rw [runOn_bind, runOn_look]
    cases hinside : d.getFolder path with
    | error e => exact .refl _ d
    | ok inside =>
      dsimp only
      have hl : d.root.kind? (Path.locate d.current path) = some .folder := by
        rw [Folder.kind?, (Disk.get_eq_ok (Disk.getFolder_eq_ok.1 hinside)).2]
        rfl
      have hput := Disk.within_put_folder .empty hl trivial
      rw [runOn_bind, runOn_modify]
      dsimp only
      rw [runOn_bind, runOn_get]
      dsimp only
      cases hm : (d.put (Path.locate d.current path) (.folder .empty)).removeFolder path with
      | ok made => exact hput.trans ((Disk.keepsFiles_removeFolder hm).within _)
      | error e => cases e <;> exact hput

theorem within_writeFile (contents : Bytes) (hl : lo <+: Path.locate d.current path)
    (hne : Path.locate d.current path ≠ lo) :
    d.Within lo (runOn (writeFile path contents) d).2 := by
  rcases hrun : runOn (writeFile path contents) d with ⟨e | u, d1⟩
  · exact (writeFile_eq_error hrun).keepsFiles.within lo
  · exact (writeFile_eq_ok hrun).within hl hne

end Session

end StubLinker
