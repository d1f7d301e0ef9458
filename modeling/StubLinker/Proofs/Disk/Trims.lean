import StubLinker.Proofs.Disk.Within
import StubLinker.Proofs.Disk.Writing

namespace StubLinker

namespace Disk

variable {d d' d'' : Disk} {path : String} {lo l : Location} {inside f : Folder} {name : String}

/-- A folder lies at a location. `f` lists what is in it, and what is in each folder below it, in
some order. -/
structure Lists (d : Disk) (l : Location) (f : Folder) : Prop where
  distinct : f.Distinct
  kind? : ∀ k, d.root.kind? (l ++ k) = f.kind? k

/-- Folders that hold no file went away below a location. All else is as before. -/
structure Trims (lo : Location) (d d' : Disk) : Prop where
  current : d'.current = d.current
  wellFormed : d'.root.WellFormed
  fileAt? : ∀ k, d'.root.fileAt? k = d.root.fileAt? k
  kind? : ∀ k, d'.root.kind? k = d.root.kind? k ∨
    (∃ m, m ≠ [] ∧ k = lo ++ m) ∧ d.root.kind? k = some .folder ∧ d'.root.kind? k = none ∧
      ∀ m, d.root.fileAt? (k ++ m) = none

theorem Trims.refl (lo : Location) (hd : d.root.WellFormed) : d.Trims lo d :=
  ⟨rfl, hd, fun _ => rfl, fun _ => .inl rfl⟩

theorem Trims.trans (h : d.Trims lo d') (h' : d'.Trims lo d'') : d.Trims lo d'' := by
  refine ⟨h'.current.trans h.current, h'.wellFormed,
    fun k => (h'.fileAt? k).trans (h.fileAt? k), fun k => ?_⟩
  rcases h'.kind? k with hk' | ⟨hbelow, hfolder, hnone, hfree⟩
  · rcases h.kind? k with hk | ⟨hbelow, hfolder, hnone, hfree⟩
    · exact .inl (hk'.trans hk)
    · exact .inr ⟨hbelow, hfolder, hk'.trans hnone, hfree⟩
  · rcases h.kind? k with hk | ⟨-, -, hgone, -⟩
    · exact .inr ⟨hbelow, hk ▸ hfolder, hnone, fun m => (h.fileAt? _).symm.trans (hfree m)⟩
    · rw [hgone] at hfolder
      cases hfolder

theorem Trims.above {pre : Location} (h : d.Trims (lo ++ pre) d') : d.Trims lo d' := by
  refine ⟨h.current, h.wellFormed, h.fileAt?, fun k => ?_⟩
  rcases h.kind? k with hk | ⟨⟨m, hm, rfl⟩, hgone⟩
  · exact .inl hk
  · exact .inr ⟨⟨pre ++ m, by simp [hm], List.append_assoc ..⟩, hgone⟩

theorem trims_removeFolder (hd : d.root.WellFormed) (h : d.removeFolder path = .ok d')
    (hlo : Path.locate d.current path = lo ++ [name]) : d.Trims lo d' := by
  have hfiles := keepsFiles_removeFolder h
  obtain ⟨hat, hne, rfl⟩ := removeFolder_eq_ok h
  rw [hlo] at hat hne hfiles ⊢
  refine ⟨rfl, hfiles.wellFormed hd, hfiles.fileAt? hd, fun k => ?_⟩
  have hremove : (d.remove (lo ++ [name])).root.kind? k =
      if lo ++ [name] <+: k then none else d.root.kind? k := Folder.kind?_remove hd hne k
  rw [hremove]
  split
  · rename_i hk
    obtain ⟨m, rfl⟩ := hk
    have hkind (m : Location) : d.root.kind? (lo ++ [name] ++ m) = Folder.empty.kind? m :=
      Folder.kind?_append_of_folder hat m
    cases m with
    | nil =>
      right
      refine ⟨⟨[name], by simp⟩, ?_, rfl, fun m => ?_⟩
      · rw [hkind, Folder.kind?_nil]
      · rw [List.append_nil, Folder.fileAt?, hkind]
        cases m <;> rfl
    | cons n m =>
      left
      rw [hkind]
      exact (kind?_empty_cons n m).symm
  · exact .inl rfl

theorem checkPath_ne_folderNotEmpty (path : String) :
    checkPath path ≠ .error .folderNotEmpty := by
  intro h
  obtain h | ⟨h, -⟩ | h := checkPath_eq_error h <;> cases h

theorem step_ne_folderNotEmpty (d : Disk) (l : Location) (s : String) :
    d.step l s ≠ .error .folderNotEmpty := by
  rw [step_eq]
  cases d.root.kind? l with
  | none => simp
  | some kind =>
    cases kind with
    | file contents => simp
    | folder =>
      dsimp only
      split
      · simp
      split
      · simp
      split
      · simp
      split <;> simp

theorem foldlM_step_ne_folderNotEmpty (d : Disk) (names : List String) (l : Location) :
    names.foldlM d.step l ≠ .error .folderNotEmpty := by
  intro h
  obtain ⟨-, s, -, m, -, -, hs⟩ := Except.foldlM_eq_error h
  exact step_ne_folderNotEmpty d m s hs

theorem getFolder_ne_folderNotEmpty (d : Disk) (path : String) :
    d.getFolder path ≠ .error .folderNotEmpty := by
  intro h
  rcases Except.bind_eq_error.1 h with h | ⟨e, -, h⟩
  · rcases Except.bind_eq_error.1 h with h | ⟨l, -, h⟩
    · rcases Except.bind_eq_error.1 h with h | ⟨u, -, h⟩
      · exact checkPath_ne_folderNotEmpty path h
      · exact foldlM_step_ne_folderNotEmpty d _ _ h
    · split at h <;> cases h
  · cases e <;> cases h

/-- The spot of a path that ends with a plain name has that name, and looking it up is never refused
because of what is in a folder. -/
theorem spot_join_cases (d : Disk) (path : String) (hn : Folder.IsPlain name) :
    (∃ e, d.spot (Path.join path name) = .error e ∧ e ≠ .folderNotEmpty) ∨
      ∃ s, d.spot (Path.join path name) = .ok s ∧ s.name = name := by
  obtain ⟨front, hsteps, -, -⟩ := Path.steps_join path (Path.isPlain_name hn)
  rw [Path.steps_name hn] at hsteps
  have hspot := spot_eq d hsteps hn.1 (fun s hs => absurd hs List.not_mem_nil)
  cases hs : d.spot (Path.join path name) with
  | ok s =>
    exact .inr ⟨s, rfl, spot_name hsteps hn.1 (fun s hs => absurd hs List.not_mem_nil) hs⟩
  | error e =>
    left
    refine ⟨e, rfl, ?_⟩
    rintro rfl
    rw [hspot] at hs
    rcases Except.bind_eq_error.1 hs with hs | ⟨u, -, hs⟩
    · exact checkPath_ne_folderNotEmpty _ hs
    rcases Except.bind_eq_error.1 hs with hs | ⟨l, -, hs⟩
    · exact foldlM_step_ne_folderNotEmpty d _ _ hs
    rcases Except.bind_eq_error.1 hs with hs | ⟨l', -, hs⟩
    · exact step_ne_folderNotEmpty d l "" hs
    · cases hs

theorem removeFolder_ne_folderNotEmpty (hn : Folder.IsPlain name)
    (hat : d.root.at? (Path.locate d.current (Path.join path name)) = some (.folder .empty)) :
    d.removeFolder (Path.join path name) ≠ .error .folderNotEmpty := by
  intro h
  rcases spot_join_cases d path hn with ⟨e, hs, hne⟩ | ⟨s, hs, rfl⟩
  · rw [removeFolder, hs] at h
    cases h
    exact hne rfl
  obtain ⟨hempty, hdot, hup, -⟩ := hn
  have hlocation := spot_location hs (by simp [Spot.isSpecial, hempty, hdot, hup])
  rw [removeFolder, hs, Except.ok_bind, if_neg hdot, if_neg hup, if_neg hempty] at h
  rcases Except.bind_eq_error.1 h with h | ⟨u, -, h⟩
  · unfold checkName at h
    split at h <;> cases h
  · rw [hlocation, hat] at h
    cases h

theorem lists_of_at? (hd : d.root.WellFormed) (hat : d.root.at? l = some (.folder inside)) :
    d.Lists l inside :=
  ⟨(hd.at? hat).distinct, Folder.kind?_append_of_folder hat⟩

theorem Lists.folder (h : d.Lists l f) : d.root.kind? l = some .folder := by
  have hself := h.kind? []
  rwa [List.append_nil, Folder.kind?_nil] at hself

theorem Lists.eq_empty_iff (hd : d.root.WellFormed) (h : d.Lists l f) :
    f = .empty ↔ d.root.at? l = some (.folder .empty) := by
  constructor
  · rintro rfl
    exact Folder.at?_eq_of_kind? hd (g := .empty) trivial h.kind?
  · intro hat
    have hname (n : String) : n ∉ f.names := by
      intro hmem
      obtain ⟨e, he⟩ := Option.isSome_iff_exists.1 (Folder.find?_isSome.2 hmem)
      have hn : f.kind? [n] = none := by
        rw [← h.kind?, Folder.kind?_append_of_folder hat]
        rfl
      rw [Folder.kind?_cons, he] at hn
      cases e <;> cases hn
    cases f with
    | empty => rfl
    | file name contents rest => exact absurd List.mem_cons_self (hname name)
    | folder name inside rest => exact absurd List.mem_cons_self (hname name)

end Disk

namespace Session

variable {d d' : Disk} {path : String} {lo l cur : Location} {inside f : Folder} {name : String}

theorem trims_pruneEach (hf : f.Distinct) (hlo : ∃ pre, Path.locate cur path = lo ++ pre) :
    Relates (fun d d' => d.root.WellFormed → d.current = cur → d.Trims lo d') (pruneEach path f) := by
  have hrefl : ∀ d : Disk, d.root.WellFormed → d.current = cur → d.Trims lo d :=
    fun d hd _ => .refl lo hd
  have htrans : ∀ d d' d'' : Disk, (d.root.WellFormed → d.current = cur → d.Trims lo d') →
      (d'.root.WellFormed → d'.current = cur → d'.Trims lo d'') →
      d.root.WellFormed → d.current = cur → d.Trims lo d'' := by
    intro d d' d'' h h' hd hcur
    have hfirst := h hd hcur
    exact hfirst.trans (h' hfirst.wellFormed (hfirst.current.trans hcur))
  induction f generalizing path with
  | empty => exact relates_pure hrefl true
  | file name contents rest ih =>
    exact (ih hf.2.2 hlo).bind htrans fun _ => relates_pure hrefl false
  | folder name inside rest ihi ih =>
    obtain ⟨hname, -, hinside, hrest⟩ := hf
    obtain ⟨pre, hpre⟩ := hlo
    have hbelow : Path.locate cur (Path.join path name) = lo ++ pre ++ [name] := by
      rw [Path.locate_join _ (Path.isPlain_name hname), Path.steps_name hname, hpre]
    apply (ih hrest ⟨pre, hpre⟩).bind htrans
    intro others
    apply Relates.bind htrans
    · intro d
      rw [runOn_look]
      exact hrefl d
    intro g
    apply (ihi hinside ⟨pre ++ [name], by rw [hbelow, List.append_assoc]⟩).bind htrans
    intro bare
    split
    · apply Relates.bind htrans _ fun _ => relates_pure hrefl others
      intro d
      rw [runOn_change]
      cases hm : d.removeFolder (Path.join path name) with
      | error e => exact hrefl d
      | ok made =>
        intro hd hcur
        exact (Disk.trims_removeFolder hd hm (by rw [hcur, hbelow])).above
    · exact relates_pure hrefl false

/-- What is pruned below a name is found there: a folder that is left bare has no entries. -/
theorem at?_of_bare (hne : ∀ n ∈ f.names, name ≠ n) {d1 d2 : Disk} (h1 : Prunes l f d d1)
    (h2 : Prunes (l ++ [name]) inside d1 d2) (hbare : inside.pruned = .empty)
    (hview : ∀ k, d.root.kind? (l ++ name :: k) = (Folder.folder name inside f).kind? (name :: k)) :
    d2.root.at? (l ++ [name]) = some (.folder .empty) := by
  apply Folder.at?_eq_of_kind? h2.wellFormed (g := .empty) trivial
  intro k
  rw [← hbare, ← List.append_cons]
  exact (h1.below hne h2 hview).1 k

theorem pruneEach_ne_folderNotEmpty (hd : d.root.WellFormed) (hf : f.Distinct)
    (hview : ∀ n ∈ f.names, ∀ k,
      d.root.kind? (Path.locate d.current path ++ n :: k) = f.kind? (n :: k)) :
    runOn (pruneEach path f) d ≠ (.error .folderNotEmpty, d') := by
  intro h
  induction f generalizing path d d' with
  | empty => cases h
  | file name contents rest ih =>
    obtain ⟨hname, hne, hrest⟩ := hf
    rcases runOn_bind_eq_error.1 h with h | ⟨others, d1, -, h⟩
    · exact ih hd hrest (view_rest (e := .file contents) hne hview) h
    · cases h
  | folder name inside rest ihi ih =>
    obtain ⟨hname, hne, hinside, hrest⟩ := hf
    have hviewRest := view_rest (e := .folder inside) hne hview
    rcases pruneEach_folder_eq_error h with h | ⟨others, d1, hrun, h⟩
    · exact ih hd hrest hviewRest h
    obtain ⟨h1, -⟩ := pruneEach_eq_ok hd hrest hviewRest hrun
    have hlocate := h1.locate_join hname
    have hviewBelow := h1.view_join hne hname (hview name List.mem_cons_self)
    rcases h with h | h | ⟨d2, hbelow, h⟩
    · exact Disk.getFolder_ne_folderNotEmpty d1 _ h
    · exact ihi h1.wellFormed hinside hviewBelow h
    · -- a folder is removed only when its inside is left bare
      obtain ⟨h2, hbare⟩ := pruneEach_eq_ok h1.wellFormed hinside hviewBelow hbelow
      rw [hlocate] at h2
      have hat := at?_of_bare hne h1 h2 (of_decide_eq_true hbare.symm)
        (hview name List.mem_cons_self)
      rw [← hlocate, ← h2.current] at hat
      exact Disk.removeFolder_ne_folderNotEmpty hname hat h

end Session

end StubLinker
