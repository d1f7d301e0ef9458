import StubLinker.Proofs.Disk.Spot

namespace StubLinker

namespace Disk

variable {d d' d'' : Disk} {path base p : String} {l l' lo k : Location} {c : Option Bytes}
  {contents : Bytes}

/-- Folders may be where nothing was. All else is as before. -/
structure Grows (d d' : Disk) : Prop where
  current : d'.current = d.current
  wellFormed : d.root.WellFormed → d'.root.WellFormed
  kind? : ∀ l, d'.root.kind? l = d.root.kind? l ∨
    d.root.kind? l = none ∧ d'.root.kind? l = some .folder

/-- The file at a location is as given, other files are as before, and no folder went away. -/
structure Stores (l : Location) (c : Option Bytes) (d d' : Disk) : Prop extends Keeps d d' where
  wellFormed : d.root.WellFormed → d'.root.WellFormed
  fileAt? : ∀ k, d'.root.fileAt? k = if k = l then c else d.root.fileAt? k

theorem Grows.refl (d : Disk) : d.Grows d :=
  ⟨rfl, fun h => h, fun _ => .inl rfl⟩

theorem Grows.trans (h : d.Grows d') (h' : d'.Grows d'') : d.Grows d'' := by
  refine ⟨h'.current.trans h.current, fun hd => h'.wellFormed (h.wellFormed hd), fun l => ?_⟩
  rcases h.kind? l with hl | ⟨hl, hl'⟩
  · rcases h'.kind? l with hk | ⟨hk, hk'⟩
    · exact .inl (hk.trans hl)
    · exact .inr ⟨hl.symm.trans hk, hk'⟩
  · rcases h'.kind? l with hk | ⟨hk, hk'⟩
    · exact .inr ⟨hl, hk.trans hl'⟩
    · exact .inr ⟨hl, hk'⟩

theorem Grows.keeps (h : d.Grows d') : d.Keeps d' := by
  refine ⟨h.current, fun l hl => ?_⟩
  rcases h.kind? l with hk | ⟨hk, -⟩
  · exact hk.trans hl
  · rw [hl] at hk
    cases hk

theorem Grows.fileAt? (h : d.Grows d') (l : Location) : d'.root.fileAt? l = d.root.fileAt? l := by
  rcases h.kind? l with hk | ⟨hk, hk'⟩
  · exact Folder.fileAt?_of_kind? hk
  · rw [Folder.fileAt?, Folder.fileAt?, hk, hk']

theorem Grows.stores (h : d.Grows d') (h' : d'.Stores l c d'') : d.Stores l c d'' := by
  refine ⟨h.keeps.trans h'.toKeeps, fun hd => h'.wellFormed (h.wellFormed hd), fun k => ?_⟩
  rw [h'.fileAt?, h.fileAt?]

@[simp] theorem current_put (d : Disk) (l : Location) (e : Entry) :
    (d.put l e).current = d.current :=
  rfl

theorem kind?_below (h : d.root.kind? l ≠ some .folder) (hk : l <+: k) (hne : l ≠ k) :
    d.root.kind? k = none := by
  obtain ⟨rest, rfl⟩ := hk
  refine Option.not_isSome_iff_eq_none.1 fun hsome => h ?_
  exact Folder.kind?_of_append hsome fun hnil => hne (by simp [hnil])

theorem isPlain_of_mem_concat {n : String} (hd : d.root.WellFormed)
    (hl : d.root.kind? l = some .folder) (hn : Folder.IsPlain n) :
    ∀ m ∈ l ++ [n], Folder.IsPlain m := by
  intro m hm
  rcases List.mem_append.1 hm with hm | hm
  · exact hd.isPlain_of_kind? (by rw [hl]; rfl) m hm
  · rw [List.mem_singleton.1 hm]
    exact hn

theorem wellFormed_put {e : Entry} {n : String} (hd : d.root.WellFormed) (he : e.WellFormed)
    (hl : d.root.kind? l = some .folder) (hn : Folder.IsPlain n) :
    (d.put (l ++ [n]) e).root.WellFormed :=
  Folder.wellFormed_put hd he (isPlain_of_mem_concat hd hl hn)

theorem kind?_put {e : Entry} {n : String} (hl : d.root.kind? l = some .folder) (k : Location) :
    (d.put (l ++ [n]) e).root.kind? k =
      if l ++ [n] <+: k then e.kind? (k.drop (l ++ [n]).length) else d.root.kind? k :=
  Folder.kind?_put (by rw [List.dropLast_concat]; exact hl) (by simp) k

theorem kind?_put_folder (inside : Folder) (hl : d.root.kind? l = some .folder) (k : Location) :
    (d.put l (.folder inside)).root.kind? k =
      if l <+: k then inside.kind? (k.drop l.length) else d.root.kind? k := by
  rcases List.eq_nil_or_concat l with rfl | ⟨front, n, rfl⟩
  · simp [put, Folder.put]
  · rw [List.concat_eq_append] at hl ⊢
    exact kind?_put (Folder.kind?_of_append (by rw [hl]; rfl) (by simp)) k

theorem wellFormed_put_folder {inside : Folder} (hd : d.root.WellFormed)
    (hl : d.root.kind? l = some .folder) (hi : inside.WellFormed) :
    (d.put l (.folder inside)).root.WellFormed :=
  Folder.wellFormed_put hd hi (hd.isPlain_of_kind? (by rw [hl]; rfl))

/-- An entry without entries that takes the place of no folder is all that changes. -/
theorem kind?_put_bare {e : Entry} {n : String} (hl : d.root.kind? l = some .folder)
    (hn : d.root.kind? (l ++ [n]) ≠ some .folder) (he : ∀ m k, e.kind? (m :: k) = none)
    (k : Location) :
    (d.put (l ++ [n]) e).root.kind? k = if k = l ++ [n] then some e.kind else d.root.kind? k := by
  have hself : e.kind? [] = some e.kind := by
    cases e with
    | file contents => rfl
    | folder inside => exact Folder.kind?_nil inside
  rw [kind?_put hl]
  by_cases hk : k = l ++ [n]
  · rw [if_pos hk, hk, if_pos (List.prefix_refl _), List.drop_length, hself]
  rw [if_neg hk]
  split
  · rename_i hpre
    rw [kind?_below hn hpre (Ne.symm hk)]
    obtain ⟨rest, rfl⟩ := hpre
    rw [List.drop_left]
    cases rest with
    | nil => simp at hk
    | cons m rest => exact he m rest
  · rfl

theorem kind?_file_cons (m : String) (k : Location) : (Entry.file contents).kind? (m :: k) = none :=
  rfl

theorem kind?_empty_cons (m : String) (k : Location) :
    (Entry.folder .empty).kind? (m :: k) = none :=
  rfl

theorem grows_put {n : String} (hl : d.root.kind? l = some .folder) (hn : Folder.IsPlain n)
    (hnone : d.root.kind? (l ++ [n]) = none) : d.Grows (d.put (l ++ [n]) (.folder .empty)) := by
  refine ⟨rfl, fun hd => wellFormed_put hd trivial hl hn, fun k => ?_⟩
  rw [kind?_put_bare hl (by rw [hnone]; simp) kind?_empty_cons]
  split
  · rename_i hk
    exact .inr ⟨hk ▸ hnone, rfl⟩
  · exact .inl rfl

theorem stores_put {n : String} (hl : d.root.kind? l = some .folder) (hn : Folder.IsPlain n)
    (hfile : d.root.kind? (l ++ [n]) ≠ some .folder) :
    d.Stores (l ++ [n]) (some contents) (d.put (l ++ [n]) (.file contents)) := by
  have hkind := kind?_put_bare (e := .file contents) hl hfile kind?_file_cons
  refine ⟨⟨rfl, fun k hk => ?_⟩, fun hd => wellFormed_put hd trivial hl hn, fun k => ?_⟩
  · have hne : k ≠ l ++ [n] := fun h => hfile (h ▸ hk)
    rw [hkind, if_neg hne]
    exact hk
  · split
    · rename_i h
      rw [h, Folder.fileAt?_eq_some, hkind, if_pos rfl]
      rfl
    · rename_i h
      exact Folder.fileAt?_of_kind? (by rw [hkind, if_neg h])

theorem change_at_spot {fault : DiskError} {change : Spot → Except DiskError Disk}
    (h : (d.spot path >>= fun s =>
      if s.isSpecial then .error fault else checkName s.name >>= fun _ => change s) = .ok d') :
    ∃ s, d.spot path = .ok s ∧ s.isSpecial = false ∧ s.name.utf8ByteSize ≤ 255 ∧
      change s = .ok d' := by
  obtain ⟨s, hs, h⟩ := Except.bind_eq_ok.1 h
  by_cases hspecial : s.isSpecial = true
  · rw [if_pos hspecial] at h
    cases h
  rw [if_neg hspecial] at h
  obtain ⟨u, hsize, h⟩ := Except.bind_eq_ok.1 h
  exact ⟨s, hs, Bool.eq_false_iff.2 hspecial, checkName_eq_ok.1 hsize, h⟩

theorem makeFolder_spot (h : d.makeFolder path = .ok d') :
    ∃ s, d.spot path = .ok s ∧ s.isSpecial = false ∧ s.name.utf8ByteSize ≤ 255 ∧
      d.root.kind? s.location = none ∧ d' = d.put s.location (.folder .empty) := by
  obtain ⟨s, hs, hplace, hsize, h⟩ := change_at_spot h
  by_cases hsome : (d.root.at? s.location).isSome = true
  · rw [if_pos hsome] at h
    cases h
  rw [if_neg hsome] at h
  cases h
  refine ⟨s, hs, hplace, hsize, ?_, rfl⟩
  rw [Folder.kind?, Option.map_eq_none_iff]
  exact Option.not_isSome_iff_eq_none.1 hsome

theorem makeFolder_eq_ok (h : d.makeFolder path = .ok d') :
    d.Grows d' ∧ ∃ l, d'.resolve path = .ok l ∧ d'.root.kind? l = some .folder := by
  obtain ⟨s, hs, hplace, hsize, hnone, rfl⟩ := makeFolder_spot h
  obtain ⟨front, blank, hpath, hblank, hplain, hfront, hfolder⟩ := spot_eq_ok hs hplace
  have hgrows := grows_put hfolder hplain hnone
  have hmade : (d.put (s.folder ++ [s.name]) (.folder .empty)).root.kind? (s.folder ++ [s.name]) =
      some .folder := by
    rw [kind?_put hfolder, if_pos (List.prefix_refl _), List.drop_length]
    rfl
  obtain ⟨u, hcheck, -⟩ := Except.bind_eq_ok.1 hs
  have hlast := hgrows.keeps.foldlM_step hfront hfolder
  exact ⟨hgrows, s.folder ++ [s.name],
    resolve_eq_spot hcheck hpath hblank hlast (hgrows.keeps.folder _ hfolder) hplain hsize hmade,
    hmade⟩

theorem makeFolder_of_resolve (hr : d.resolve path = .ok l) :
    ∃ e, d.makeFolder path = .error e ∧ e ≠ .notFound := by
  obtain ⟨u, hcheck, hfold⟩ := Except.bind_eq_ok.1 hr
  rcases exists_last_step (Path.steps path) with hblank | ⟨front, name, blank, hs, hn, hb⟩
  · rw [makeFolder, spot_eq_of_blank d hblank, hcheck]
    exact ⟨.alreadyExists, rfl, by decide⟩
  · rw [hs, List.foldlM_append] at hfold
    obtain ⟨m, hfront, hfold⟩ := Except.bind_eq_ok.1 hfold
    rw [List.foldlM_cons] at hfold
    obtain ⟨m', hstep, -⟩ := Except.bind_eq_ok.1 hfold
    obtain ⟨rfl, hm, hsome⟩ := step_eq_ok hstep
    -- the steps behind the last name do not move, so the spot is that of the last name
    have hspot : d.spot path = .ok ⟨m, name, !blank.isEmpty⟩ := by
      rw [spot_eq d hs hn hb, hcheck, Except.ok_bind, hfront, Except.ok_bind, step_stay hm]
      rfl
    rw [makeFolder, hspot, Except.ok_bind]
    by_cases hspecial : (Spot.mk m name (!blank.isEmpty)).isSpecial = true
    · rw [if_pos hspecial]
      exact ⟨.alreadyExists, rfl, by decide⟩
    · rw [if_neg hspecial]
      cases hsize : checkName name with
      | error e =>
        refine ⟨e, rfl, ?_⟩
        rintro rfl
        exact checkName_ne_notFound name hsize
      | ok u =>
        have hwalk : Path.walk m name = m ++ [name] := by
          simp only [Spot.isSpecial, Bool.or_eq_true, decide_eq_true_eq, not_or] at hspecial
          rw [Path.walk, if_neg (by simp [hspecial]), if_neg hspecial.2]
        rw [hwalk, Folder.kind?, Option.isSome_map] at hsome
        exact ⟨.alreadyExists, if_pos hsome, by decide⟩

/-- A file is moved in at a spot where no folder is, by a path that does not go on behind it. -/
theorem moveIn_spot (h : d.moveIn path contents = .ok d') :
    ∃ s, d.spot path = .ok s ∧ s.isSpecial = false ∧ s.name.utf8ByteSize ≤ 255 ∧ s.slash = false ∧
      d.root.kind? s.location ≠ some .folder ∧ d' = d.put s.location (.file contents) := by
  obtain ⟨s, hs, hplace, hsize, h⟩ := change_at_spot h
  by_cases hslash : s.slash = true
  · rw [if_pos hslash] at h
    cases h
  rw [if_neg hslash] at h
  refine ⟨s, hs, hplace, hsize, Bool.eq_false_iff.2 hslash, ?_⟩
  cases ha : d.root.at? s.location with
  | none =>
    simp only [ha] at h
    cases h
    exact ⟨by rw [Folder.kind?, ha]; simp, rfl⟩
  | some e =>
    simp only [ha] at h
    cases e with
    | folder inside => cases h
    | file old =>
      cases h
      exact ⟨by rw [Folder.kind?, ha]; simp [Entry.kind], rfl⟩

theorem moveIn_eq_ok (h : d.moveIn path contents = .ok d') :
    d.Stores (Path.locate d.current path) (some contents) d' := by
  obtain ⟨s, hs, hplace, -, -, hfile, rfl⟩ := moveIn_spot h
  obtain ⟨-, -, -, -, hplain, -, hfolder⟩ := spot_eq_ok hs hplace
  rw [← spot_location hs hplace]
  exact stores_put hfolder hplain hfile

theorem wellFormed_remove {n : String} (hd : d.root.WellFormed)
    (hl : d.root.kind? l = some .folder) (hn : Folder.IsPlain n) :
    (d.remove (l ++ [n])).root.WellFormed :=
  Folder.wellFormed_remove hd (isPlain_of_mem_concat hd hl hn)

theorem stores_remove {n : String} (hd : d.root.WellFormed) (hl : d.root.kind? l = some .folder)
    (hn : Folder.IsPlain n) (hfile : d.root.kind? (l ++ [n]) ≠ some .folder) :
    d.Stores (l ++ [n]) none (d.remove (l ++ [n])) := by
  have hkind (k : Location) : (d.remove (l ++ [n])).root.kind? k =
      if l ++ [n] <+: k then none else d.root.kind? k :=
    Folder.kind?_remove hd (by simp) k
  have hother (k : Location) (hne : l ++ [n] ≠ k) :
      (d.remove (l ++ [n])).root.kind? k = d.root.kind? k := by
    rw [hkind]
    split
    · rename_i hk
      rw [kind?_below hfile hk hne]
    · rfl
  refine ⟨⟨rfl, fun k hk => ?_⟩, fun _ => wellFormed_remove hd hl hn, fun k => ?_⟩
  · rw [hother k (fun h => hfile (h ▸ hk))]
    exact hk
  · split
    · rename_i h
      rw [h, Folder.fileAt?, hkind, if_pos (List.prefix_refl _)]
    · rename_i h
      exact Folder.fileAt?_of_kind? (hother k (Ne.symm h))

theorem removeFile_eq_ok (hd : d.root.WellFormed) (h : d.removeFile path = .ok d') :
    d.Stores (Path.locate d.current path) none d' := by
  obtain ⟨s, hs, hplace, -, h⟩ := change_at_spot h
  obtain ⟨-, -, -, -, hplain, -, hfolder⟩ := spot_eq_ok hs hplace
  rw [← spot_location hs hplace]
  cases ha : d.root.at? s.location with
  | none =>
    simp only [ha] at h
    cases h
  | some e =>
    simp only [ha] at h
    cases e with
    | folder inside => cases h
    | file old =>
      by_cases hslash : s.slash = true
      · simp only [hslash, if_true] at h
        cases h
      simp only [hslash] at h
      cases h
      exact stores_remove hd hfolder hplain (by rw [← Spot.location, Folder.kind?, ha]; simp [Entry.kind])

theorem read_join (hb : d.resolve base = .ok lo) (hlo : d.root.kind? lo = some .folder)
    (hp : ∀ s ∈ Path.steps p, Folder.IsPlain s ∧ s.utf8ByteSize ≤ 255)
    (hfile : d.root.fileAt? (lo ++ Path.steps p) = some contents) :
    d.read (Path.join base p) = checkPath (Path.join base p) >>= fun _ => .ok contents := by
  have hkind := Folder.fileAt?_eq_some.1 hfile
  have hfold := foldlM_step_plain hlo (by rw [hkind]; rfl) hp
  have hresolve := resolve_join hb fun s hs => (hp s hs).1
  cases hcheck : checkPath (Path.join base p) with
  | error e =>
    rw [hcheck] at hresolve
    simp only [read, get, hresolve]
    rfl
  | ok u =>
    rw [hcheck, Except.ok_bind, hfold] at hresolve
    rw [read_of_resolve hresolve hfile]
    rfl

theorem removeFile_notFound (hb : d.StartsAt base lo) (hp : Path.IsPlain p)
    (h : d.removeFile (Path.join base p) = .error .notFound) :
    d.root.kind? (lo ++ Path.steps p) = none := by
  obtain ⟨names, name, hs, hnames, hname⟩ := exists_last_name hp
  -- nothing is below a folder that is missing
  have hbelow (hnone : d.root.kind? (lo ++ names) = none) :
      d.root.kind? (lo ++ Path.steps p) = none := by
    rw [hs]
    exact kind?_below (by rw [hnone]; simp) ⟨[name], by simp⟩ (by simp)
  rw [removeFile, spot_join hb hp hs] at h
  rcases Except.bind_eq_error.1 h with h | ⟨s, hspot, h⟩
  · rcases Except.bind_eq_error.1 h with h | ⟨u, -, h⟩
    · exact absurd (checkPath_eq_notFound h) (Path.join_ne_empty base hp)
    rcases Except.bind_eq_error.1 h with h | ⟨l, hl, h⟩
    · exact hbelow (foldlM_step_notFound hnames h)
    · obtain ⟨rfl, -⟩ := foldlM_step_eq_ok hl
      rw [Path.foldl_walk_plain hnames] at h
      rcases Except.bind_eq_error.1 h with h | ⟨l', -, h⟩
      · exact hbelow (step_stay_notFound h)
      · cases h
  · obtain ⟨u, -, hspot⟩ := Except.bind_eq_ok.1 hspot
    obtain ⟨l, hl, hspot⟩ := Except.bind_eq_ok.1 hspot
    obtain ⟨l', hl', hspot⟩ := Except.bind_eq_ok.1 hspot
    cases hspot
    obtain ⟨rfl, -⟩ := foldlM_step_eq_ok hl
    obtain ⟨rfl, -⟩ := step_eq_ok hl'
    obtain ⟨hempty, hdot, hup, -⟩ := hname
    rw [if_neg (by simp [Spot.isSpecial, hempty, hdot, hup])] at h
    rcases Except.bind_eq_error.1 h with h | ⟨u, -, h⟩
    · exact absurd h (checkName_ne_notFound name)
    rw [Path.foldl_walk_plain hnames] at h
    have hwalk (l : Location) : Path.walk l "" = l := rfl
    rw [hs, ← List.append_assoc, Folder.kind?, Option.map_eq_none_iff]
    simp only [hwalk, Spot.location] at h
    cases ha : d.root.at? (lo ++ names ++ [name]) with
    | none => rfl
    | some e =>
      rw [ha] at h
      cases e <;> cases h

theorem removeFolder_eq_ok (h : d.removeFolder path = .ok d') :
    d.root.at? (Path.locate d.current path) = some (.folder .empty) ∧
      Path.locate d.current path ≠ [] ∧ d' = d.remove (Path.locate d.current path) := by
  unfold removeFolder at h
  obtain ⟨s, hs, h⟩ := Except.bind_eq_ok.1 h
  by_cases hdot : s.name = "."
  · rw [if_pos hdot] at h
    cases h
  rw [if_neg hdot] at h
  by_cases hup : s.name = ".."
  · rw [if_pos hup] at h
    cases h
  rw [if_neg hup] at h
  by_cases hempty : s.name = ""
  · rw [if_pos hempty] at h
    cases h
  rw [if_neg hempty] at h
  obtain ⟨u, hsize, h⟩ := Except.bind_eq_ok.1 h
  rw [← spot_location hs (by simp [Spot.isSpecial, hdot, hup, hempty])]
  cases ha : d.root.at? s.location with
  | none =>
    simp only [ha] at h
    cases h
  | some e =>
    simp only [ha] at h
    split at h
    · cases h
    · cases h
    · rename_i he
      cases h
      exact ⟨he, by simp [Spot.location], rfl⟩
    · cases h

end Disk

end StubLinker
