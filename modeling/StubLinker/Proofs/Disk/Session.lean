import StubLinker.Disk.Session
import StubLinker.Proofs.Disk.Effect
import StubLinker.Proofs.Disk.Prune
import StubLinker.Proofs.Run

namespace StubLinker

namespace Disk

variable {d d' : Disk} {path : String} {l : Location}

theorem hasFolder_iff :
    d.hasFolder path = true ↔ ∃ l, d.resolve path = .ok l ∧ d.root.kind? l = some .folder := by
  unfold hasFolder
  constructor
  · intro h
    cases hg : d.get path with
    | error e =>
      rw [hg] at h
      cases h
    | ok e =>
      rw [hg] at h
      obtain ⟨hr, ha⟩ := get_eq_ok hg
      cases e with
      | file contents => cases h
      | folder inside =>
        refine ⟨_, hr, ?_⟩
        rw [Folder.kind?, ha]
        rfl
  · rintro ⟨l, hr, hl⟩
    obtain ⟨e, hg, ha⟩ := get_of_resolve hr
    rw [Folder.kind?, ha] at hl
    rw [hg]
    cases e with
    | file contents => cases hl
    | folder inside => rfl

end Disk

namespace Session

variable {d d' : Disk} {path : String} {r : Except DiskError Unit} {contents : Bytes}

theorem runOn_look {α : Type} (f : Disk → Except DiskError α) (d : Disk) :
    runOn (look f) d = (f d, d) := by
  rw [look, runOn_bind, runOn_get]
  dsimp only
  cases f d <;> rfl

theorem look_bind_eq_ok {α β : Type} {f : Disk → Except DiskError α} {g : α → Session β} {b : β} :
    runOn (look f >>= g) d = (.ok b, d') ↔ ∃ a, f d = .ok a ∧ runOn (g a) d = (.ok b, d') := by
  rw [runOn_bind, runOn_look]
  cases f d with
  | error e => simp
  | ok a => simp

theorem runOn_change (f : Disk → Except DiskError Disk) (d : Disk) :
    runOn (change f) d =
      match f d with
      | .ok d' => (.ok (), d')
      | .error e => (.error e, d) := by
  rw [change, runOn_bind, runOn_get]
  dsimp only
  cases f d <;> rfl

theorem runOn_ensureFolder (path : String) (d : Disk) :
    runOn (ensureFolder path) d =
      match d.makeFolder path with
      | .ok made => (.ok (), made)
      | .error e => if d.hasFolder path then (.ok (), d) else (.error e, d) := by
  rw [ensureFolder, runOn_bind, runOn_get]
  dsimp only
  cases d.makeFolder path with
  | ok made => rfl
  | error e =>
    dsimp only
    split <;> rfl

/-- Work that makes folders adds them only, and if it succeeds the path leads to a folder. -/
def Makes (path : String) (d : Disk) (result : Except DiskError Unit × Disk) : Prop :=
  d.Grows result.2 ∧ (result.1 = .ok () → result.2.hasFolder path = true)

theorem makes_ensureFolder (path : String) (d : Disk) :
    Makes path d (runOn (ensureFolder path) d) := by
  rw [runOn_ensureFolder]
  cases hm : d.makeFolder path with
  | ok made =>
    obtain ⟨hgrows, hmade⟩ := Disk.makeFolder_eq_ok hm
    exact ⟨hgrows, fun _ => Disk.hasFolder_iff.2 hmade⟩
  | error e =>
    dsimp only
    split
    · rename_i hf
      exact ⟨.refl d, fun _ => hf⟩
    · exact ⟨.refl d, fun h => nomatch h⟩

theorem makes_makeFolderBelow (path : String) (above : List String) (d : Disk) :
    Makes path d (runOn (makeFolderBelow path above) d) := by
  induction above generalizing path with
  | nil => exact makes_ensureFolder path d
  | cons nearest above ih =>
    rw [makeFolderBelow, runOn_bind, runOn_get]
    dsimp only
    split
    · rw [runOn_bind]
      obtain ⟨hgrows, -⟩ := ih nearest
      cases hrun : runOn (makeFolderBelow nearest above) d with
      | mk result d1 =>
        rw [hrun] at hgrows
        cases result with
        | error e => exact ⟨hgrows, fun h => nomatch h⟩
        | ok u =>
          obtain ⟨hgrows', hmade⟩ := makes_ensureFolder path d1
          exact ⟨hgrows.trans hgrows', hmade⟩
    · exact makes_ensureFolder path d

theorem makeFolders_of_hasFolder (h : d.hasFolder path = true) :
    runOn (makeFolders path) d = (.ok (), d) := by
  obtain ⟨l, hr, -⟩ := Disk.hasFolder_iff.1 h
  obtain ⟨e, hmake, hne⟩ := Disk.makeFolder_of_resolve hr
  have hensure : runOn (ensureFolder path) d = (.ok (), d) := by
    rw [runOn_ensureFolder, hmake]
    dsimp only
    rw [if_pos h]
  unfold makeFolders
  split
  · rfl
  · cases Path.ancestors path with
    | nil => exact hensure
    | cons nearest above =>
      rw [makeFolderBelow, runOn_bind, runOn_get]
      dsimp only
      rw [hmake]
      cases e with
      | notFound => exact absurd rfl hne
      | _ => exact hensure

theorem grows_makeFolders (path : String) (d : Disk) :
    d.Grows (runOn (makeFolders path) d).2 := by
  unfold makeFolders
  split
  · exact .refl d
  · exact (makes_makeFolderBelow path _ d).1

theorem makeFolders_eq_ok (hpath : path ≠ "") (h : runOn (makeFolders path) d = (.ok (), d')) :
    d.Grows d' ∧ d'.hasFolder path = true := by
  unfold makeFolders at h
  rw [if_neg (by simpa using hpath)] at h
  obtain ⟨hgrows, hmade⟩ := makes_makeFolderBelow path (Path.ancestors path) d
  rw [h] at hgrows hmade
  exact ⟨hgrows, hmade rfl⟩

theorem resolve_of_makeFolders (hpath : path ≠ "") (h : runOn (makeFolders path) d = (.ok (), d')) :
    d.Grows d' ∧ d'.resolve path = .ok (Path.locate d.current path) ∧
      d'.root.kind? (Path.locate d.current path) = some .folder := by
  obtain ⟨hgrows, hhas⟩ := makeFolders_eq_ok hpath h
  obtain ⟨l, hresolve, hfolder⟩ := Disk.hasFolder_iff.1 hhas
  have hlocate : l = Path.locate d.current path := by
    rw [(Disk.resolve_eq_ok hresolve).1, hgrows.current]
  rw [hlocate] at hresolve hfolder
  exact ⟨hgrows, hresolve, hfolder⟩

theorem writeFile_eq_ok (h : runOn (writeFile path contents) d = (.ok (), d')) :
    d.Stores (Path.locate d.current path) (some contents) d' := by
  obtain ⟨u, d1, hmake, h⟩ := runOn_bind_eq_ok.1 h
  have hgrows := grows_makeFolders (Path.folder path) d
  rw [hmake] at hgrows
  rw [runOn_change] at h
  cases hm : d1.moveIn path contents with
  | error e =>
    rw [hm] at h
    cases h
  | ok made =>
    rw [hm] at h
    cases h
    have hstores := Disk.moveIn_eq_ok hm
    rw [hgrows.current] at hstores
    exact hgrows.stores hstores

theorem writeFile_eq_error {e : DiskError} (h : runOn (writeFile path contents) d = (.error e, d')) :
    d.Grows d' := by
  rw [writeFile, runOn_bind] at h
  have hgrows := grows_makeFolders (Path.folder path) d
  cases hrun : runOn (makeFolders (Path.folder path)) d with
  | mk result d1 =>
    rw [hrun] at h hgrows
    cases result with
    | error e' =>
      cases h
      exact hgrows
    | ok u =>
      dsimp only at h
      rw [runOn_change] at h
      cases hm : d1.moveIn path contents with
      | error e' =>
        rw [hm] at h
        cases h
        exact hgrows
      | ok made =>
        rw [hm] at h
        cases h

theorem runOn_removeTree {l : Location} (hr : d.resolve path = .ok l)
    (hl : d.root.kind? l = some .folder) :
    runOn (removeTree path) d =
      match (d.put l (.folder .empty)).removeFolder path with
      | .ok d' => (.ok (), d')
      | .error .notFound => (.ok (), d.put l (.folder .empty))
      | .error e => (.error e, d.put l (.folder .empty)) := by
  obtain ⟨inside, hat⟩ := Disk.at?_of_folder hl
  rw [removeTree, runOn_bind, runOn_look, hr]
  dsimp only
  rw [runOn_bind, runOn_look, Disk.getFolder_of_resolve hr hat]
  dsimp only
  rw [runOn_bind, runOn_modify]
  dsimp only
  rw [runOn_bind, runOn_get]
  dsimp only
  cases (d.put l (.folder .empty)).removeFolder path with
  | ok d' => rfl
  | error e => cases e <;> rfl

/-- A tree that is removed leaves no file, and files elsewhere are as before. -/
theorem removeTree_eq_ok (hd : d.root.WellFormed) (h : runOn (removeTree path) d = (.ok (), d')) :
    d'.current = d.current ∧ d'.root.WellFormed ∧
      (∀ l, ¬Path.locate d.current path <+: l → d'.root.kind? l = d.root.kind? l) ∧
      ∀ l, d'.root.fileAt? (Path.locate d.current path ++ l) = none := by
  obtain ⟨l, hresolve, hrest⟩ := look_bind_eq_ok.1 h
  obtain ⟨rfl, -⟩ := Disk.resolve_eq_ok hresolve
  obtain ⟨inside, hinside, -⟩ := look_bind_eq_ok.1 hrest
  have hl : d.root.kind? (Path.locate d.current path) = some .folder := by
    rw [Folder.kind?, (Disk.get_eq_ok (Disk.getFolder_eq_ok.1 hinside)).2]
    rfl
  have hcleared := Disk.kind?_put_folder .empty hl
  have hempty : Folder.empty.WellFormed := trivial
  have hwf := Disk.wellFormed_put_folder hd hl hempty
  have hnone (l : Location) : Folder.fileAt? .empty l = none := by
    cases l <;> rfl
  rw [runOn_removeTree hresolve hl] at h
  cases hm : (d.put (Path.locate d.current path) (.folder .empty)).removeFolder path with
  | ok made =>
    rw [hm] at h
    cases h
    obtain ⟨-, hne, hmade⟩ := Disk.removeFolder_eq_ok hm
    rw [Disk.current_put] at hne hmade
    subst hmade
    have hremoved := Folder.kind?_remove hwf hne
    refine ⟨rfl, Folder.wellFormed_remove hwf ?_, fun l hout => ?_, fun l => ?_⟩
    · exact hd.isPlain_of_kind? (by rw [hl]; rfl)
    · rw [Disk.remove, hremoved, if_neg hout, hcleared, if_neg hout]
    · rw [Folder.fileAt?, Disk.remove, hremoved, if_pos (List.prefix_append _ _)]
  | error e =>
    rw [hm] at h
    cases e <;> cases h
    refine ⟨rfl, hwf, fun l hout => ?_, fun l => ?_⟩
    · rw [hcleared, if_neg hout]
    · rw [← hnone l]
      refine Folder.fileAt?_of_kind? ?_
      rw [hcleared, if_pos (List.prefix_append _ _), List.drop_left]

/-- The entries of a folder with the names in `f`, which holds what is there, are pruned. All else is
as before. -/
structure Prunes (l : Location) (f : Folder) (d d' : Disk) : Prop where
  current : d'.current = d.current
  wellFormed : d'.root.WellFormed
  inside : ∀ n ∈ f.names, ∀ k, d'.root.kind? (l ++ n :: k) = f.pruned.kind? (n :: k)
  outside : ∀ k, (∀ n ∈ f.names, ¬l ++ [n] <+: k) → d'.root.kind? k = d.root.kind? k

theorem concat_prefix_iff {l k : Location} {n m : String} : l ++ [n] <+: l ++ m :: k ↔ n = m := by
  rw [List.prefix_append_right_inj, List.cons_prefix_cons]
  simp

section Prunes

variable {l : Location} {name : String} {inside rest : Folder} {c : Bytes} {d1 d2 : Disk}

theorem Prunes.file (hne : ∀ n ∈ rest.names, name ≠ n) (h : Prunes l rest d d')
    (hview : ∀ k, d.root.kind? (l ++ name :: k) = (Folder.file name c rest).kind? (name :: k)) :
    Prunes l (.file name c rest) d d' := by
  refine ⟨h.current, h.wellFormed, fun n hn k => ?_, fun k hk => ?_⟩
  · rw [Folder.pruned, ← Folder.cons, Folder.kind?_cons_entry]
    rcases List.mem_cons.1 hn with rfl | hn
    · rw [h.outside, hview, ← Folder.cons, Folder.kind?_cons_entry, if_pos rfl, if_pos rfl]
      intro m hm hpre
      exact hne m hm (concat_prefix_iff.1 hpre).symm
    · rw [if_neg (hne n hn), h.inside n hn]
  · exact h.outside k fun n hn => hk n (List.mem_cons_of_mem _ hn)

theorem Prunes.view (hne : ∀ n ∈ rest.names, name ≠ n) (h : Prunes l rest d d1)
    (hview : ∀ k, d.root.kind? (l ++ name :: k) = (Folder.folder name inside rest).kind? (name :: k))
    (k : Location) : d1.root.kind? (l ++ name :: k) = inside.kind? k := by
  rw [h.outside, hview, ← Folder.cons, Folder.kind?_cons_entry, if_pos rfl]
  · rfl
  · intro m hm hpre
    exact hne m hm (concat_prefix_iff.1 hpre).symm

theorem Prunes.kind? (h : Prunes l inside d d')
    (hview : ∀ k, d.root.kind? (l ++ k) = inside.kind? k) (k : Location) :
    d'.root.kind? (l ++ k) = inside.pruned.kind? k := by
  cases k with
  | nil =>
    rw [h.outside, hview, Folder.kind?_nil, Folder.kind?_nil]
    intro n hn hpre
    exact absurd hpre.length_le (by simp)
  | cons n k =>
    by_cases hn : n ∈ inside.names
    · exact h.inside n hn k
    · rw [h.outside, hview, Folder.kind?_eq_none hn,
        Folder.kind?_eq_none fun h => hn (Folder.names_pruned_subset h)]
      intro m hm hpre
      exact hn (concat_prefix_iff.1 hpre ▸ hm)

theorem Prunes.off (h : Prunes l inside d d') {k : Location} (hk : ¬l <+: k) :
    d'.root.kind? k = d.root.kind? k := by
  apply h.outside
  intro n hn hpre
  exact hk ((List.prefix_append l [n]).trans hpre)

theorem Prunes.below (hne : ∀ n ∈ rest.names, name ≠ n) (h1 : Prunes l rest d d1)
    (h2 : Prunes (l ++ [name]) inside d1 d2)
    (hview : ∀ k, d.root.kind? (l ++ name :: k) = (Folder.folder name inside rest).kind? (name :: k)) :
    (∀ k, d2.root.kind? (l ++ name :: k) = (Entry.folder inside.pruned).kind? k) ∧
      (∀ n ∈ rest.names, ∀ k, d2.root.kind? (l ++ n :: k) = rest.pruned.kind? (n :: k)) ∧
      ∀ k, (∀ n ∈ name :: rest.names, ¬l ++ [n] <+: k) → d2.root.kind? k = d.root.kind? k := by
  have hinside := h1.view hne hview
  refine ⟨fun k => ?_, fun n hn k => ?_, fun k hk => ?_⟩
  · rw [List.append_cons]
    apply h2.kind?
    intro k
    rw [← List.append_cons]
    exact hinside k
  · rw [h2.outside, h1.inside n hn]
    intro m hm hpre
    have hpre' := (List.prefix_append (l ++ [name]) [m]).trans hpre
    exact hne n hn (concat_prefix_iff.1 hpre')
  · rw [h2.outside, h1.outside k fun n hn => hk n (List.mem_cons_of_mem _ hn)]
    intro m hm hpre
    exact hk name List.mem_cons_self ((List.prefix_append (l ++ [name]) [m]).trans hpre)

theorem Prunes.keep (hne : ∀ n ∈ rest.names, name ≠ n) (h1 : Prunes l rest d d1)
    (h2 : Prunes (l ++ [name]) inside d1 d2) (hbare : inside.pruned ≠ .empty)
    (hview : ∀ k, d.root.kind? (l ++ name :: k) = (Folder.folder name inside rest).kind? (name :: k)) :
    Prunes l (.folder name inside rest) d d2 := by
  obtain ⟨hin, hrest, hout⟩ := h1.below hne h2 hview
  refine ⟨h2.current.trans h1.current, h2.wellFormed, fun n hn k => ?_, hout⟩
  rw [Folder.pruned, if_neg hbare, ← Folder.cons, Folder.kind?_cons_entry]
  rcases List.mem_cons.1 hn with rfl | hn
  · rw [if_pos rfl, hin]
  · rw [if_neg (hne n hn), hrest n hn]

theorem Prunes.drop (hne : ∀ n ∈ rest.names, name ≠ n) (h1 : Prunes l rest d d1)
    (h2 : Prunes (l ++ [name]) inside d1 d2) (hbare : inside.pruned = .empty)
    (hview : ∀ k, d.root.kind? (l ++ name :: k) = (Folder.folder name inside rest).kind? (name :: k)) :
    Prunes l (.folder name inside rest) d (d2.remove (l ++ [name])) := by
  obtain ⟨hin, hrest, hout⟩ := h1.below hne h2 hview
  have hremoved (k : Location) : (d2.remove (l ++ [name])).root.kind? k =
      if l ++ [name] <+: k then none else d2.root.kind? k :=
    Folder.kind?_remove h2.wellFormed (by simp) k
  have hwf : (d2.remove (l ++ [name])).root.WellFormed := by
    refine Folder.wellFormed_remove h2.wellFormed (h2.wellFormed.isPlain_of_kind? ?_)
    rw [hin]
    rfl
  refine ⟨h2.current.trans h1.current, hwf, fun n hn k => ?_, fun k hk => ?_⟩
  · rw [Folder.pruned, if_pos hbare, hremoved]
    rcases List.mem_cons.1 hn with rfl | hn
    · rw [if_pos (concat_prefix_iff.2 rfl), Folder.kind?_eq_none]
      exact fun h => hne _ (Folder.names_pruned_subset h) rfl
    · rw [if_neg, hrest n hn]
      rw [concat_prefix_iff]
      exact hne n hn
  · rw [hremoved, if_neg (hk name List.mem_cons_self), hout k hk]

theorem view_rest {e : Entry} (hne : ∀ n ∈ rest.names, name ≠ n)
    (hview : ∀ n ∈ name :: rest.names, ∀ k,
      d.root.kind? (l ++ n :: k) = (Folder.cons name e rest).kind? (n :: k)) :
    ∀ n ∈ rest.names, ∀ k, d.root.kind? (l ++ n :: k) = rest.kind? (n :: k) := by
  intro n hn k
  rw [hview n (List.mem_cons_of_mem _ hn), Folder.kind?_cons_entry,
    if_neg (hne n hn)]

theorem Prunes.locate_join (h : Prunes (Path.locate d.current path) rest d d1)
    (hname : Folder.IsPlain name) :
    Path.locate d1.current (Path.join path name) = Path.locate d.current path ++ [name] := by
  rw [h.current, Path.locate_join _ (Path.isPlain_name hname), Path.steps_name hname]

theorem Prunes.view_join (hne : ∀ n ∈ rest.names, name ≠ n) (hname : Folder.IsPlain name)
    (h : Prunes (Path.locate d.current path) rest d d1)
    (hview : ∀ k, d.root.kind? (Path.locate d.current path ++ name :: k) =
      (Folder.folder name inside rest).kind? (name :: k)) :
    ∀ n ∈ inside.names, ∀ k,
      d1.root.kind? (Path.locate d1.current (Path.join path name) ++ n :: k) =
        inside.kind? (n :: k) := by
  intro n hn k
  rw [h.locate_join hname, List.append_assoc]
  exact h.view hne hview (n :: k)

/-- Over a folder, what stands after it is pruned first, then what is in it. It is removed when that
leaves it bare. -/
theorem pruneEach_folder_eq_ok {bare : Bool}
    (h : runOn (pruneEach path (.folder name inside rest)) d = (.ok bare, d')) :
    ∃ others d1 g left d2, runOn (pruneEach path rest) d = (.ok others, d1) ∧
      d1.getFolder (Path.join path name) = .ok g ∧
      runOn (pruneEach (Path.join path name) inside) d1 = (.ok left, d2) ∧
      (left = true ∧ bare = others ∧ d2.removeFolder (Path.join path name) = .ok d' ∨
        left = false ∧ bare = false ∧ d' = d2) := by
  rw [pruneEach] at h
  obtain ⟨others, d1, hrest, h⟩ := runOn_bind_eq_ok.1 h
  obtain ⟨g, hget, h⟩ := look_bind_eq_ok.1 h
  obtain ⟨left, d2, hinside, h⟩ := runOn_bind_eq_ok.1 h
  refine ⟨others, d1, g, left, d2, hrest, hget, hinside, ?_⟩
  cases left with
  | false =>
    cases h
    exact .inr ⟨rfl, rfl, rfl⟩
  | true =>
    rw [if_pos rfl, runOn_bind, runOn_change] at h
    cases hremove : d2.removeFolder (Path.join path name) with
    | error e =>
      rw [hremove] at h
      cases h
    | ok removed =>
      rw [hremove] at h
      cases h
      exact .inl ⟨rfl, rfl, rfl⟩

theorem pruneEach_folder_eq_error {e : DiskError}
    (h : runOn (pruneEach path (.folder name inside rest)) d = (.error e, d')) :
    runOn (pruneEach path rest) d = (.error e, d') ∨
      ∃ others d1, runOn (pruneEach path rest) d = (.ok others, d1) ∧
        (d1.getFolder (Path.join path name) = .error e ∨
          runOn (pruneEach (Path.join path name) inside) d1 = (.error e, d') ∨
          ∃ d2, runOn (pruneEach (Path.join path name) inside) d1 = (.ok true, d2) ∧
            d2.removeFolder (Path.join path name) = .error e) := by
  rw [pruneEach] at h
  rcases runOn_bind_eq_error.1 h with h | ⟨others, d1, hrest, h⟩
  · exact .inl h
  refine .inr ⟨others, d1, hrest, ?_⟩
  rw [runOn_bind, runOn_look] at h
  cases hget : d1.getFolder (Path.join path name) with
  | error e' =>
    rw [hget] at h
    cases h
    exact .inl rfl
  | ok g =>
    rw [hget] at h
    rcases runOn_bind_eq_error.1 h with h | ⟨left, d2, hinside, h⟩
    · exact .inr (.inl h)
    cases left with
    | false => cases h
    | true =>
      refine .inr (.inr ⟨d2, hinside, ?_⟩)
      rw [if_pos rfl, runOn_bind, runOn_change] at h
      cases hremove : d2.removeFolder (Path.join path name) with
      | error e' =>
        rw [hremove] at h
        cases h
        rfl
      | ok removed =>
        rw [hremove] at h
        cases h

end Prunes

theorem pruneEach_eq_ok {f : Folder} {bare : Bool} (hd : d.root.WellFormed) (hf : f.Distinct)
    (hview : ∀ n ∈ f.names, ∀ k,
      d.root.kind? (Path.locate d.current path ++ n :: k) = f.kind? (n :: k))
    (h : runOn (pruneEach path f) d = (.ok bare, d')) :
    Prunes (Path.locate d.current path) f d d' ∧ bare = decide (f.pruned = .empty) := by
  -- the later entries are pruned before the first one
  induction f generalizing path d d' bare with
  | empty =>
    rw [pruneEach, runOn_pure] at h
    cases h
    exact ⟨⟨rfl, hd, fun n hn => absurd hn List.not_mem_nil, fun k _ => rfl⟩, rfl⟩
  | file name contents rest ih =>
    obtain ⟨hname, hne, hrest⟩ := hf
    rw [pruneEach] at h
    obtain ⟨others, d1, hrun, h⟩ := runOn_bind_eq_ok.1 h
    rw [runOn_pure] at h
    cases h
    obtain ⟨hprunes, -⟩ := ih hd hrest (view_rest (e := .file contents) hne hview) hrun
    exact ⟨hprunes.file hne (hview name List.mem_cons_self), rfl⟩
  | folder name inside rest ihi ih =>
    obtain ⟨hname, hne, hinside, hrest⟩ := hf
    have hviewName := hview name List.mem_cons_self
    obtain ⟨others, d1, -, left, d2, hrun, -, hbelow, hends⟩ := pruneEach_folder_eq_ok h
    obtain ⟨h1, rfl⟩ := ih hd hrest (view_rest (e := .folder inside) hne hview) hrun
    obtain ⟨h2, rfl⟩ :=
      ihi h1.wellFormed hinside (h1.view_join hne hname hviewName) hbelow
    have hlocate := h1.locate_join hname
    rw [hlocate] at h2
    rcases hends with ⟨hbare, rfl, hremove⟩ | ⟨hbare, rfl, rfl⟩
    · obtain ⟨-, -, rfl⟩ := Disk.removeFolder_eq_ok hremove
      have hempty : inside.pruned = .empty := of_decide_eq_true hbare
      rw [h2.current, hlocate]
      refine ⟨h1.drop hne h2 hempty hviewName, ?_⟩
      rw [Folder.pruned, if_pos hempty]
    · have hempty : inside.pruned ≠ .empty := of_decide_eq_false hbare
      refine ⟨h1.keep hne h2 hempty hviewName, ?_⟩
      rw [Folder.pruned, if_neg hempty]
      rfl

theorem prune_eq_ok_iff : runOn (prune path) d = (.ok (), d') ↔
    ∃ inside bare, d.getFolder path = .ok inside ∧
      runOn (pruneEach path inside) d = (.ok bare, d') := by
  rw [prune, look_bind_eq_ok]
  constructor
  · rintro ⟨inside, hinside, h⟩
    obtain ⟨bare, d1, heach, h⟩ := runOn_bind_eq_ok.1 h
    cases h
    exact ⟨inside, bare, hinside, heach⟩
  · rintro ⟨inside, bare, hinside, heach⟩
    exact ⟨inside, hinside, runOn_bind_eq_ok.2 ⟨bare, d', heach, rfl⟩⟩

theorem resolve_of_prune (h : runOn (prune path) d = (.ok (), d')) :
    d.resolve path = .ok (Path.locate d.current path) := by
  obtain ⟨inside, bare, hinside, -⟩ := prune_eq_ok_iff.1 h
  exact (Disk.get_eq_ok (Disk.getFolder_eq_ok.1 hinside)).1

theorem prune_eq_ok (hd : d.root.WellFormed) (h : runOn (prune path) d = (.ok (), d')) :
    ∃ inside, d.root.at? (Path.locate d.current path) = some (.folder inside) ∧
      d'.current = d.current ∧ d'.root.WellFormed ∧
      (∀ k, d'.root.kind? (Path.locate d.current path ++ k) = inside.pruned.kind? k) ∧
      ∀ k, ¬Path.locate d.current path <+: k → d'.root.kind? k = d.root.kind? k := by
  obtain ⟨inside, bare, hinside, heach⟩ := prune_eq_ok_iff.1 h
  obtain ⟨-, hat⟩ := Disk.get_eq_ok (Disk.getFolder_eq_ok.1 hinside)
  obtain ⟨hprunes, -⟩ := pruneEach_eq_ok hd (hd.at? hat).distinct
    (fun n _ k => Folder.kind?_append_of_folder hat (n :: k)) heach
  exact ⟨inside, hat, hprunes.current, hprunes.wellFormed,
    hprunes.kind? fun k => Folder.kind?_append_of_folder hat k, fun k => hprunes.off⟩

end Session

end StubLinker
