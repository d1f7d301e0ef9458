import StubLinker.Disk.Basic
import StubLinker.Proofs.Disk.Path
import StubLinker.Proofs.Except

namespace StubLinker

namespace Disk

variable {d d' : Disk} {path base p s : String} {l l' lo : Location} {names : List String}

theorem at?_isSome (h : (d.root.kind? l).isSome = true) : ∃ e, d.root.at? l = some e := by
  unfold Folder.kind? at h
  rw [Option.isSome_map] at h
  exact Option.isSome_iff_exists.1 h

theorem at?_of_folder (h : d.root.kind? l = some .folder) :
    ∃ inside, d.root.at? l = some (.folder inside) := by
  unfold Folder.kind? at h
  obtain ⟨e, he, hk⟩ := Option.map_eq_some_iff.1 h
  cases e with
  | file contents => cases hk
  | folder inside => exact ⟨inside, he⟩

theorem kind?_append_name {inside : Folder} (h : d.root.at? l = some (.folder inside)) (s : String) :
    (d.root.kind? (l ++ [s])).isSome = (inside.find? s).isSome := by
  rw [Folder.kind?_append_of_folder h, Folder.kind?_cons]
  cases inside.find? s with
  | none => rfl
  | some e => cases e <;> simp [Entry.kind?, Entry.at?]

theorem step_eq (d : Disk) (l : Location) (s : String) :
    d.step l s =
      match d.root.kind? l with
      | none => .error .notFound
      | some (.file _) => .error .notAFolder
      | some .folder =>
        if s = "" ∨ s = "." then .ok l
        else if s = ".." then .ok l.dropLast
        else if 255 < s.utf8ByteSize then .error .nameTooLong
        else if (d.root.kind? (l ++ [s])).isSome then .ok (l ++ [s])
        else .error .notFound := by
  unfold step
  cases h : d.root.at? l with
  | none => simp [Folder.kind?, h]
  | some e =>
    cases e with
    | file contents => simp [Folder.kind?, h, Entry.kind]
    | folder inside =>
      have hk : d.root.kind? l = some .folder := by simp [Folder.kind?, h, Entry.kind]
      rw [hk, kind?_append_name h]
      simp only [Bool.or_eq_true, decide_eq_true_eq]
      split
      · rfl
      split
      · rfl
      unfold checkName
      split
      · rfl
      · rfl

/-- A step that is made starts from a folder. It stays, leads up, or leads to a name that is there. -/
theorem step_eq_ok_iff : d.step l s = .ok l' ↔ d.root.kind? l = some .folder ∧ l' = Path.walk l s ∧
    ((s = "" ∨ s = ".") ∨ s = ".." ∨
      s.utf8ByteSize ≤ 255 ∧ (d.root.kind? (l ++ [s])).isSome = true) := by
  rw [step_eq]
  cases hk : d.root.kind? l with
  | none => simp
  | some k =>
    cases k with
    | file contents => simp
    | folder =>
      dsimp only
      rw [Path.walk]
      by_cases hstay : s = "" ∨ s = "."
      · rw [if_pos hstay, if_pos hstay, Except.ok.injEq, eq_comm]
        exact ⟨fun h => ⟨rfl, h, .inl hstay⟩, fun h => h.2.1⟩
      rw [if_neg hstay, if_neg hstay]
      by_cases hup : s = ".."
      · rw [if_pos hup, if_pos hup, Except.ok.injEq, eq_comm]
        exact ⟨fun h => ⟨rfl, h, .inr (.inl hup)⟩, fun h => h.2.1⟩
      rw [if_neg hup, if_neg hup]
      by_cases hlong : 255 < s.utf8ByteSize
      · rw [if_pos hlong]
        refine iff_of_false (by simp) ?_
        rintro ⟨-, -, hcase⟩
        have hsize := ((hcase.resolve_left hstay).resolve_left hup).1
        omega
      rw [if_neg hlong]
      by_cases hname : (d.root.kind? (l ++ [s])).isSome = true
      · rw [if_pos hname, Except.ok.injEq, eq_comm]
        exact ⟨fun h => ⟨rfl, h, .inr (.inr ⟨by omega, hname⟩)⟩, fun h => h.2.1⟩
      · rw [if_neg hname]
        refine iff_of_false (by simp) ?_
        rintro ⟨-, -, hcase⟩
        exact hname ((hcase.resolve_left hstay).resolve_left hup).2

theorem step_eq_ok (h : d.step l s = .ok l') :
    l' = Path.walk l s ∧ d.root.kind? l = some .folder ∧ (d.root.kind? l').isSome = true := by
  obtain ⟨hl, rfl, hcase⟩ := step_eq_ok_iff.1 h
  refine ⟨rfl, hl, ?_⟩
  unfold Path.walk
  split
  · rw [hl]
    rfl
  rename_i hstay
  split
  · rcases List.eq_nil_or_concat l with rfl | ⟨front, last, rfl⟩
    · simp
    · rw [List.concat_eq_append] at hl ⊢
      rw [List.dropLast_concat, Folder.kind?_of_append (by rw [hl]; rfl) (by simp)]
      rfl
  · rename_i hup
    exact ((hcase.resolve_left hstay).resolve_left hup).2

theorem foldlM_step_eq_ok (h : names.foldlM d.step l = .ok l') :
    l' = names.foldl Path.walk l ∧
      (names ≠ [] → d.root.kind? l = some .folder ∧ (d.root.kind? l').isSome = true) := by
  induction names generalizing l with
  | nil =>
    cases h
    exact ⟨rfl, fun hne => absurd rfl hne⟩
  | cons s names ih =>
    rw [List.foldlM_cons] at h
    cases hs : d.step l s with
    | error e =>
      rw [hs] at h
      cases h
    | ok m =>
      rw [hs] at h
      obtain ⟨rfl, hl, hm⟩ := step_eq_ok hs
      obtain ⟨rfl, hne⟩ := ih h
      refine ⟨rfl, fun _ => ⟨hl, ?_⟩⟩
      cases names with
      | nil => exact hm
      | cons t names => exact (hne (by simp)).2

theorem resolve_eq_ok (h : d.resolve path = .ok l) :
    l = Path.locate d.current path ∧ (d.root.kind? l).isSome = true := by
  unfold resolve at h
  cases hc : checkPath path with
  | error e =>
    rw [hc] at h
    cases h
  | ok u =>
    rw [hc] at h
    obtain ⟨rfl, hne⟩ := foldlM_step_eq_ok h
    exact ⟨rfl, (hne (Path.steps_ne_nil path)).2⟩

/-- Where a path starts depends on whether it starts at the root, and on the current folder. -/
theorem start_of_isAbsolute (d : Disk) (h : Path.isAbsolute p = Path.isAbsolute path) :
    d.start p = d.start path := by
  rw [start, start, h]

theorem start_of_current (h : d'.current = d.current) (path : String) :
    d'.start path = d.start path := by
  rw [start, start, h]

theorem ne_empty_of_resolve (h : d.resolve path = .ok l) : path ≠ "" := by
  rintro rfl
  obtain ⟨u, hcheck, -⟩ := Except.bind_eq_ok.1 h
  cases hcheck

theorem get_eq_ok {e : Entry} (h : d.get path = .ok e) :
    d.resolve path = .ok (Path.locate d.current path) ∧
      d.root.at? (Path.locate d.current path) = some e := by
  unfold get at h
  cases hr : d.resolve path with
  | error e =>
    rw [hr] at h
    cases h
  | ok l =>
    rw [hr] at h
    obtain ⟨rfl, -⟩ := resolve_eq_ok hr
    refine ⟨rfl, ?_⟩
    cases ha : d.root.at? (Path.locate d.current path) with
    | none =>
      simp only [bind, Except.bind, ha] at h
      cases h
    | some e' =>
      simp only [bind, Except.bind, ha] at h
      cases h
      rfl

theorem get_of_resolve (h : d.resolve path = .ok l) : ∃ e, d.get path = .ok e ∧ d.root.at? l = some e := by
  obtain ⟨e, he⟩ := at?_isSome (resolve_eq_ok h).2
  refine ⟨e, ?_, he⟩
  simp only [get, h, bind, Except.bind, he]
  rfl

theorem has_iff : d.has path = true ↔ d.resolve path = .ok (Path.locate d.current path) := by
  unfold has
  cases hg : d.get path with
  | ok e => simp [(get_eq_ok hg).1]
  | error e =>
    constructor
    · intro h
      cases h
    · intro h
      obtain ⟨e', he, -⟩ := get_of_resolve h
      rw [hg] at he
      cases he

theorem has_of_resolve (h : d.resolve path = .ok l) : d.has path = true := by
  rw [has_iff, ← (resolve_eq_ok h).1]
  exact h

theorem read_eq_ok {c : Bytes} (h : d.read path = .ok c) :
    d.root.fileAt? (Path.locate d.current path) = some c := by
  unfold read at h
  cases hg : d.get path with
  | error e =>
    rw [hg] at h
    cases h
  | ok e =>
    rw [hg] at h
    cases e with
    | folder inside => cases h
    | file contents =>
      cases h
      rw [Folder.fileAt?_eq_some, Folder.kind?, (get_eq_ok hg).2]
      rfl

theorem read_of_resolve {c : Bytes} (hr : d.resolve path = .ok l)
    (hfile : d.root.fileAt? l = some c) : d.read path = .ok c := by
  obtain ⟨e, hget, hat⟩ := get_of_resolve hr
  have hkind := Folder.fileAt?_eq_some.1 hfile
  rw [Folder.kind?, hat, Option.map_some] at hkind
  cases e with
  | folder inside => cases hkind
  | file contents =>
    cases hkind
    rw [read, hget]
    rfl

theorem getFolder_eq_ok {inside : Folder} :
    d.getFolder path = .ok inside ↔ d.get path = .ok (.folder inside) := by
  unfold getFolder
  cases d.get path with
  | error e => simp [bind, Except.bind]
  | ok e =>
    cases e with
    | file contents => simp [bind, Except.bind, throw, throwThe, MonadExceptOf.throw]
    | folder inside' => simp [bind, Except.bind, pure, Except.pure]

theorem getFolder_of_resolve {inside : Folder} (hr : d.resolve path = .ok l)
    (hat : d.root.at? l = some (.folder inside)) : d.getFolder path = .ok inside := by
  obtain ⟨e, hget, he⟩ := get_of_resolve hr
  rw [hat] at he
  cases he
  exact getFolder_eq_ok.2 hget

theorem checkName_eq_ok {n : String} : checkName n = .ok () ↔ n.utf8ByteSize ≤ 255 := by
  unfold checkName
  split
  · rename_i h
    simp [throw, throwThe, MonadExceptOf.throw]
    omega
  · rename_i h
    simp only [pure, Except.pure, true_iff]
    omega

theorem checkName_ne_notFound (n : String) : checkName n ≠ .error .notFound := by
  unfold checkName
  split <;> simp [throw, throwThe, MonadExceptOf.throw, pure, Except.pure]

theorem checkPath_eq_error {e : DiskError} (h : checkPath path = .error e) :
    e = .nulInPath ∨ (e = .notFound ∧ path = "") ∨ e = .nameTooLong := by
  unfold checkPath at h
  by_cases hnul : path.toList.contains (Char.ofNat 0) = true
  · rw [if_pos hnul] at h
    cases h
    exact .inl rfl
  rw [if_neg hnul] at h
  by_cases hempty : path.isEmpty = true
  · rw [if_pos hempty] at h
    cases h
    exact .inr (.inl ⟨rfl, by simpa using hempty⟩)
  rw [if_neg hempty] at h
  split at h <;> cases h
  exact .inr (.inr rfl)

theorem checkPath_eq_notFound (h : checkPath path = .error .notFound) : path = "" := by
  obtain h | ⟨-, hempty⟩ | h := checkPath_eq_error h
  · cases h
  · exact hempty
  · cases h

/-- The current folder is the same and no folder went away. -/
structure Keeps (d d' : Disk) : Prop where
  current : d'.current = d.current
  folder : ∀ l, d.root.kind? l = some .folder → d'.root.kind? l = some .folder

theorem Keeps.refl (d : Disk) : d.Keeps d :=
  ⟨rfl, fun _ h => h⟩

theorem Keeps.trans {d'' : Disk} (h : d.Keeps d') (h' : d'.Keeps d'') : d.Keeps d'' :=
  ⟨h'.current.trans h.current, fun l hl => h'.folder l (h.folder l hl)⟩

theorem Keeps.step (h : d.Keeps d') (hs : d.step l s = .ok l') (hl : d.root.kind? l' = some .folder) :
    d'.step l s = .ok l' := by
  obtain ⟨hfolder, rfl, hcase⟩ := step_eq_ok_iff.1 hs
  refine step_eq_ok_iff.2 ⟨h.folder l hfolder, rfl, ?_⟩
  by_cases hstay : s = "" ∨ s = "."
  · exact .inl hstay
  by_cases hup : s = ".."
  · exact .inr (.inl hup)
  · rw [Path.walk, if_neg hstay, if_neg hup] at hl
    refine .inr (.inr ⟨((hcase.resolve_left hstay).resolve_left hup).1, ?_⟩)
    rw [h.folder _ hl]
    rfl

theorem Keeps.foldlM_step (h : d.Keeps d') (hs : names.foldlM d.step l = .ok l')
    (hl : d.root.kind? l' = some .folder) : names.foldlM d'.step l = .ok l' := by
  induction names generalizing l with
  | nil => exact hs
  | cons s names ih =>
    rw [List.foldlM_cons, Except.bind_eq_ok] at hs
    obtain ⟨m, hm, hs⟩ := hs
    have hfolder : d.root.kind? m = some .folder := by
      obtain ⟨hl', hne⟩ := foldlM_step_eq_ok hs
      cases names with
      | nil =>
        cases hs
        exact hl
      | cons t names => exact (hne (by simp)).1
    rw [List.foldlM_cons, h.step hm hfolder]
    exact ih hs

theorem Keeps.resolve (h : d.Keeps d') (hr : d.resolve path = .ok l)
    (hl : d.root.kind? l = some .folder) : d'.resolve path = .ok l := by
  unfold Disk.resolve at hr ⊢
  obtain ⟨u, hc, hr⟩ := Except.bind_eq_ok.1 hr
  rw [hc, Except.ok_bind, start_of_current h.current]
  exact h.foldlM_step hr hl

theorem prefix_foldl_walk (hup : ".." ∉ names) (l : Location) : l <+: names.foldl Path.walk l := by
  induction names generalizing l with
  | nil => exact List.prefix_refl l
  | cons s names ih =>
    rw [List.mem_cons, not_or] at hup
    rw [List.foldl_cons]
    refine List.IsPrefix.trans ?_ (ih hup.2 _)
    unfold Path.walk
    split
    · exact List.prefix_refl l
    · rw [if_neg (Ne.symm hup.1)]
      exact List.prefix_append l [s]

/-- Steps that do not lead up are made wherever they lead to a folder, if they are on some disk. -/
theorem foldlM_step_of_folder (hup : ".." ∉ names) (h : names.foldlM d'.step l = .ok l')
    (hl : d.root.kind? l' = some .folder) : names.foldlM d.step l = .ok l' := by
  induction names generalizing l with
  | nil => exact h
  | cons s names ih =>
    -- without a step up, only folders above the end are passed, and those are there
    have habove {k : Location} (hk : k <+: l') : d.root.kind? k = some .folder := by
      obtain ⟨rest, rfl⟩ := hk
      cases rest with
      | nil => simpa using hl
      | cons m rest => exact Folder.kind?_of_append (by rw [hl]; rfl) (List.cons_ne_nil m rest)
    obtain ⟨hwalk, -⟩ := foldlM_step_eq_ok h
    have hpre : l <+: l' := by
      rw [hwalk]
      exact prefix_foldl_walk hup l
    rw [List.mem_cons, not_or] at hup
    rw [List.foldlM_cons] at h ⊢
    obtain ⟨m, hstep, h⟩ := Except.bind_eq_ok.1 h
    have hm : m <+: l' := by
      rw [(foldlM_step_eq_ok h).1]
      exact prefix_foldl_walk hup.2 m
    refine Except.bind_eq_ok.2 ⟨m, step_eq_ok_iff.2 ⟨habove hpre, (step_eq_ok hstep).1, ?_⟩, ih hup.2 h⟩
    obtain ⟨-, rfl, hcase⟩ := step_eq_ok_iff.1 hstep
    by_cases hstay : s = "" ∨ s = "."
    · exact .inl hstay
    · rw [Path.walk, if_neg hstay, if_neg (Ne.symm hup.1)] at hm
      obtain ⟨hsize, -⟩ := (hcase.resolve_left hstay).resolve_left (Ne.symm hup.1)
      refine .inr (.inr ⟨hsize, ?_⟩)
      rw [habove hm]
      rfl

/-- A path without steps that lead up leads to the same folder wherever there is one, if it does on
some disk. -/
theorem resolve_of_folder (hup : ".." ∉ Path.steps path) (hcurrent : d'.current = d.current)
    (h : d'.resolve path = .ok l) (hl : d.root.kind? l = some .folder) : d.resolve path = .ok l := by
  obtain ⟨u, hcheck, h⟩ := Except.bind_eq_ok.1 h
  rw [start_of_current hcurrent] at h
  rw [resolve, hcheck, Except.ok_bind]
  exact foldlM_step_of_folder hup h hl

end Disk

end StubLinker
