import StubLinker.Proofs.Disk.Trims

namespace StubLinker

namespace Path

variable {base name q : String}

/-- A path continued by a name and then by more names is continued by all of them at once. -/
theorem join_join_name (base : String) (hn : Folder.IsPlain name) (hq : IsPlain q) :
    join (join base name) q = join base (name ++ "/" ++ q) := by
  have hsteps : steps (name ++ "/" ++ q) = name :: steps q := by
    rw [steps_slash, steps_name hn]
    rfl
  have hall : IsPlain (name ++ "/" ++ q) := by
    intro s hs
    rw [hsteps] at hs
    rcases List.mem_cons.1 hs with rfl | hs
    · exact hn
    · exact hq s hs
  have hname := isPlain_name hn
  obtain ⟨hempty, -, -, hslash⟩ := hn
  -- a path that ends with a name does not end with a slash
  have hend (front : String) : (front ++ name).toList.getLast? ≠ some '/' := by
    intro h
    rw [String.toList_append, List.getLast?_append_of_ne_nil _ (by simpa using hempty)] at h
    exact hslash (List.mem_of_getLast? h)
  have hnonempty (front : String) : (front ++ name).isEmpty = false := by
    simp [hempty]
  have hback (front : String) : join (front ++ name) q = front ++ name ++ "/" ++ q := by
    rw [join, hq.not_absolute, if_neg Bool.false_ne_true, if_neg]
    rw [Bool.or_eq_true, decide_eq_true_iff, not_or, hnonempty]
    exact ⟨Bool.false_ne_true, hend front⟩
  rw [join.eq_def base, join.eq_def base, hname.not_absolute, hall.not_absolute,
    if_neg Bool.false_ne_true, if_neg Bool.false_ne_true]
  split
  · rw [hback]
    simp only [String.append_assoc]
  · rw [hback]
    simp only [String.append_assoc]

end Path

namespace Disk

variable {d d' core : Disk} {path : String} {l : Location} {inside f : Folder} {name : String}

/-- The folders of a tree can be looked up below a path: their names and their paths are not too
long. -/
def SpellsFolders (path : String) : Folder → Prop
  | .empty => True
  | .file _ _ rest => SpellsFolders path rest
  | .folder name inside rest =>
    Spells path name ∧ SpellsFolders (Path.join path name) inside ∧ SpellsFolders path rest

theorem spells_join_name (hn : Folder.IsPlain name) {names : List String} (hne : names ≠ [])
    (hplain : ∀ n ∈ names, Folder.IsPlain n) (hsize : name.utf8ByteSize ≤ 255) :
    Spells (Path.join path name) ("/".intercalate names) ↔
      Spells path ("/".intercalate (name :: names)) := by
  have hq := Path.isPlain_intercalate hne hplain
  have hslash : ∀ n ∈ names, '/' ∉ n.toList := fun n hmem => (hplain n hmem).2.2.2
  have hall : Path.steps ("/".intercalate (name :: names)) = name :: names :=
    Path.steps_intercalate (by simp) (List.forall_mem_cons.2 ⟨hn.2.2.2, hslash⟩)
  have hjoin := Path.join_join_name path hn hq
  rw [← String.intercalate_cons_of_ne_nil hne] at hjoin
  constructor
  · rintro ⟨hnames, hcheck⟩
    rw [Path.steps_intercalate hne hslash] at hnames
    refine ⟨?_, hjoin ▸ hcheck⟩
    rw [hall]
    exact List.forall_mem_cons.2 ⟨⟨hn, hsize⟩, hnames⟩
  · rintro ⟨hnames, hcheck⟩
    rw [hall] at hnames
    refine ⟨?_, hjoin.symm ▸ hcheck⟩
    rw [Path.steps_intercalate hne hslash]
    exact (List.forall_mem_cons.1 hnames).2

/-- A folder of a listing is its first entry, below its first entry, or in the rest. -/
theorem forall_folder_cons_iff {e : Entry} {rest : Folder} {P : Location → Prop}
    (hne : ∀ n ∈ rest.names, name ≠ n) :
    (∀ k, k ≠ [] → (Folder.cons name e rest).kind? k = some .folder → P k) ↔
      (∀ k, e.kind? k = some .folder → P (name :: k)) ∧
        ∀ k, k ≠ [] → rest.kind? k = some .folder → P k := by
  constructor
  · intro h
    refine ⟨fun k hk => h _ (by simp) (by rw [Folder.kind?_cons_entry, if_pos rfl, hk]), ?_⟩
    intro k hne' hk
    cases k with
    | nil => exact absurd rfl hne'
    | cons n k =>
      apply h _ hne'
      rw [Folder.kind?_cons_entry, if_neg, hk]
      rintro rfl
      rw [Folder.kind?_eq_none fun hmem => hne _ hmem rfl] at hk
      cases hk
  · rintro ⟨hfirst, hrest⟩ k hk hfolder
    cases k with
    | nil => exact absurd rfl hk
    | cons n k =>
      rw [Folder.kind?_cons_entry] at hfolder
      split at hfolder
      · rename_i hn
        exact hn ▸ hfirst k hfolder
      · exact hrest _ hk hfolder

/-- In whatever order folders are listed, they can be looked up if the path to each one can. -/
theorem spellsFolders_iff (hf : f.Distinct) :
    SpellsFolders path f ↔
      ∀ k, k ≠ [] → f.kind? k = some .folder → Spells path ("/".intercalate k) := by
  induction f generalizing path with
  | empty =>
    refine iff_of_true trivial fun k hk h => ?_
    cases k with
    | nil => exact absurd rfl hk
    | cons n k => cases (kind?_empty_cons n k).symm.trans h
  | file name contents rest ih =>
    obtain ⟨-, hne, hrest⟩ := hf
    rw [SpellsFolders, ih hrest, ← Folder.cons, forall_folder_cons_iff hne]
    have hfile : ∀ k, (Entry.file contents).kind? k ≠ some .folder := by
      intro k
      cases k <;> rintro ⟨⟩
    exact ⟨fun h => ⟨fun k hk => absurd hk (hfile k), h⟩, And.right⟩
  | folder name inside rest ihi ih =>
    obtain ⟨hname, hne, hinside, hrest⟩ := hf
    rw [SpellsFolders, ihi hinside, ih hrest, ← Folder.cons, forall_folder_cons_iff hne, ← and_assoc]
    refine and_congr_left' ?_
    have hbelow (hsp : Spells path name) {k : Location} (hk : k ≠ [])
        (hfolder : inside.kind? k = some .folder) :
        Spells (Path.join path name) ("/".intercalate k) ↔
          Spells path ("/".intercalate (name :: k)) :=
      spells_join_name hname hk (hinside.isPlain_of_kind? (by rw [hfolder]; rfl))
        (hsp.names name (by rw [Path.steps_name hname]; simp)).2
    constructor
    · rintro ⟨hsp, hall⟩ k hfolder
      by_cases hk : k = []
      · subst hk
        simpa using hsp
      · exact (hbelow hsp hk hfolder).1 (hall k hk hfolder)
    · intro hall
      have hsp : Spells path name := by
        have hself := hall [] (Folder.kind?_nil inside)
        simpa using hself
      exact ⟨hsp, fun k hk hfolder => (hbelow hsp hk hfolder).2 (hall k hfolder)⟩

/-- The folders below a location can be looked up below a path that leads there. -/
def SpellsBelow (d : Disk) (path : String) (l : Location) : Prop :=
  ∀ k, k ≠ [] → d.root.kind? (l ++ k) = some .folder → Spells path ("/".intercalate k)

theorem SpellsBelow.mono (h : d.SpellsBelow path l)
    (hfolder : ∀ k, d'.root.kind? (l ++ k) = some .folder → d.root.kind? (l ++ k) = some .folder) :
    d'.SpellsBelow path l :=
  fun k hk hleft => h k hk (hfolder k hleft)

theorem Spells.below_of_writes {p : String} {contents : Bytes} (h : Spells path p)
    (hfolders : d.SpellsBelow path l) (hw : d.Writes (l ++ Path.steps p) contents d') :
    d'.SpellsBelow path l := by
  intro k hk hfolder
  by_cases hpre : l ++ k <+: l ++ Path.steps p
  · exact h.of_prefix ((List.prefix_append_right_inj l).1 hpre) hk
  · rw [hw.other hpre] at hfolder
    exact hfolders k hk hfolder

theorem Lists.spellsFolders_iff (h : d.Lists l f) :
    SpellsFolders path f ↔ d.SpellsBelow path l := by
  rw [Disk.spellsFolders_iff h.distinct]
  unfold SpellsBelow
  simp only [h.kind?]

theorem spells_of_resolve {base p : String} (hp : Path.IsPlain p)
    (h : d.resolve (Path.join base p) = .ok l) : Spells base p := by
  obtain ⟨u, hcheck, h⟩ := Except.bind_eq_ok.1 h
  obtain ⟨front, hsteps, -, -⟩ := Path.steps_join base hp
  rw [hsteps, List.foldlM_append] at h
  obtain ⟨m, -, h⟩ := Except.bind_eq_ok.1 h
  exact ⟨fun s hs => ⟨hp s hs, size_of_foldlM_step hp h s hs⟩, hcheck⟩

theorem resolve_join_name (hb : d.resolve path = .ok l) (hl : d.root.kind? l = some .folder)
    (hsp : Spells path name) (hn : Folder.IsPlain name)
    (hname : d.root.kind? (l ++ [name]) = some .folder) :
    d.resolve (Path.join path name) = .ok (l ++ [name]) := by
  rw [← Path.steps_name hn]
  apply resolve_join_eq_ok hb hl hsp
  rw [Path.steps_name hn, hname]
  rfl

theorem removeFolder_join (hb : d.resolve path = .ok l) (hl : d.root.kind? l = some .folder)
    (hsp : Spells path name) (hn : Folder.IsPlain name)
    (hat : d.root.at? (l ++ [name]) = some (.folder .empty)) :
    d.removeFolder (Path.join path name) = .ok (d.remove (l ++ [name])) := by
  have hsteps : Path.steps name = [] ++ [name] := Path.steps_name hn
  have hspot := spot_join_eq_ok hb hl hsp hsteps (by rwa [List.append_nil])
  rw [List.append_nil] at hspot
  have hsize := (hsp.names name (by rw [hsteps]; simp)).2
  obtain ⟨hempty, hdot, hup, -⟩ := hn
  have hlocation : (Spot.mk l name false).location = l ++ [name] := rfl
  rw [removeFolder, hspot, Except.ok_bind, if_neg hdot, if_neg hup, if_neg hempty,
    checkName_eq_ok.2 hsize, Except.ok_bind, hlocation, hat]
  rfl

theorem kind?_of_pruned {k : Location} (hf : f.Distinct)
    (h : f.pruned.kind? k = some .folder) : f.kind? k = some .folder := by
  rcases (Folder.kind?_eq_folder (Folder.distinct_pruned hf) (Folder.trimmed_pruned f)).1 h with
    rfl | ⟨m, c, hm, hc⟩
  · exact Folder.kind?_nil f
  · rw [Folder.fileAt?_pruned hf] at hc
    exact Folder.kind?_of_append (by rw [Folder.fileAt?_eq_some.1 hc]; rfl) hm

theorem kind?_of_view (hview : ∀ k, d.root.kind? (l ++ k) = inside.kind? k) :
    d.root.kind? l = some .folder := by
  have hself := hview []
  rwa [List.append_nil, Folder.kind?_nil] at hself

theorem kind?_put_pruned (hl : d.root.kind? l = some .folder) (k : Location) :
    (d.put l (.folder f.pruned)).root.kind? (l ++ k) = f.pruned.kind? k := by
  rw [kind?_put_folder _ hl, if_pos (List.prefix_append l k), List.drop_left]

theorem keeps_put_pruned (hf : inside.Distinct)
    (hview : ∀ k, d.root.kind? (l ++ k) = inside.kind? k) :
    (d.put l (.folder inside.pruned)).Keeps d := by
  have hl := kind?_of_view hview
  refine ⟨rfl, fun k hk => ?_⟩
  by_cases hpre : l <+: k
  · obtain ⟨m, rfl⟩ := hpre
    rw [kind?_put_pruned hl] at hk
    rw [hview, kind?_of_pruned hf hk]
  · rwa [kind?_put_folder _ hl, if_neg hpre] at hk

theorem has_put_pruned (hup : ".." ∉ Path.steps path) (hresolve : d.resolve path = .ok l)
    (hl : d.root.kind? l = some .folder) : (d.put l (.folder f.pruned)).has path = true := by
  have hself := kind?_of_view (kind?_put_pruned (f := f) hl)
  have hlocate : Path.locate (d.put l (.folder f.pruned)).current path = l := by
    rw [current_put, ← (resolve_eq_ok hresolve).1]
  rw [has_iff, hlocate]
  exact resolve_of_folder hup (current_put d l _).symm hresolve hself

end Disk

namespace Session

variable {d d' core : Disk} {path : String} {l : Location} {inside f : Folder} {name : String}
  {bare : Bool}

theorem spellsFolders_of_pruneEach (hf : f.Distinct)
    (h : runOn (pruneEach path f) d = (.ok bare, d')) : Disk.SpellsFolders path f := by
  induction f generalizing path d d' bare with
  | empty => trivial
  | file name contents rest ih =>
    obtain ⟨others, d1, hrun, -⟩ := runOn_bind_eq_ok.1 h
    exact ih hf.2.2 hrun
  | folder name inside rest ihi ih =>
    obtain ⟨hname, -, hinside, hrest⟩ := hf
    obtain ⟨others, d1, g, left, d2, hrun, hget, hbelow, -⟩ := pruneEach_folder_eq_ok h
    have hresolve := (Disk.get_eq_ok (Disk.getFolder_eq_ok.1 hget)).1
    exact ⟨Disk.spells_of_resolve (Path.isPlain_name hname) hresolve, ihi hinside hbelow,
      ih hrest hrun⟩

/-- The folders that a disk has below a location are among those that pruning leaves there. -/
def Spares (core : Disk) (l : Location) (f : Folder) : Prop :=
  ∀ n ∈ f.names, ∀ k, core.root.kind? (l ++ n :: k) = some .folder →
    f.pruned.kind? (n :: k) = some .folder

section Spares

variable {rest : Folder} {e : Entry} {d1 : Disk}

theorem Spares.others (hne : ∀ n ∈ rest.names, name ≠ n) (h : Spares core l (.cons name e rest)) :
    Spares core l rest := by
  intro n hn k hk
  have hleft := h n (by rw [Folder.names_cons]; exact List.mem_cons_of_mem _ hn) k hk
  cases e with
  | file contents =>
    rw [Folder.cons, Folder.pruned, ← Folder.cons, Folder.kind?_cons_entry, if_neg (hne n hn)] at hleft
    exact hleft
  | folder inside =>
    rw [Folder.cons, Folder.pruned] at hleft
    split at hleft
    · exact hleft
    · rw [← Folder.cons, Folder.kind?_cons_entry, if_neg (hne n hn)] at hleft
      exact hleft

theorem Spares.below (hne : ∀ n ∈ rest.names, name ≠ n)
    (h : Spares core l (.folder name inside rest)) {k : Location}
    (hk : core.root.kind? (l ++ name :: k) = some .folder) : inside.pruned.kind? k = some .folder := by
  have hleft := h name List.mem_cons_self k hk
  rw [Folder.pruned] at hleft
  split at hleft
  · rw [Folder.kind?_eq_none] at hleft
    · cases hleft
    · exact fun hmem => hne _ (Folder.names_pruned_subset hmem) rfl
  · rw [← Folder.cons, Folder.kind?_cons_entry, if_pos rfl] at hleft
    exact hleft

theorem Spares.keeps_put (hne : ∀ n ∈ rest.names, name ≠ n)
    (h : Spares core l (.folder name inside rest)) (hcore : core.Keeps d)
    (hfolder : d.root.kind? (l ++ [name]) = some .folder) :
    core.Keeps (d.put (l ++ [name]) (.folder inside.pruned)) := by
  refine ⟨hcore.current, fun k hk => ?_⟩
  by_cases hpre : l ++ [name] <+: k
  · obtain ⟨m, rfl⟩ := hpre
    rw [Disk.kind?_put_pruned hfolder]
    rw [← List.append_cons] at hk
    exact h.below hne hk
  · rw [Disk.kind?_put_folder _ hfolder, if_neg hpre]
    exact hcore.folder k hk

theorem Prunes.keeps (h : Prunes l f d d') (hcore : core.Keeps d) (hspares : Spares core l f) :
    core.Keeps d' := by
  refine ⟨h.current.trans hcore.current, fun k hk => ?_⟩
  by_cases hbelow : ∃ n ∈ f.names, l ++ [n] <+: k
  · obtain ⟨n, hn, m, rfl⟩ := hbelow
    rw [← List.append_cons] at hk ⊢
    rw [h.inside n hn]
    exact hspares n hn m hk
  · rw [h.outside k fun n hn hpre => hbelow ⟨n, hn, hpre⟩]
    exact hcore.folder k hk

section Leads

variable (hne : ∀ n ∈ rest.names, name ≠ n) (hname : Folder.IsPlain name)
  (hspares : Spares core l (.folder name inside rest)) (hresolve : core.resolve path = .ok l)
  (hl : core.root.kind? l = some .folder) (hsp : Disk.Spells path name)

include hne hname hspares hresolve hl hsp

/-- The path leads on to a folder whatever goes away below it: what stays there is what stays on the
disk on which the folder is pruned already. -/
theorem Spares.leads_below (hcore : core.Keeps d) (hinside : inside.Distinct)
    (hview : ∀ k, d.root.kind? (l ++ [name] ++ k) = inside.kind? k) :
    ∃ left : Disk, left.Keeps d ∧ left.resolve (Path.join path name) = .ok (l ++ [name]) ∧
      left.root.kind? (l ++ [name]) = some .folder ∧ Spares left (l ++ [name]) inside := by
  have hself := Disk.kind?_of_view hview
  have hcoreLeft := hspares.keeps_put hne hcore hself
  have hselfLeft := Disk.kind?_of_view (Disk.kind?_put_pruned (f := inside) hself)
  refine ⟨_, Disk.keeps_put_pruned hinside hview, ?_, hselfLeft, fun n _ k hk => ?_⟩
  · exact Disk.resolve_join_name (hcoreLeft.resolve hresolve hl) (hcoreLeft.folder l hl) hsp hname
      hselfLeft
  · rwa [Disk.kind?_put_pruned hself] at hk

theorem Spares.removeFolder_of_bare {d2 : Disk} (hcore : core.Keeps d1) (h1 : Prunes l rest d d1)
    (h2 : Prunes (l ++ [name]) inside d1 d2) (hbare : inside.pruned = .empty)
    (hview : ∀ k, d.root.kind? (l ++ name :: k) = (Folder.folder name inside rest).kind? (name :: k)) :
    d2.removeFolder (Path.join path name) = .ok (d2.remove (l ++ [name])) := by
  have hcore2 : core.Keeps d2 := h2.keeps hcore
    fun n _ k hk => hspares.below hne (by rwa [List.append_cons])
  exact Disk.removeFolder_join (hcore2.resolve hresolve hl) (hcore2.folder l hl) hsp hname
    (at?_of_bare hne h1 h2 hbare hview)

end Leads

end Spares

/-- Pruning goes on over a folder that is found, if it can be removed where it is left bare. -/
theorem pruneEach_folder {rest : Folder} {others : Bool} {d1 d2 : Disk}
    (hrun : runOn (pruneEach path rest) d = (.ok others, d1))
    (hget : ∃ g, d1.getFolder (Path.join path name) = .ok g)
    (hbelow : runOn (pruneEach (Path.join path name) inside) d1 = (.ok bare, d2))
    (hremove : bare = true → ∃ d3, d2.removeFolder (Path.join path name) = .ok d3) :
    ∃ bare d', runOn (pruneEach path (.folder name inside rest)) d = (.ok bare, d') := by
  obtain ⟨g, hg⟩ := hget
  cases bare with
  | false =>
    exact ⟨false, d2, runOn_bind_eq_ok.2 ⟨others, d1, hrun, look_bind_eq_ok.2 ⟨g, hg,
      runOn_bind_eq_ok.2 ⟨false, d2, hbelow, rfl⟩⟩⟩⟩
  | true =>
    obtain ⟨d3, hd3⟩ := hremove rfl
    refine ⟨others, d3, runOn_bind_eq_ok.2 ⟨others, d1, hrun, look_bind_eq_ok.2 ⟨g, hg,
      runOn_bind_eq_ok.2 ⟨true, d2, hbelow, ?_⟩⟩⟩⟩
    rw [if_pos rfl, runOn_bind, runOn_change, hd3]
    rfl

/-- Pruning succeeds as long as the path leads to the folder over folders that stay. -/
theorem pruneEach_succeeds (hd : d.root.WellFormed) (hf : f.Distinct)
    (hview : ∀ n ∈ f.names, ∀ k, d.root.kind? (l ++ n :: k) = f.kind? (n :: k))
    (hcore : core.Keeps d) (hresolve : core.resolve path = .ok l)
    (hl : core.root.kind? l = some .folder) (hspares : Spares core l f)
    (hspells : Disk.SpellsFolders path f) :
    ∃ bare d', runOn (pruneEach path f) d = (.ok bare, d') := by
  induction f generalizing path l d core with
  | empty => exact ⟨true, d, rfl⟩
  | file name contents rest ih =>
    obtain ⟨hname, hne, hrest⟩ := hf
    obtain ⟨others, d1, hrun⟩ := ih hd hrest (view_rest (e := .file contents) hne hview) hcore
      hresolve hl (hspares.others (e := .file contents) hne) hspells
    exact ⟨false, d1, runOn_bind_eq_ok.2 ⟨others, d1, hrun, rfl⟩⟩
  | folder name inside rest ihi ih =>
    obtain ⟨hname, hne, hinside, hrest⟩ := hf
    obtain ⟨hsp, hspellsBelow, hspellsRest⟩ := hspells
    have hviewRest := view_rest (e := .folder inside) hne hview
    have hsparesRest := hspares.others (e := .folder inside) hne
    obtain ⟨others, d1, hrun⟩ := ih hd hrest hviewRest hcore hresolve hl hsparesRest hspellsRest
    have hlocate : Path.locate d.current path = l := by
      rw [hcore.current, (Disk.resolve_eq_ok hresolve).1]
    obtain ⟨h1, -⟩ := pruneEach_eq_ok hd hrest (hlocate.symm ▸ hviewRest) hrun
    rw [hlocate] at h1
    have hcore1 := h1.keeps hcore hsparesRest
    have hview1 (k : Location) : d1.root.kind? (l ++ [name] ++ k) = inside.kind? k := by
      rw [← List.append_cons]
      exact h1.view hne (hview name List.mem_cons_self) k
    obtain ⟨left, hleft, hresolveLeft, hselfLeft, hsparesLeft⟩ :=
      hspares.leads_below hne hname hresolve hl hsp hcore1 hinside hview1
    obtain ⟨bare, d2, hbelow⟩ := ihi h1.wellFormed hinside (fun n _ k => hview1 (n :: k)) hleft
      hresolveLeft hselfLeft hsparesLeft hspellsBelow
    have hresolve1 := hleft.resolve hresolveLeft hselfLeft
    apply pruneEach_folder hrun _ hbelow
    · rintro rfl
      have hlocate1 := (Disk.resolve_eq_ok hresolve1).1
      obtain ⟨h2, hbare⟩ := pruneEach_eq_ok h1.wellFormed hinside
        (fun n _ k => by rw [← hlocate1]; exact hview1 (n :: k)) hbelow
      rw [← hlocate1] at h2
      exact ⟨_, hspares.removeFolder_of_bare hne hname hresolve hl hsp hcore1 h1 h2
        (of_decide_eq_true hbare.symm) (hview name List.mem_cons_self)⟩
    · obtain ⟨g, hg⟩ := Disk.at?_of_folder (Disk.kind?_of_view hview1)
      exact ⟨g, Disk.getFolder_of_resolve hresolve1 hg⟩

end Session

end StubLinker
