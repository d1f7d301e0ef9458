import StubLinker.Proofs.Disk.Session
import StubLinker.Proofs.Disk.Tidy

namespace StubLinker

namespace Path

variable {path a b : String} {names : List String} {k : Nat}

def counted (path : String) : List String :=
  (steps path).filter counts

/-- The first path is above the second: it starts as that one does, and stops before a step that leads
elsewhere. -/
def IsAbove (a path : String) : Prop :=
  isAbsolute a = isAbsolute path ∧ ∃ rest, rest ≠ [] ∧ counted path = counted a ++ rest

theorem IsAbove.trans (h : IsAbove a b) (h' : IsAbove b path) : IsAbove a path := by
  obtain ⟨habs, rest, hne, hb⟩ := h
  obtain ⟨habs', rest', -, hpath⟩ := h'
  exact ⟨habs.trans habs', rest ++ rest', by simp [hne], by rw [hpath, hb, List.append_assoc]⟩

theorem foldl_walk_filter (names : List String) (l : Location) :
    (names.filter counts).foldl walk l = names.foldl walk l := by
  induction names generalizing l with
  | nil => rfl
  | cons s names ih =>
    by_cases hs : counts s = true
    · rw [List.filter_cons_of_pos hs, List.foldl_cons, List.foldl_cons, ih]
    · have hstay : s = "" ∨ s = "." := by
        by_cases hempty : s = ""
        · exact .inl hempty
        · exact .inr (by simpa [counts, hempty] using hs)
      rw [List.filter_cons_of_neg hs, List.foldl_cons, walk, if_pos hstay, ih]

theorem locate_eq (current : Location) (path : String) :
    locate current path = (counted path).foldl walk (if isAbsolute path then [] else current) :=
  (foldl_walk_filter _ _).symm

theorem counted_ofComponents (absolute : Bool) (hcs : ∀ c ∈ names, c ≠ "" ∧ '/' ∉ c.toList)
    (h : absolute = false → names ≠ []) : isAbsolute (ofComponents absolute names) = absolute ∧
      counted (ofComponents absolute names) = names.filter counts := by
  have hslash : ∀ c ∈ names, '/' ∉ c.toList := fun c hc => (hcs c hc).2
  cases absolute with
  | true =>
    refine ⟨isAbsolute_iff.2 ⟨_, rfl⟩, ?_⟩
    have hempty : [""].filter counts = [] := by decide
    rw [counted, steps_absolute hslash, List.filter_cons_of_neg (by decide)]
    split
    · rename_i hnil
      rw [hnil, hempty]
      rfl
    · rfl
  | false =>
    have hsteps : steps (ofComponents false names) = names := by
      rw [ofComponents_relative, steps_intercalate (h rfl) hslash]
    refine ⟨?_, by rw [counted, hsteps]⟩
    obtain ⟨c, cs, rfl⟩ := List.exists_cons_of_ne_nil (h rfl)
    have hne := ofComponents_ne_empty (fun c hc => (hcs c hc).1) h
    rw [Bool.eq_false_iff]
    exact fun habs => (hcs c List.mem_cons_self).1 ((isAbsolute_iff_steps hsteps hne).1 habs)

theorem filter_components (path : String) : (components path).filter counts = counted path := by
  obtain ⟨s, rest, hs⟩ := exists_steps path
  have hrest : (rest.filter counts).filter counts = rest.filter counts := by
    rw [List.filter_filter]
    simp
  rw [components_eq hs, List.filter_append, hrest, counted, hs]
  split
  · rename_i hempty
    rw [hempty, List.filter_cons_of_neg (by decide)]
    rfl
  · rw [← List.filter_append]
    rfl

theorem counts_of_mem_drop (hk : isAbsolute path = true ∨ k ≠ 0) {s : String}
    (hs : s ∈ (components path).drop k) : counts s = true := by
  obtain ⟨first, rest, hsteps⟩ := exists_steps path
  rw [components_eq hsteps] at hs
  by_cases hempty : first = ""
  · rw [if_pos hempty, List.nil_append] at hs
    exact (List.mem_filter.1 (List.mem_of_mem_drop hs)).2
  · rw [if_neg hempty, List.singleton_append] at hs
    rcases hk with habs | hk
    · have hpath : path ≠ "" := by
        rintro rfl
        exact absurd habs (by decide)
      exact absurd ((isAbsolute_iff_steps hsteps hpath).1 habs) hempty
    · obtain ⟨k, rfl⟩ := Nat.exists_eq_succ_of_ne_zero hk
      rw [List.drop_succ_cons] at hs
      exact (List.mem_filter.1 (List.mem_of_mem_drop hs)).2

theorem isAbove_of_take (hk : k < (components path).length)
    (hne : ofComponents (isAbsolute path) ((components path).take k) ≠ "") :
    IsAbove (ofComponents (isAbsolute path) ((components path).take k)) path := by
  have hstart : isAbsolute path = true ∨ (components path).take k ≠ [] := by
    cases habs : isAbsolute path with
    | true => exact .inl rfl
    | false =>
      refine .inr fun hnil => ?_
      rw [habs, hnil] at hne
      exact hne rfl
  obtain ⟨habs, hcounted⟩ := counted_ofComponents (isAbsolute path)
    (fun c hc => of_mem_components (List.mem_of_mem_take hc))
    fun hrelative => hstart.resolve_left (by simp [hrelative])
  have hdrop : ((components path).drop k).filter counts = (components path).drop k := by
    refine List.filter_eq_self.2 fun s hs => counts_of_mem_drop (hstart.imp_right ?_) hs
    rintro htake rfl
    exact htake List.take_zero
  refine ⟨habs, (components path).drop k, ?_, ?_⟩
  · rw [← List.length_pos_iff, List.length_drop]
    omega
  · rw [hcounted, ← hdrop, ← List.filter_append, List.take_append_drop, filter_components]

theorem isAbove_of_mem_ancestors (h : a ∈ ancestors path) : IsAbove a path := by
  obtain ⟨hmem, hne⟩ := List.mem_filter.1 h
  obtain ⟨k, hk, rfl⟩ := List.mem_map.1 hmem
  rw [List.mem_reverse, List.mem_range] at hk
  exact isAbove_of_take hk (by simpa using hne)

theorem folder_cases (path : String) : folder path = "." ∨ IsAbove (folder path) path := by
  unfold folder parent?
  split
  · exact .inl rfl
  · rename_i hparent
    split at hparent
    · cases hparent
    · rename_i hne
      cases hparent
      split
      · exact .inl rfl
      · rename_i hempty
        rw [List.dropLast_eq_take] at hempty ⊢
        refine .inr (isAbove_of_take ?_ (by simpa using hempty))
        have hpos := List.length_pos_iff.2 hne
        omega

theorem of_mem_above (h : a ∈ folder path :: ancestors (folder path)) :
    a = "." ∨ IsAbove a path := by
  rcases folder_cases path with hfolder | hfolder
  · have hnone : ancestors "." = [] := by decide
    rw [hfolder, hnone] at h
    exact .inl (List.mem_singleton.1 h)
  · rcases List.mem_cons.1 h with rfl | h
    · exact .inr hfolder
    · exact .inr ((isAbove_of_mem_ancestors h).trans hfolder)

end Path

namespace Disk

variable {d d' : Disk} {path a : String} {l k : Location} {names front rest : List String} {s : String}

/-- A folder is made at the place of its path, where nothing was, and in a folder: so the path starts
from one. -/
theorem makeFolder_place (h : d.makeFolder path = .ok d') :
    d.root.kind? (d.start path) = some .folder ∧
      d.root.kind? (Path.locate d.current path) = none ∧
      ∀ k, k ≠ Path.locate d.current path → d'.root.kind? k = d.root.kind? k := by
  obtain ⟨s, hs, hplace, -, hnone, rfl⟩ := makeFolder_spot h
  obtain ⟨front, blank, -, -, -, hfront, hfolder⟩ := spot_eq_ok hs hplace
  rw [← spot_location hs hplace]
  refine ⟨?_, hnone, fun k hk => ?_⟩
  · obtain ⟨hwalk, hstart⟩ := foldlM_step_eq_ok hfront
    cases front with
    | nil =>
      rw [hwalk] at hfolder
      exact hfolder
    | cons s front => exact (hstart (List.cons_ne_nil s front)).1
  · have hfree : d.root.kind? (s.folder ++ [s.name]) ≠ some .folder := by
      rw [← Spot.location, hnone]
      simp
    rw [Spot.location, kind?_put_bare hfolder hfree kind?_empty_cons]
    exact if_neg hk

theorem makeFolder_dot (d d' : Disk) : d.makeFolder "." ≠ .ok d' := by
  intro h
  obtain ⟨s, hs, hplace, -⟩ := makeFolder_spot h
  have hsteps : Path.steps "." = [] ++ "." :: [] := by decide
  have hname := spot_name hsteps (by decide) (by simp) hs
  simp [Spot.isSpecial, hname] at hplace

theorem isSome_of_foldlM_step (hl : d.root.kind? l = some .folder)
    (h : names.foldlM d.step l = .ok k) : (d.root.kind? k).isSome = true := by
  cases names with
  | nil =>
    cases h
    rw [hl]
    rfl
  | cons s names => exact ((foldlM_step_eq_ok h).2 (List.cons_ne_nil s names)).2

theorem locate_eq_of_counted (h : Path.isAbsolute a = Path.isAbsolute path) :
    Path.locate d.current a = (Path.counted a).foldl Path.walk (d.start path) := by
  rw [Path.locate_eq, ← start_of_isAbsolute d h, start]

theorem makeFolder_of_counted (habs : Path.isAbsolute a = Path.isAbsolute path)
    (h : (Path.counted a).foldlM d.step (d.start path) = .ok l) : d.makeFolder a ≠ .ok d' := by
  intro hmake
  obtain ⟨hstart, hnone, -⟩ := makeFolder_place hmake
  rw [start_of_isAbsolute d habs] at hstart
  have hsome := isSome_of_foldlM_step hstart h
  rw [(foldlM_step_eq_ok h).1, ← locate_eq_of_counted habs, hnone] at hsome
  cases hsome

theorem makeFolder_above (h : d.has path = true) (ha : Path.IsAbove a path) :
    d.makeFolder a ≠ .ok d' := by
  obtain ⟨habs, rest, -, hcounted⟩ := ha
  obtain ⟨u, -, hresolve⟩ := Except.bind_eq_ok.1 (has_iff.1 h)
  have hsteps := foldlM_step_filter hresolve
  rw [← Path.counted, hcounted, List.foldlM_append] at hsteps
  obtain ⟨l, hfront, -⟩ := Except.bind_eq_ok.1 hsteps
  exact makeFolder_of_counted habs hfront

/-- A path steps back only out of what is there. -/
def Steady (d : Disk) (path : String) : Prop :=
  ∀ front rest, Path.steps path = front ++ ".." :: rest →
    ∃ l, front.foldlM d.step (d.start path) = .ok l

theorem steady_of_onward (h : ".." ∉ Path.steps path) : d.Steady path := by
  intro front rest hpath
  rw [hpath] at h
  exact absurd (List.mem_append_right front List.mem_cons_self) h

/-- A path breaks off at a name that is missing, and does not step back behind it. -/
structure BreaksOff (d : Disk) (path : String) (front : List String) (s : String)
    (rest : List String) (l : Location) : Prop where
  steps : Path.steps path = front ++ s :: rest
  front : front.foldlM d.step (d.start path) = .ok l
  plain : Folder.IsPlain s
  missing : d.root.kind? (l ++ [s]) = none
  onward : ".." ∉ rest

/-- A path that leads to something only on a disk that has grown breaks off on the disk before. -/
theorem Grows.exists_breaksOff (hgrows : d.Grows d') (hsteady : d.Steady path)
    (hstart : d.root.kind? (d.start path) = some .folder) (h : d.has path = false)
    (h' : d'.has path = true) :
    ∃ front s rest l, d.BreaksOff path front s rest l := by
  obtain ⟨u, hcheck, hsteps'⟩ := Except.bind_eq_ok.1 (has_iff.1 h')
  have hfail (l : Location) : (Path.steps path).foldlM d.step (d.start path) ≠ .ok l := by
    intro hsteps
    rw [has_of_resolve (Except.bind_eq_ok.2 ⟨u, hcheck, hsteps⟩)] at h
    cases h
  cases hsteps : (Path.steps path).foldlM d.step (d.start path) with
  | ok l => exact absurd hsteps (hfail l)
  | error e =>
    -- the walk breaks off at the first step that fails, which the grown disk allows
    obtain ⟨front, s, rest, l, hpath, hfront, hstep⟩ := Except.foldlM_eq_error hsteps
    have hl : l = front.foldl Path.walk (d.start path) := (foldlM_step_eq_ok hfront).1
    rw [hpath, start_of_current hgrows.current, List.foldlM_append] at hsteps'
    obtain ⟨l', hfront', hsteps'⟩ := Except.bind_eq_ok.1 hsteps'
    rw [(foldlM_step_eq_ok hfront').1, ← hl, List.foldlM_cons] at hsteps'
    obtain ⟨m, hstep', -⟩ := Except.bind_eq_ok.1 hsteps'
    obtain ⟨hfolder', -, hcase⟩ := step_eq_ok_iff.1 hstep'
    have hfolder : d.root.kind? l = some .folder := by
      have hsome := isSome_of_foldlM_step hstart hfront
      rcases hgrows.kind? l with hsame | ⟨hnone, -⟩
      · exact hsame.symm.trans hfolder'
      · rw [hnone] at hsome
        cases hsome
    have hno (hok : (s = "" ∨ s = ".") ∨ s = ".." ∨
        s.utf8ByteSize ≤ 255 ∧ (d.root.kind? (l ++ [s])).isSome = true) : False := by
      rw [step_eq_ok_iff.2 ⟨hfolder, rfl, hok⟩] at hstep
      cases hstep
    have hstay : ¬(s = "" ∨ s = ".") := fun hs => hno (.inl hs)
    have hup : s ≠ ".." := fun hs => hno (.inr (.inl hs))
    have hmem : s ∈ Path.steps path := by
      rw [hpath]
      exact List.mem_append_right front List.mem_cons_self
    have hslash := Path.not_mem_of_mem_steps hmem
    refine ⟨front, s, rest, l, hpath, hfront, ⟨not_or.1 hstay |>.1, not_or.1 hstay |>.2, hup, hslash⟩,
      ?_, fun hback => ?_⟩
    · refine Option.not_isSome_iff_eq_none.1 fun hsome => hno (.inr (.inr ⟨?_, hsome⟩))
      exact ((hcase.resolve_left hstay).resolve_left hup).1
    · obtain ⟨r, r', rfl⟩ := List.append_of_mem hback
      obtain ⟨k, hk⟩ := hsteady (front ++ s :: r) r' (by rw [hpath]; simp)
      rw [List.foldlM_append, hfront, Except.ok_bind, List.foldlM_cons, hstep] at hk
      cases hk

namespace BreaksOff

variable (h : d.BreaksOff path front s rest l)
include h

theorem isPlain_of_mem {n : String} (hn : n ∈ rest.filter Path.counts) : Folder.IsPlain n := by
  obtain ⟨hmem, hcounts⟩ := List.mem_filter.1 hn
  simp only [Path.counts, Bool.and_eq_true, bne_iff_ne] at hcounts
  have hstep : n ∈ Path.steps path := by
    rw [h.steps]
    exact List.mem_append_right front (List.mem_cons_of_mem s hmem)
  exact ⟨hcounts.1, hcounts.2, fun hup => h.onward (hup ▸ hmem), Path.not_mem_of_mem_steps hstep⟩

theorem counted_eq : Path.counted path = front.filter Path.counts ++ s :: rest.filter Path.counts := by
  obtain ⟨hempty, hdot, -⟩ := h.plain
  have hcounts : Path.counts s = true := by simp [Path.counts, hempty, hdot]
  rw [Path.counted, h.steps, List.filter_append, List.filter_cons_of_pos hcounts]

theorem foldl_walk {names : List String} (hnames : ∀ n ∈ names, Folder.IsPlain n) :
    (front.filter Path.counts ++ s :: names).foldl Path.walk (d.start path) = l ++ s :: names := by
  rw [List.foldl_append, Path.foldl_walk_filter, ← (foldlM_step_eq_ok h.front).1,
    Path.foldl_walk_plain (List.forall_mem_cons.2 ⟨h.plain, hnames⟩)]

theorem locate_eq : Path.locate d.current path = l ++ s :: rest.filter Path.counts := by
  rw [locate_eq_of_counted rfl, h.counted_eq, h.foldl_walk fun _ => h.isPlain_of_mem]

theorem kind?_locate : d.root.kind? (Path.locate d.current path) = none := by
  rw [h.locate_eq, List.append_cons]
  by_cases hnil : rest.filter Path.counts = []
  · rw [hnil, List.append_nil, h.missing]
  · exact kind?_below (by rw [h.missing]; simp) (List.prefix_append _ _) (by simpa using Ne.symm hnil)

theorem locate_above_ne (hstart : d.root.kind? (d.start path) = some .folder)
    (ha : Path.IsAbove a path) : Path.locate d.current a ≠ Path.locate d.current path := by
  intro heq
  obtain ⟨habs, tail, htail, hcounted⟩ := ha
  have hbefore : ¬Path.counted a <+: front.filter Path.counts := by
    rintro ⟨c, hc⟩
    have hsteps := foldlM_step_filter h.front
    rw [← hc, List.foldlM_append] at hsteps
    obtain ⟨k, hk, -⟩ := Except.bind_eq_ok.1 hsteps
    have hsome := isSome_of_foldlM_step hstart hk
    rw [(foldlM_step_eq_ok hk).1, ← locate_eq_of_counted habs, heq, h.kind?_locate] at hsome
    cases hsome
  rw [h.counted_eq] at hcounted
  rcases List.append_eq_append_iff.1 hcounted with ⟨c, ha, hc⟩ | ⟨c, hfront, -⟩
  · cases c with
    | nil => exact hbefore ⟨[], by simpa using ha⟩
    | cons t c =>
      obtain ⟨rfl, hrest⟩ := List.cons.inj hc
      have hplain : ∀ n ∈ c, Folder.IsPlain n := fun n hn =>
        h.isPlain_of_mem (by rw [hrest]; exact List.mem_append_left tail hn)
      rw [locate_eq_of_counted habs, ha, h.foldl_walk hplain, h.locate_eq, hrest] at heq
      exact htail (by simpa using heq)
  · exact hbefore ⟨c, hfront.symm⟩

end BreaksOff

end Disk

namespace Session

variable {d d' : Disk} {path a : String} {above : List String} {k : Location}

theorem makeFolderBelow_of_stuck (h : ∀ a ∈ path :: above, ∀ d', d.makeFolder a ≠ .ok d') :
    (runOn (makeFolderBelow path above) d).2 = d := by
  have hensure {a : String} (ha : ∀ d', d.makeFolder a ≠ .ok d') :
      (runOn (ensureFolder a) d).2 = d := by
    rw [runOn_ensureFolder]
    cases hm : d.makeFolder a with
    | ok made => exact absurd hm (ha made)
    | error e =>
      dsimp only
      split <;> rfl
  induction above generalizing path with
  | nil => exact hensure (h path List.mem_cons_self)
  | cons nearest above ih =>
    obtain ⟨hpath, habove⟩ := List.forall_mem_cons.1 h
    rw [makeFolderBelow, runOn_bind, runOn_get]
    dsimp only
    split
    · have hfirst := ih habove
      rw [runOn_bind]
      rcases hrun : runOn (makeFolderBelow nearest above) d with ⟨_ | u, d1⟩
      · rw [hrun] at hfirst
        exact hfirst
      · rw [hrun] at hfirst
        cases hfirst
        exact hensure hpath
    · exact hensure hpath

theorem kind?_ensureFolder (path : String) (d : Disk) (k : Location) :
    (runOn (ensureFolder path) d).2.root.kind? k = d.root.kind? k ∨
      path ≠ "." ∧ k = Path.locate d.current path := by
  rw [runOn_ensureFolder]
  cases hm : d.makeFolder path with
  | ok made =>
    obtain ⟨-, -, hother⟩ := Disk.makeFolder_place hm
    by_cases hk : k = Path.locate d.current path
    · refine .inr ⟨?_, hk⟩
      rintro rfl
      exact Disk.makeFolder_dot d made hm
    · exact .inl (hother k hk)
  | error e =>
    dsimp only
    split <;> exact .inl rfl

theorem kind?_makeFolderBelow (path : String) (above : List String) (d : Disk) (k : Location) :
    (runOn (makeFolderBelow path above) d).2.root.kind? k = d.root.kind? k ∨
      ∃ a ∈ path :: above, a ≠ "." ∧ k = Path.locate d.current a := by
  induction above generalizing path with
  | nil => exact (kind?_ensureFolder path d k).imp_right fun h => ⟨path, List.mem_cons_self, h⟩
  | cons nearest above ih =>
    rw [makeFolderBelow, runOn_bind, runOn_get]
    dsimp only
    split
    · have hfirst := ih nearest
      have hcurrent := (makes_makeFolderBelow nearest above d).1.current
      have hmore (h : ∃ a ∈ nearest :: above, a ≠ "." ∧ k = Path.locate d.current a) :
          ∃ a ∈ path :: nearest :: above, a ≠ "." ∧ k = Path.locate d.current a :=
        h.imp fun a ha => ⟨List.mem_cons_of_mem path ha.1, ha.2⟩
      rw [runOn_bind]
      rcases hrun : runOn (makeFolderBelow nearest above) d with ⟨_ | u, d1⟩
      · rw [hrun] at hfirst
        exact hfirst.imp_right hmore
      · rw [hrun] at hfirst hcurrent
        rcases kind?_ensureFolder path d1 k with hk | ⟨hdot, hk⟩
        · rw [← hk] at hfirst
          exact hfirst.imp_right hmore
        · exact .inr ⟨path, List.mem_cons_self, hdot, hcurrent ▸ hk⟩
    · exact (kind?_ensureFolder path d k).imp_right fun h => ⟨path, List.mem_cons_self, h⟩

theorem makeFolders_of_stuck (h : ∀ a, Path.IsAbove a path → ∀ d', d.makeFolder a ≠ .ok d') :
    (runOn (makeFolders (Path.folder path)) d).2 = d := by
  unfold makeFolders
  split
  · rfl
  · refine makeFolderBelow_of_stuck fun a ha => ?_
    rcases Path.of_mem_above ha with rfl | ha
    · exact d.makeFolder_dot
    · exact h a ha

theorem kind?_makeFolders (path : String) (d : Disk) (k : Location) :
    (runOn (makeFolders (Path.folder path)) d).2.root.kind? k = d.root.kind? k ∨
      ∃ a, Path.IsAbove a path ∧ k = Path.locate d.current a := by
  unfold makeFolders
  split
  · exact .inl rfl
  · refine (kind?_makeFolderBelow _ _ d k).imp_right ?_
    rintro ⟨a, ha, hdot, hk⟩
    exact ⟨a, (Path.of_mem_above ha).resolve_left hdot, hk⟩

theorem makeFolders_of_has (h : d.has path = true) :
    (runOn (makeFolders (Path.folder path)) d).2 = d :=
  makeFolders_of_stuck fun _ ha _ => Disk.makeFolder_above h ha

/-- Making the folders above a path that leads to nothing does not make it lead to something, unless
it steps back out of what is missing. -/
theorem has_makeFolders (hsteady : d.Steady path) (h : d.has path = false) :
    (runOn (makeFolders (Path.folder path)) d).2.has path = false := by
  have hgrows := grows_makeFolders (Path.folder path) d
  have hchanged := kind?_makeFolders path d
  by_cases hstart : d.root.kind? (d.start path) = some .folder
  · generalize (runOn (makeFolders (Path.folder path)) d).2 = d' at hgrows hchanged
    rw [Bool.eq_false_iff]
    intro hhas
    obtain ⟨front, s, rest, l, hbreak⟩ := hgrows.exists_breaksOff hsteady hstart h hhas
    have hsome := (Disk.resolve_eq_ok (Disk.has_iff.1 hhas)).2
    rw [hgrows.current] at hsome
    rcases hchanged (Path.locate d.current path) with hsame | ⟨a, ha, heq⟩
    · rw [hsame, hbreak.kind?_locate] at hsome
      cases hsome
    · exact hbreak.locate_above_ne hstart ha heq.symm
  · rw [makeFolders_of_stuck, h]
    intro a ha d' hmake
    rw [← Disk.start_of_isAbsolute d ha.1] at hstart
    exact hstart (Disk.makeFolder_place hmake).1

end Session

end StubLinker
