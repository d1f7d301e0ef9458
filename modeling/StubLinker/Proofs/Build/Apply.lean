import StubLinker.Proofs.Build.Action
import StubLinker.Proofs.Disk.Fits

namespace StubLinker

namespace Disk

variable {d : Disk} {l : Location}

theorem Stores.refl (h : c = d.root.fileAt? l) : d.Stores l c d := by
  refine ⟨.refl d, fun hd => hd, fun k => ?_⟩
  split
  · rename_i hk
    rw [h, hk]
  · rfl

end Disk

namespace Build

variable {b : Build} {w w' : World} {input output path : String} {li lo : Location} {d d' : Disk}
  {s s' : Summary} {x : String × Change} {changes : List (String × Change)}

def place (lo : Location) (path : String) : Location :=
  lo ++ Path.steps path

theorem place_injective {p q : String} (h : place lo p = place lo q) : p = q :=
  Path.steps_injective (List.append_cancel_left h)

theorem place_prefix_iff {p q : String} :
    place lo p <+: place lo q ↔ Path.steps p <+: Path.steps q :=
  List.prefix_append_right_inj lo

/-- A change decides what is at the place of its output: what was there if nothing changed, nothing
if the input is gone, and otherwise what its contents become. -/
def Decides (b : Build) (li lo : Location) (d : Disk) (x : String × Change) (v : Option Bytes) : Prop :=
  match x.2 with
  | .notChanged => v = d.root.fileAt? (place lo x.1)
  | .removed => v = none
  | .added | .changed =>
    ∃ contents out, d.root.fileAt? (place li x.1) = some contents ∧
      b.outcome x.1 contents = .ok out ∧ v = some out

theorem apply_notChanged (b : Build) (input output path : String) (s : Summary) :
    b.apply input output s (path, .notChanged) = pure { s with unchanged := s.unchanged + 1 } :=
  rfl

theorem apply_added (b : Build) (input output path : String) (s : Summary) :
    b.apply input output s (path, .added) = b.update input output path .added s :=
  rfl

theorem apply_removed (b : Build) (input output path : String) (s : Summary) :
    b.apply input output s (path, .removed) = (do
      Action.report .info s!"Removing {path}"
      removeOutput (Path.join output path)
      return { s with removed := s.removed + 1 }) :=
  rfl

theorem apply_removed_eq_ok
    (h : runOn (b.apply input output s (path, .removed)) w = (.ok s', w')) :
    ∃ log, runOn (removeOutput (Path.join output path)) ⟨w.disk, log⟩ = (.ok (), w') := by
  rw [apply_removed] at h
  obtain ⟨u, w1, hreport, h⟩ := runOn_bind_eq_ok.1 h
  rw [Action.runOn_report] at hreport
  cases hreport
  obtain ⟨u, w2, hremove, h⟩ := runOn_bind_eq_ok.1 h
  cases h
  exact ⟨_, hremove⟩

theorem removeOutput_cases (h : runOn (removeOutput path) w = (.ok (), w'))
    (hd : w.disk.root.WellFormed) :
    w.disk.Stores (Path.locate w.disk.current path) none w'.disk ∨
      w'.disk = w.disk ∧ w.disk.removeFile path = .error .notFound := by
  rw [runOn_removeOutput] at h
  cases hr : w.disk.removeFile path with
  | ok disk =>
    rw [hr] at h
    cases h
    exact .inl (Disk.removeFile_eq_ok hd hr)
  | error e =>
    rw [hr] at h
    cases e <;> cases h
    exact .inr ⟨rfl, rfl⟩

theorem removeOutput_eq_ok (h : runOn (removeOutput (Path.join output path)) w = (.ok (), w'))
    (hd : w.disk.root.WellFormed) (hlo : w.disk.resolve output = .ok lo) (hp : Path.IsPlain path) :
    w.disk.Stores (place lo path) none w'.disk := by
  have hplace : Path.locate w.disk.current (Path.join output path) = place lo path := by
    rw [Path.locate_join _ hp, ← (Disk.resolve_eq_ok hlo).1]
    rfl
  rcases removeOutput_cases h hd with hstores | ⟨hdisk, hr⟩
  · rw [← hplace]
    exact hstores
  · rw [hdisk]
    refine .refl ?_
    rw [Folder.fileAt?, place, Disk.removeFile_notFound (.inl hlo) hp hr]

theorem update_stores {change : Change} (hlo : Path.locate w.disk.current output = lo)
    (hli : Path.locate w.disk.current input = li) (hp : Path.IsPlain path)
    (h : runOn (b.update input output path change s) w = (.ok s', w')) :
    ∃ contents out, w.disk.root.fileAt? (place li path) = some contents ∧
      b.outcome path contents = .ok out ∧ w.disk.Stores (place lo path) (some out) w'.disk := by
  obtain ⟨contents, out, hread, hout, hwrite⟩ := runOn_update_eq_ok h
  have hcontents := Disk.read_eq_ok hread
  have hstores := Session.writeFile_eq_ok hwrite
  rw [Path.locate_join _ hp, hli] at hcontents
  rw [Path.locate_join _ hp, hlo] at hstores
  exact ⟨contents, out, hcontents, hout, hstores⟩

theorem update_eq_ok {change : Change} (hlo : w.disk.resolve output = .ok lo)
    (hfolder : w.disk.root.kind? lo = some .folder) (hli : Path.locate w.disk.current input = li)
    (hp : Path.IsPlain path) (h : runOn (b.update input output path change s) w = (.ok s', w')) :
    (lo ≠ [] → Path.Fits path) ∧ ∃ contents out, w.disk.root.fileAt? (place li path) = some contents ∧
      b.outcome path contents = .ok out ∧ w.disk.Stores (place lo path) (some out) w'.disk := by
  obtain ⟨contents, out, -, -, hwrite⟩ := runOn_update_eq_ok h
  exact ⟨fun hne => Session.fits_of_writeFile hlo hfolder hne hp hwrite,
    update_stores (Disk.resolve_eq_ok hlo).1.symm hli hp h⟩

/-- A change that is made decides its own place. What is written has a path that fits. -/
theorem apply_eq_ok (hd : w.disk.root.WellFormed) (hlo : w.disk.resolve output = .ok lo)
    (hfolder : w.disk.root.kind? lo = some .folder) (hli : Path.locate w.disk.current input = li)
    (hp : Path.IsPlain x.1) (h : runOn (b.apply input output s x) w = (.ok s', w')) :
    (x.2 = .added ∨ x.2 = .changed → lo ≠ [] → Path.Fits x.1) ∧
      ∃ v, Decides b li lo w.disk x v ∧ w.disk.Stores (place lo x.1) v w'.disk := by
  obtain ⟨path, change⟩ := x
  cases change with
  | notChanged =>
    cases h
    exact ⟨by simp, _, rfl, .refl rfl⟩
  | removed =>
    obtain ⟨log, hremove⟩ := apply_removed_eq_ok h
    have hstores := removeOutput_eq_ok hremove hd hlo hp
    exact ⟨by simp, none, rfl, hstores⟩
  | added =>
    obtain ⟨hfits, contents, out, hcontents, hout, hstores⟩ := update_eq_ok hlo hfolder hli hp h
    exact ⟨fun _ => hfits, some out, ⟨contents, out, hcontents, hout, rfl⟩, hstores⟩
  | changed =>
    obtain ⟨hfits, contents, out, hcontents, hout, hstores⟩ := update_eq_ok hlo hfolder hli hp h
    exact ⟨fun _ => hfits, some out, ⟨contents, out, hcontents, hout, rfl⟩, hstores⟩

/-- What a row of changes does: each decides its own place, and other files are as before. An input
whose contents count is read as it was, unless an output comes to lie in its place. -/
structure Applies (b : Build) (li lo : Location) (changes : List (String × Change)) (d d' : Disk) :
    Prop extends Disk.Keeps d d' where
  wellFormed : d'.root.WellFormed
  outside : ∀ k, (∀ x ∈ changes, k ≠ place lo x.1) → d'.root.fileAt? k = d.root.fileAt? k
  notChanged : ∀ path, (path, .notChanged) ∈ changes →
    d'.root.fileAt? (place lo path) = d.root.fileAt? (place lo path)
  removed : ∀ path, (path, .removed) ∈ changes → d'.root.fileAt? (place lo path) = none
  written : ∀ path change, (path, change) ∈ changes → change = .added ∨ change = .changed →
    ∃ contents out, b.outcome path contents = .ok out ∧
      d'.root.fileAt? (place lo path) = some out ∧
      ((∀ x ∈ changes, place li path ≠ place lo x.1) →
        d.root.fileAt? (place li path) = some contents)
  fits : ∀ path change, (path, change) ∈ changes → change = .added ∨ change = .changed →
    lo ≠ [] → Path.Fits path

theorem Applies.nil (hd : d.root.WellFormed) : Applies b li lo [] d d :=
  { Disk.Keeps.refl d with
    wellFormed := hd
    outside := fun _ _ => rfl
    notChanged := fun _ h => nomatch h
    removed := fun _ h => nomatch h
    written := fun _ _ h => nomatch h
    fits := fun _ _ h => nomatch h }

theorem Applies.of_grows (hgrows : d.Grows d') (h : Applies b li lo changes d' d'') :
    Applies b li lo changes d d'' :=
  { hgrows.keeps.trans h.toKeeps with
    wellFormed := h.wellFormed
    outside := fun k hk => (h.outside k hk).trans (hgrows.fileAt? k)
    notChanged := fun path hmem => (h.notChanged path hmem).trans (hgrows.fileAt? _)
    removed := h.removed
    written := fun path change hmem hchange => by
      obtain ⟨contents, out, hout, hplace, hcontents⟩ := h.written path change hmem hchange
      exact ⟨contents, out, hout, hplace, fun hapart => hgrows.fileAt? _ ▸ hcontents hapart⟩
    fits := h.fits }

theorem Applies.cons {v : Option Bytes} (hne : ∀ y ∈ changes, x.1 ≠ y.1)
    (hx : Decides b li lo d x v) (hstores : d.Stores (place lo x.1) v d')
    (hfits : x.2 = .added ∨ x.2 = .changed → lo ≠ [] → Path.Fits x.1)
    (h : Applies b li lo changes d' d'') : Applies b li lo (x :: changes) d d'' := by
  -- the paths differ, so no later change decides the place of the first one
  have hself : d''.root.fileAt? (place lo x.1) = v := by
    rw [h.outside, hstores.fileAt?, if_pos rfl]
    exact fun y hy heq => hne y hy (place_injective heq)
  have hother {path : String} {change : Change} (hmem : (path, change) ∈ changes) :
      d'.root.fileAt? (place lo path) = d.root.fileAt? (place lo path) := by
    rw [hstores.fileAt?, if_neg]
    exact fun heq => hne _ hmem (place_injective heq).symm
  refine { hstores.toKeeps.trans h.toKeeps with
    wellFormed := h.wellFormed
    outside := fun k hk => ?_
    notChanged := fun path hmem => ?_
    removed := fun path hmem => ?_
    written := fun path change hmem hchange => ?_
    fits := fun path change hmem hchange => ?_ }
  · obtain ⟨hfirst, hk⟩ := List.forall_mem_cons.1 hk
    rw [h.outside k hk, hstores.fileAt?, if_neg hfirst]
  · rcases List.mem_cons.1 hmem with rfl | hmem
    · exact hself.trans hx
    · exact (h.notChanged path hmem).trans (hother hmem)
  · rcases List.mem_cons.1 hmem with rfl | hmem
    · exact hself.trans hx
    · exact h.removed path hmem
  · rcases List.mem_cons.1 hmem with rfl | hmem
    · have hdecides : ∃ contents out, d.root.fileAt? (place li path) = some contents ∧
          b.outcome path contents = .ok out ∧ v = some out := by
        rcases hchange with rfl | rfl <;> exact hx
      obtain ⟨contents, out, hcontents, hout, rfl⟩ := hdecides
      exact ⟨contents, out, hout, hself, fun _ => hcontents⟩
    · obtain ⟨contents, out, hout, hplace, hcontents⟩ := h.written path change hmem hchange
      refine ⟨contents, out, hout, hplace, fun hapart => ?_⟩
      obtain ⟨hfirst, hapart⟩ := List.forall_mem_cons.1 hapart
      rw [← hcontents hapart, hstores.fileAt?, if_neg hfirst]
  · rcases List.mem_cons.1 hmem with rfl | hmem
    · exact hfits hchange
    · exact h.fits path change hmem hchange

theorem foldlM_apply_eq_ok (hd : w.disk.root.WellFormed) (hlo : w.disk.resolve output = .ok lo)
    (hfolder : w.disk.root.kind? lo = some .folder) (hli : Path.locate w.disk.current input = li)
    (hp : ∀ x ∈ changes, Path.IsPlain x.1) (hne : changes.Pairwise fun a b => a.1 < b.1)
    (h : runOn (changes.foldlM (b.apply input output) s) w = (.ok s', w')) :
    Applies b li lo changes w.disk w'.disk := by
  induction changes generalizing s w with
  | nil =>
    rw [List.foldlM_nil, runOn_pure] at h
    cases h
    exact .nil hd
  | cons x changes ih =>
    obtain ⟨hpx, hp⟩ := List.forall_mem_cons.1 hp
    obtain ⟨hlt, hne⟩ := List.pairwise_cons.1 hne
    rw [List.foldlM_cons] at h
    obtain ⟨s1, w1, happly, h⟩ := runOn_bind_eq_ok.1 h
    obtain ⟨hfits, v, hdecides, hstores⟩ := apply_eq_ok hd hlo hfolder hli hpx happly
    have hrest := ih (hstores.wellFormed hd) (hstores.toKeeps.resolve hlo hfolder)
      (hstores.folder lo hfolder) (by rw [hstores.current]; exact hli) hp hne h
    exact .cons (fun y hy heq => String.lt_irrefl _ (heq ▸ hlt y hy)) hdecides hstores hfits hrest

theorem removeOutput_eq_error {e : BuildError} (h : runOn (removeOutput path) w = (.error e, w')) :
    ∃ cause, e = .disk cause := by
  rw [runOn_removeOutput] at h
  cases hr : w.disk.removeFile path with
  | ok disk =>
    rw [hr] at h
    cases h
  | error cause =>
    rw [hr] at h
    cases cause <;> cases h <;> exact ⟨_, rfl⟩

/-- An update fails on a class only if what is read there has no outcome, and leaves the disk as it
is. -/
theorem update_eq_badClass {change : Change} {path' : String} {cause : LinkError}
    (h : runOn (b.update input output path' change s) w = (.error (.badClass path cause), w')) :
    path' = path ∧ w'.disk = w.disk ∧ ∃ contents, w.disk.read (Path.join input path) = .ok contents ∧
      b.outcome path contents = .error cause := by
  obtain ⟨log, hrun⟩ := runOn_update b input output path' change s w
  rw [hrun] at h
  cases hread : w.disk.read (Path.join input path') with
  | error e =>
    rw [hread] at h
    cases h
  | ok contents =>
    rw [hread] at h
    dsimp only at h
    cases hout : b.outcome path' contents with
    | error e =>
      rw [hout] at h
      cases h
      exact ⟨rfl, rfl, contents, hread, hout⟩
    | ok out =>
      rw [hout] at h
      dsimp only at h
      rcases hwrite : runOn (Session.writeFile (Path.join output path') out) w.disk with
        ⟨e | u, disk⟩
      · rw [hwrite] at h
        cases h
      · rw [hwrite] at h
        cases h

/-- A change fails on a class only if it links it, and leaves the disk as it is. -/
theorem apply_eq_badClass {cause : LinkError}
    (h : runOn (b.apply input output s x) w = (.error (.badClass path cause), w')) :
    x.1 = path ∧ (x.2 = .added ∨ x.2 = .changed) ∧ w'.disk = w.disk ∧ ∃ contents,
      w.disk.read (Path.join input path) = .ok contents ∧
        b.outcome path contents = .error cause := by
  obtain ⟨path', change⟩ := x
  cases change with
  | notChanged =>
    rw [apply_notChanged, runOn_pure] at h
    cases h
  | removed =>
    rw [apply_removed] at h
    rcases runOn_bind_eq_error.1 h with h | ⟨u, w1, -, h⟩
    · rw [Action.runOn_report] at h
      cases h
    rcases runOn_bind_eq_error.1 h with h | ⟨u, w2, -, h⟩
    · obtain ⟨_, he⟩ := removeOutput_eq_error h
      cases he
    · rw [runOn_pure] at h
      cases h
  | added =>
    obtain ⟨hpath, hrest⟩ := update_eq_badClass h
    exact ⟨hpath, .inl rfl, hrest⟩
  | changed =>
    obtain ⟨hpath, hrest⟩ := update_eq_badClass h
    exact ⟨hpath, .inr rfl, hrest⟩

/-- In a row of changes in the order of their paths, those at smaller paths are those before. -/
theorem filter_lt_of_pairwise {front rest : List (String × Change)}
    (hne : (front ++ x :: rest).Pairwise fun a b => a.1 < b.1) :
    (front ++ x :: rest).filter (·.1 < x.1) = front := by
  obtain ⟨-, hnerest, hlt⟩ := List.pairwise_append.1 hne
  obtain ⟨hltrest, -⟩ := List.pairwise_cons.1 hnerest
  have hkeep : front.filter (·.1 < x.1) = front := by
    rw [List.filter_eq_self]
    intro a ha
    exact decide_eq_true (hlt a ha x List.mem_cons_self)
  have hdrop : rest.filter (·.1 < x.1) = [] := by
    rw [List.filter_eq_nil_iff]
    intro a ha
    rw [decide_eq_true_iff]
    exact String.lt_asymm (hltrest a ha)
  rw [List.filter_append, hkeep, List.filter_cons_of_neg (by simp), hdrop, List.append_nil]

theorem foldlM_apply_eq_badClass {cause : LinkError} (hd : w.disk.root.WellFormed)
    (hlo : w.disk.resolve output = .ok lo) (hfolder : w.disk.root.kind? lo = some .folder)
    (hli : Path.locate w.disk.current input = li) (hp : ∀ x ∈ changes, Path.IsPlain x.1)
    (hne : changes.Pairwise fun a b => a.1 < b.1)
    (h : runOn (changes.foldlM (b.apply input output) s) w = (.error (.badClass path cause), w')) :
    Applies b li lo (changes.filter (·.1 < path)) w.disk w'.disk := by
  obtain ⟨front, x, rest, s1, w1, rfl, hfront, hx⟩ := runOn_foldlM_eq_error h
  obtain ⟨rfl, -, hdisk, -⟩ := apply_eq_badClass hx
  rw [filter_lt_of_pairwise hne, hdisk]
  exact foldlM_apply_eq_ok hd hlo hfolder hli
    (fun y hy => hp y (List.mem_append_left _ hy)) (List.pairwise_append.1 hne).1 hfront

end Build

end StubLinker
