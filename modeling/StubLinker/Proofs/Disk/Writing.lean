import Mathlib.Data.List.Induction
import StubLinker.Proofs.Disk.Tidy

namespace StubLinker

namespace Path

variable {base p n : String} {names : List String}

theorem isPlain_of_steps (hp : IsPlain p) (hs : steps p = names ++ [n]) :
    ∀ m ∈ names, Folder.IsPlain m :=
  fun m hm => hp m (hs ▸ List.mem_append_left _ hm)

theorem steps_above (hp : IsPlain p) (hs : steps p = names ++ [n]) (hne : names ≠ []) :
    steps ("/".intercalate names) = names :=
  steps_intercalate hne fun m hm => (isPlain_of_steps hp hs m hm).2.2.2

theorem isPlain_above (hp : IsPlain p) (hs : steps p = names ++ [n]) (hne : names ≠ []) :
    IsPlain ("/".intercalate names) :=
  isPlain_intercalate hne (isPlain_of_steps hp hs)

theorem join_above (base : String) (hp : IsPlain p) (hs : steps p = names ++ [n])
    (hne : names ≠ []) : join base p = join base ("/".intercalate names) ++ ("/" ++ n) := by
  have hp' := (isPlain_above hp hs hne).not_absolute
  have htext := intercalate_steps p
  rw [hs, intercalate_concat hne, String.append_assoc] at htext
  rw [join, join, hp.not_absolute, hp', if_neg Bool.false_ne_true, if_neg Bool.false_ne_true, ← htext]
  split <;> simp only [String.append_assoc]

theorem isAbsolute_join (base : String) (hp : IsPlain p) :
    isAbsolute (join base p) = isAbsolute base := by
  obtain ⟨-, -, -, habs⟩ := steps_join base hp
  exact habs

theorem tidy_join_tidy (hbase : base ≠ "") (hp : IsPlain p) :
    tidy (join (tidy base) p) = join (tidy base) p := by
  rw [tidy_join (tidy_ne_empty hbase) hp, tidy_tidy hbase]

theorem folder_join_name (hbase : base ≠ "") (hp : IsPlain p) (hs : steps p = [n]) :
    folder (join base p) = tidy base := by
  apply folder_of_components (n := n) _ _ (tidy_ne_empty hbase) (tidy_tidy hbase)
  · rw [components_join hbase hp, components_tidy hbase, hs]
  · rw [isAbsolute_join base hp, isAbsolute_tidy hbase]

theorem folder_join (hbase : base ≠ "") (hp : IsPlain p) (hs : steps p = names ++ [n])
    (hne : names ≠ []) : folder (join base p) = join (tidy base) ("/".intercalate names) := by
  have hp' := isPlain_above hp hs hne
  apply folder_of_components (n := n) _ _ (join_ne_empty _ hp') (tidy_join_tidy hbase hp')
  · rw [components_join hbase hp, components_join (tidy_ne_empty hbase) hp', components_tidy hbase,
      hs, steps_above hp hs hne, List.append_assoc]
  · rw [isAbsolute_join base hp, isAbsolute_join _ hp', isAbsolute_tidy hbase]

theorem ancestors_join_name (hbase : base ≠ "") (htidy : tidy base = base) (hp : IsPlain p)
    (hs : steps p = [n]) : ancestors (join base p) = base :: ancestors base := by
  apply ancestors_of_components (n := n) _ (isAbsolute_join base hp) hbase htidy
  rw [components_join hbase hp, hs]

theorem ancestors_join (hbase : base ≠ "") (htidy : tidy base = base) (hp : IsPlain p)
    (hs : steps p = names ++ [n]) (hne : names ≠ []) :
    ancestors (join base p) = join base ("/".intercalate names) ::
      ancestors (join base ("/".intercalate names)) := by
  have hp' := isPlain_above hp hs hne
  apply ancestors_of_components (n := n) _ _ (join_ne_empty _ hp')
  · rw [tidy_join hbase hp', htidy]
  · rw [components_join hbase hp, components_join hbase hp', hs, steps_above hp hs hne,
      List.append_assoc]
  · rw [isAbsolute_join base hp, isAbsolute_join base hp']

end Path

namespace Disk

variable {d d' d'' : Disk} {base p n : String} {l l' lo k : Location} {names : List String}
  {contents : Bytes}

theorem kind?_of_prefix (hl : d.root.kind? l = some .folder) (hk : k <+: l) :
    d.root.kind? k = some .folder := by
  obtain ⟨rest, rfl⟩ := hk
  cases rest with
  | nil => rwa [List.append_nil] at hl
  | cons m rest => exact Folder.kind?_of_append (by rw [hl]; rfl) (List.cons_ne_nil m rest)

theorem Spells.tidy (h : Spells base p) (hbase : base ≠ "") : Spells (Path.tidy base) p := by
  refine ⟨h.names, ?_⟩
  rw [← Path.tidy_join hbase h.isPlain]
  exact checkPath_tidy h.check

theorem Spells.above (h : Spells base p) (hs : Path.steps p = names ++ [n]) (hne : names ≠ []) :
    Spells base ("/".intercalate names) := by
  have hp := Path.isPlain_above h.isPlain hs hne
  have hcheck := h.check
  rw [Path.join_above base h.isPlain hs hne] at hcheck
  refine ⟨fun m hm => ?_, checkPath_of_append (Path.join_ne_empty base hp) hcheck⟩
  rw [Path.steps_above h.isPlain hs hne] at hm
  exact h.names m (hs ▸ List.mem_append_left _ hm)

theorem Spells.of_prefix {k : List String} (h : Spells base p) (hk : k <+: Path.steps p)
    (hne : k ≠ []) : Spells base ("/".intercalate k) := by
  obtain ⟨rest, hrest⟩ := hk
  induction rest using List.reverseRecOn generalizing p with
  | nil =>
    rw [List.append_nil] at hrest
    rwa [hrest, Path.intercalate_steps]
  | append_singleton rest n ih =>
    rw [← List.append_assoc] at hrest
    have habove : k ++ rest ≠ [] := by simp [hne]
    apply ih (h.above hrest.symm habove)
    rw [Path.steps_above h.isPlain hrest.symm habove]

/-- The folders down to a location are there, and all else is as before. -/
structure Paves (l : Location) (d d' : Disk) : Prop where
  current : d'.current = d.current
  kind? : ∀ k, d'.root.kind? k = if k <+: l then some .folder else d.root.kind? k

theorem Paves.refl (hl : d.root.kind? l = some .folder) : d.Paves l d := by
  refine ⟨rfl, fun k => ?_⟩
  split
  · rename_i hk
    exact kind?_of_prefix hl hk
  · rfl

theorem Paves.trans (h : d.Paves l d') (h' : d'.Paves l' d'') (hl : l <+: l') : d.Paves l' d'' := by
  refine ⟨h'.current.trans h.current, fun k => ?_⟩
  rw [h'.kind?]
  split
  · rfl
  · rename_i hk
    rw [h.kind?, if_neg fun hpre => hk (hpre.trans hl)]

theorem Paves.folder (h : d.Paves l d') : d'.root.kind? l = some .folder := by
  rw [h.kind?, if_pos (List.prefix_refl l)]

theorem Paves.keeps (h : d.Paves l d') : d.Keeps d' := by
  refine ⟨h.current, fun k hk => ?_⟩
  rw [h.kind?, hk, ite_self]

theorem paves_put (hl : d.root.kind? l = some .folder) (hnone : d.root.kind? (l ++ [n]) = none) :
    d.Paves (l ++ [n]) (d.put (l ++ [n]) (.folder .empty)) := by
  refine ⟨rfl, fun k => ?_⟩
  rw [kind?_put_bare hl (by rw [hnone]; simp) kind?_empty_cons]
  by_cases hk : k = l ++ [n]
  · rw [if_pos hk, if_pos (hk ▸ List.prefix_refl _)]
    rfl
  rw [if_neg hk]
  split
  · rename_i hpre
    exact kind?_of_prefix hl ((List.prefix_concat_iff.1 hpre).resolve_left hk)
  · rfl

def Free (d : Disk) (l : Location) : Prop :=
  ∀ k, k <+: l → d.root.fileAt? k = none

theorem Free.above (h : d.Free l) (hk : k <+: l) : d.Free k :=
  fun m hm => h m (hm.trans hk)

theorem Free.kind? (h : d.Free l) (hk : k <+: l) :
    d.root.kind? k = none ∨ d.root.kind? k = some .folder := by
  have hfile := h k hk
  rw [Folder.fileAt?] at hfile
  cases hkind : d.root.kind? k with
  | none => exact .inl rfl
  | some kind =>
    cases kind with
    | folder => exact .inr rfl
    | file contents =>
      rw [hkind] at hfile
      cases hfile

theorem Free.paves (h : d.Free l') (hp : d.Paves l d') : d'.Free l' := by
  intro k hk
  by_cases hpre : k <+: l
  · rw [Folder.fileAt?, hp.kind?, if_pos hpre]
  · rw [Folder.fileAt?_of_kind? ((hp.kind? k).trans (if_neg hpre))]
    exact h k hk

theorem free_append (hl : d.root.kind? l = some .folder)
    (h : ∀ m, m <+: k → d.root.fileAt? (l ++ m) = none) : d.Free (l ++ k) := by
  intro m hm
  rcases List.prefix_or_prefix_of_prefix hm (List.prefix_append l k) with hpre | ⟨m, rfl⟩
  · rw [Folder.fileAt?, kind?_of_prefix hl hpre]
  · exact h m ((List.prefix_append_right_inj l).1 hm)

theorem isSpecial_of_isPlain (hn : Folder.IsPlain n) (slash : Bool) :
    (Spot.mk l n slash).isSpecial = false := by
  obtain ⟨hempty, hdot, hup, -⟩ := hn
  simp [Spot.isSpecial, hempty, hdot, hup]

theorem at?_isSome_eq (d : Disk) (l : Location) :
    (d.root.at? l).isSome = (d.root.kind? l).isSome := by
  rw [Folder.kind?, Option.isSome_map]

theorem foldlM_step_missing (hl : d.root.kind? l = some .folder)
    (hn : ∀ s ∈ names, Folder.IsPlain s ∧ s.utf8ByteSize ≤ 255) (hfree : d.Free (l ++ names))
    (hnone : d.root.kind? (l ++ names) = none) : names.foldlM d.step l = .error .notFound := by
  induction names generalizing l with
  | nil =>
    rw [List.append_nil, hl] at hnone
    cases hnone
  | cons s names ih =>
    obtain ⟨⟨hs, hsize⟩, hn⟩ := List.forall_mem_cons.1 hn
    rw [List.append_cons] at hfree hnone
    rw [List.foldlM_cons, step_plain hl hs, if_neg (by omega)]
    rcases hfree.kind? (List.prefix_append (l ++ [s]) _) with hnext | hnext
    · rw [hnext]
      rfl
    · rw [hnext]
      exact ih hnext hn hfree hnone

section Join

variable (hb : d.resolve base = .ok lo) (hlo : d.root.kind? lo = some .folder)
  (hsp : Spells base p) (hs : Path.steps p = names ++ [n])

include hb hlo hsp hs

theorem spot_join_eq_ok (hl : d.root.kind? (lo ++ names) = some .folder) :
    d.spot (Path.join base p) = .ok ⟨lo ++ names, n, false⟩ := by
  have hnames : ∀ s ∈ names, Folder.IsPlain s ∧ s.utf8ByteSize ≤ 255 :=
    fun s hmem => hsp.names s (hs ▸ List.mem_append_left _ hmem)
  rw [spot_join (.inl hb) hsp.isPlain hs, hsp.check, Except.ok_bind,
    foldlM_step_plain hlo (by rw [hl]; rfl) hnames, Except.ok_bind, step_stay hl]
  rfl

theorem makeFolder_join (hl : d.root.kind? (lo ++ names) = some .folder) :
    d.makeFolder (Path.join base p) =
      if (d.root.kind? (lo ++ names ++ [n])).isSome then .error .alreadyExists
      else .ok (d.put (lo ++ names ++ [n]) (.folder .empty)) := by
  obtain ⟨hplain, hsize⟩ := hsp.names n (by rw [hs]; simp)
  rw [makeFolder, spot_join_eq_ok hb hlo hsp hs hl, Except.ok_bind, isSpecial_of_isPlain hplain,
    if_neg Bool.false_ne_true, checkName_eq_ok.2 hsize, Except.ok_bind, at?_isSome_eq]
  rfl

theorem makeFolder_join_missing (hfree : d.Free (lo ++ names))
    (hnone : d.root.kind? (lo ++ names) = none) :
    d.makeFolder (Path.join base p) = .error .notFound := by
  have hnames : ∀ s ∈ names, Folder.IsPlain s ∧ s.utf8ByteSize ≤ 255 :=
    fun s hmem => hsp.names s (hs ▸ List.mem_append_left _ hmem)
  rw [makeFolder, spot_join (.inl hb) hsp.isPlain hs, hsp.check, Except.ok_bind,
    foldlM_step_missing hlo hnames hfree hnone]
  rfl

end Join

theorem resolve_join_eq_ok (hb : d.resolve base = .ok lo) (hlo : d.root.kind? lo = some .folder)
    (hsp : Spells base p) (hsome : (d.root.kind? (lo ++ Path.steps p)).isSome = true) :
    d.resolve (Path.join base p) = .ok (lo ++ Path.steps p) := by
  rw [resolve_join hb hsp.isPlain, hsp.check, Except.ok_bind]
  exact foldlM_step_plain hlo hsome hsp.names

theorem kind?_remove_file (hd : d.root.WellFormed) (hfile : d.root.fileAt? l = some contents)
    (k : Location) : (d.remove l).root.kind? k = if k = l then none else d.root.kind? k := by
  have hkind := Folder.fileAt?_eq_some.1 hfile
  have hne : l ≠ [] := by
    rintro rfl
    rw [Folder.kind?_nil] at hkind
    cases hkind
  have hremove := Folder.kind?_remove hd hne k
  rw [remove, hremove]
  by_cases hk : k = l
  · rw [if_pos hk, if_pos (hk ▸ List.prefix_refl _)]
  rw [if_neg hk]
  split
  · rename_i hpre
    rw [kind?_below (by rw [hkind]; simp) hpre (Ne.symm hk)]
  · rfl

theorem removeFile_join (hb : d.resolve base = .ok lo) (hlo : d.root.kind? lo = some .folder)
    (hsp : Spells base p) (hfile : d.root.fileAt? (lo ++ Path.steps p) = some contents) :
    d.removeFile (Path.join base p) = .ok (d.remove (lo ++ Path.steps p)) := by
  obtain ⟨names, n, hs, -, hplain⟩ := exists_last_name hsp.isPlain
  have hkind := Folder.fileAt?_eq_some.1 hfile
  rw [hs, ← List.append_assoc] at hkind ⊢
  have hl : d.root.kind? (lo ++ names) = some .folder :=
    Folder.kind?_of_append (by rw [hkind]; rfl) (List.cons_ne_nil n [])
  have hsize := (hsp.names n (by rw [hs]; simp)).2
  obtain ⟨e, hat⟩ := at?_isSome (d := d) (l := lo ++ names ++ [n]) (by rw [hkind]; rfl)
  rw [removeFile, spot_join_eq_ok hb hlo hsp hs hl, Except.ok_bind, isSpecial_of_isPlain hplain,
    if_neg Bool.false_ne_true, checkName_eq_ok.2 hsize, Except.ok_bind]
  have hlocation : (Spot.mk (lo ++ names) n false).location = lo ++ names ++ [n] := rfl
  rw [Folder.kind?, hat, Option.map_some] at hkind
  cases e with
  | folder inside => cases hkind
  | file c =>
    rw [hlocation, hat]
    rfl

theorem resolve_name (hd : d.current = []) (hn : Folder.IsPlain n) (hcheck : checkPath n = .ok ())
    (hsize : n.utf8ByteSize ≤ 255) (hfolder : d.root.kind? [n] = some .folder) :
    d.resolve n = .ok [n] := by
  have hstart : d.start n = [] := by rw [start, hd, ite_self]
  rw [resolve, hcheck, Except.ok_bind, Path.steps_name hn, hstart]
  exact foldlM_step_plain (l := []) (Folder.kind?_nil _) (by rw [List.nil_append, hfolder]; rfl)
    (List.forall_mem_singleton.2 ⟨hn, hsize⟩)

theorem folder_put (inside : Folder) (hl : d.root.kind? l = some .folder) :
    (d.put l (.folder inside)).root.kind? l = some .folder := by
  rw [kind?_put_folder _ hl, if_pos (List.prefix_refl l), List.drop_length, Folder.kind?_nil]

theorem put_put_folder {f g : Folder} (hd : d.root.WellFormed) (hl : d.root.kind? l = some .folder)
    (hf : f.WellFormed) (hg : g.WellFormed) :
    (d.put l (.folder f)).put l (.folder g) = d.put l (.folder g) := by
  have hl' := folder_put f hl
  have hroot : ((d.put l (.folder f)).put l (.folder g)).root = (d.put l (.folder g)).root := by
    apply Folder.eq_of_kind?
    · exact wellFormed_put_folder (wellFormed_put_folder hd hl hf) hl' hg
    · exact wellFormed_put_folder hd hl hg
    · intro k
      rw [kind?_put_folder g hl', kind?_put_folder g hl, kind?_put_folder f hl]
      split <;> rfl
  exact congrArg (fun root => { d with root }) hroot

/-- A disk has the folders of another one with an empty folder if it has those outside it. -/
theorem keeps_empty (hcurrent : d'.current = d.current) (hl : d.root.kind? l = some .folder)
    (hl' : d'.root.kind? l = some .folder)
    (h : ∀ k, ¬l <+: k → d.root.kind? k = some .folder → d'.root.kind? k = some .folder) :
    (d.put l (.folder .empty)).Keeps d' := by
  refine ⟨hcurrent, fun k hk => ?_⟩
  rw [kind?_put_folder _ hl] at hk
  split at hk
  · rename_i hpre
    obtain ⟨rest, rfl⟩ := hpre
    rw [List.drop_left] at hk
    cases rest with
    | nil => rwa [List.append_nil]
    | cons m rest => cases hk
  · rename_i hpre
    exact h k hpre hk

/-- A path that leads to a folder even when nothing is in it leads to it with any entries. -/
theorem resolve_put (inside : Folder) (hcurrent : d'.current = d.current)
    (hl : d.root.kind? l = some .folder) (hl' : d'.root.kind? l = some .folder)
    (h : ∀ k, ¬l <+: k → d.root.kind? k = some .folder → d'.root.kind? k = some .folder)
    (hempty : (d.put l (.folder .empty)).resolve base = .ok l) :
    (d'.put l (.folder inside)).resolve base = .ok l := by
  have hkeeps : (d.put l (.folder .empty)).Keeps (d'.put l (.folder inside)) := by
    apply keeps_empty _ hl (folder_put inside hl')
    · intro k hk hfolder
      rw [kind?_put_folder _ hl', if_neg hk]
      exact h k hk hfolder
    · exact hcurrent
  exact hkeeps.resolve hempty (folder_put .empty hl)

theorem checkPath_of_resolve (h : d.resolve base = .ok l) : checkPath base = .ok () := by
  obtain ⟨u, hcheck, -⟩ := Except.bind_eq_ok.1 h
  exact hcheck

theorem checkPath_of_read (h : d.read base = .ok contents) : checkPath base = .ok () := by
  obtain ⟨e, hget, -⟩ := Except.bind_eq_ok.1 h
  exact checkPath_of_resolve (get_eq_ok hget).1

theorem checkPath_of_spot {s : Spot} (h : d.spot base = .ok s) : checkPath base = .ok () := by
  obtain ⟨u, hcheck, -⟩ := Except.bind_eq_ok.1 h
  exact hcheck

theorem checkPath_of_removeFile (hbase : base ≠ "")
    (h : ∀ e, d.removeFile base = .error e → e = .notFound) : checkPath base = .ok () := by
  cases hcheck : checkPath base with
  | ok u => rfl
  | error e =>
    have hspot : d.spot base = .error e := by rw [spot, hcheck]; rfl
    have hremove : d.removeFile base = .error e := by rw [removeFile, hspot]; rfl
    rw [h e hremove] at hcheck
    exact absurd (checkPath_eq_notFound hcheck) hbase

/-- The file at a location is as given, the folders down to it are there, and all else is as
before. -/
structure Writes (l : Location) (contents : Bytes) (d d' : Disk) : Prop where
  current : d'.current = d.current
  kind? : ∀ k, d'.root.kind? k =
    if k = l then some (.file contents) else if k <+: l then some .folder else d.root.kind? k

/-- A folder was removed and made again. Elsewhere there are the same files, and no folder went
away. -/
structure Remade (path : String) (l : Location) (d d' : Disk) : Prop where
  current : d'.current = d.current
  wellFormed : d'.root.WellFormed
  resolve : d'.resolve path = .ok l
  folder : d'.root.kind? l = some .folder
  outer : ∀ k, ¬l <+: k → d.root.kind? k = some .folder → d'.root.kind? k = some .folder
  files : ∀ k, ¬l <+: k → d'.root.fileAt? k = d.root.fileAt? k

theorem Writes.other {k : Location} (h : d.Writes l contents d') (hk : ¬k <+: l) :
    d'.root.kind? k = d.root.kind? k := by
  have hne : k ≠ l := by
    rintro rfl
    exact hk (List.prefix_refl k)
  rw [h.kind?, if_neg hne, if_neg hk]

theorem Writes.not_above {k : Location} (h : d.Writes l contents d') (hk : k <+: l) (hne : k ≠ l) :
    d'.root.fileAt? k = none := by
  rw [Folder.fileAt?, h.kind?, if_neg hne, if_pos hk]

end Disk

namespace Session

open Disk

variable {d : Disk} {base p n : String} {lo : Location} {names : List String} {contents : Bytes}

theorem ensureFolder_join (hb : d.resolve base = .ok lo) (hlo : d.root.kind? lo = some .folder)
    (hsp : Spells base p) (hs : Path.steps p = names ++ [n])
    (hl : d.root.kind? (lo ++ names) = some .folder) (hfree : d.Free (lo ++ Path.steps p)) :
    ∃ d', runOn (ensureFolder (Path.join base p)) d = (.ok (), d') ∧
      d.Paves (lo ++ Path.steps p) d' := by
  rw [runOn_ensureFolder, makeFolder_join hb hlo hsp hs hl]
  rcases hfree.kind? (List.prefix_refl _) with hnone | hsome
  · rw [hs, ← List.append_assoc] at hnone ⊢
    rw [hnone, if_neg (by simp)]
    exact ⟨_, rfl, paves_put hl hnone⟩
  · have hhas : d.hasFolder (Path.join base p) = true :=
      hasFolder_iff.2 ⟨_, resolve_join_eq_ok hb hlo hsp (by rw [hsome]; rfl), hsome⟩
    have hpaves := Paves.refl hsome
    rw [hs, ← List.append_assoc] at hsome
    rw [hsome, if_pos (by simp)]
    dsimp only
    rw [if_pos hhas]
    exact ⟨d, rfl, hpaves⟩

theorem makeFolderBelow_join (hb : d.resolve base = .ok lo)
    (hlo : d.root.kind? lo = some .folder) (htidy : Path.tidy base = base) (hsp : Spells base p)
    (hfree : d.Free (lo ++ Path.steps p)) :
    ∃ d', runOn (makeFolderBelow (Path.join base p) (Path.ancestors (Path.join base p))) d =
      (.ok (), d') ∧ d.Paves (lo ++ Path.steps p) d' := by
  have hbase := ne_empty_of_resolve hb
  obtain ⟨names, n, hs, -, -⟩ := exists_last_name hsp.isPlain
  -- from the last name up: a folder is tried before the one above it is made
  induction names using List.reverseRecOn generalizing p n with
  | nil =>
    have hl : d.root.kind? (lo ++ []) = some .folder := by rwa [List.append_nil]
    have hmake := makeFolder_join hb hlo hsp hs hl
    have hensure := ensureFolder_join hb hlo hsp hs hl hfree
    rw [Path.ancestors_join_name hbase htidy hsp.isPlain hs, makeFolderBelow, runOn_bind, runOn_get]
    dsimp only
    split at hmake <;>
    · rw [hmake]
      exact hensure
  | append_singleton names m ih =>
    have hne : names ++ [m] ≠ [] := by simp
    have habove := Path.steps_above hsp.isPlain hs hne
    have hpre : lo ++ (names ++ [m]) <+: lo ++ Path.steps p := by
      rw [hs]
      exact ⟨[n], by simp⟩
    rw [Path.ancestors_join hbase htidy hsp.isPlain hs hne, makeFolderBelow, runOn_bind, runOn_get]
    dsimp only
    rcases hfree.kind? hpre with hnone | hl
    · rw [makeFolder_join_missing hb hlo hsp hs (hfree.above hpre) hnone]
      dsimp only
      obtain ⟨d1, hrun, h1⟩ := ih (hsp.above hs hne) (by rw [habove]; exact hfree.above hpre) m habove
      rw [habove] at h1
      obtain ⟨d2, hrun2, h2⟩ := ensureFolder_join (h1.keeps.resolve hb hlo) (h1.keeps.folder _ hlo)
        hsp hs h1.folder (hfree.paves h1)
      rw [runOn_bind, hrun]
      exact ⟨d2, hrun2, h1.trans h2 hpre⟩
    · have hmake := makeFolder_join hb hlo hsp hs hl
      have hensure := ensureFolder_join hb hlo hsp hs hl hfree
      split at hmake <;>
      · rw [hmake]
        exact hensure

theorem makeFolders_join (hb : d.resolve base = .ok lo) (hlo : d.root.kind? lo = some .folder)
    (hsp : Spells base p) (hs : Path.steps p = names ++ [n]) (hfree : d.Free (lo ++ names)) :
    ∃ d', runOn (makeFolders (Path.folder (Path.join base p))) d = (.ok (), d') ∧
      d.Paves (lo ++ names) d' := by
  have hbase := ne_empty_of_resolve hb
  have htidy := resolve_tidy hb
  by_cases hne : names = []
  · subst hne
    rw [Path.folder_join_name hbase hsp.isPlain hs, List.append_nil,
      makeFolders_of_hasFolder (hasFolder_iff.2 ⟨lo, htidy, hlo⟩)]
    exact ⟨d, rfl, .refl hlo⟩
  · have habove := Path.steps_above hsp.isPlain hs hne
    have hsp' := (hsp.tidy hbase).above hs hne
    have hmade := makeFolderBelow_join htidy hlo (Path.tidy_tidy hbase) hsp'
      (by rw [habove]; exact hfree)
    rw [habove] at hmade
    rw [Path.folder_join hbase hsp.isPlain hs hne, makeFolders,
      if_neg (by simpa using Path.join_ne_empty _ hsp'.isPlain)]
    exact hmade

theorem writeFile_join (contents : Bytes) (hb : d.resolve base = .ok lo)
    (hlo : d.root.kind? lo = some .folder) (hsp : Spells base p)
    (hfree : ∀ m, m <+: Path.steps p → m ≠ Path.steps p → d.root.fileAt? (lo ++ m) = none)
    (hplace : d.root.kind? (lo ++ Path.steps p) ≠ some .folder) :
    ∃ d', runOn (writeFile (Path.join base p) contents) d = (.ok (), d') ∧
      d.Writes (lo ++ Path.steps p) contents d' := by
  obtain ⟨names, n, hs, -, -⟩ := exists_last_name hsp.isPlain
  obtain ⟨hplain, hsize⟩ := hsp.names n (by rw [hs]; simp)
  have hway : d.Free (lo ++ names) := by
    apply free_append hlo
    intro m hm
    apply hfree m
    · rw [hs]
      exact hm.trans (List.prefix_append _ _)
    · rintro rfl
      rw [hs] at hm
      exact absurd hm.length_le (by simp)
  obtain ⟨d1, hmake, h1⟩ := makeFolders_join hb hlo hsp hs hway
  rw [hs, ← List.append_assoc] at hplace ⊢
  have hfile : d1.root.kind? (lo ++ names ++ [n]) ≠ some .folder := by
    rw [h1.kind?, if_neg fun hpre => absurd hpre.length_le (by simp)]
    exact hplace
  have hmove : d1.moveIn (Path.join base p) contents =
      .ok (d1.put (lo ++ names ++ [n]) (.file contents)) := by
    rw [moveIn, spot_join_eq_ok (h1.keeps.resolve hb hlo) (h1.keeps.folder _ hlo) hsp hs h1.folder,
      Except.ok_bind, isSpecial_of_isPlain hplain, if_neg Bool.false_ne_true,
      checkName_eq_ok.2 hsize, Except.ok_bind, if_neg Bool.false_ne_true]
    have hlocation : (Spot.mk (lo ++ names) n false).location = lo ++ names ++ [n] := rfl
    rw [hlocation]
    split
    · rename_i inside hat
      rw [Folder.kind?, hat] at hfile
      exact absurd rfl hfile
    · rfl
  rw [writeFile, runOn_bind, hmake]
  dsimp only
  rw [runOn_change, hmove]
  refine ⟨_, rfl, h1.current, fun k => ?_⟩
  rw [kind?_put_bare h1.folder hfile kind?_file_cons]
  by_cases hk : k = lo ++ names ++ [n]
  · rw [if_pos hk, if_pos hk]
    rfl
  · rw [if_neg hk, if_neg hk, h1.kind?]
    simp only [List.prefix_concat_iff, hk, false_or]

theorem checkPath_of_writeFile {d' : Disk}
    (h : runOn (writeFile base contents) d = (.ok (), d')) : checkPath base = .ok () := by
  obtain ⟨u, d1, -, h⟩ := runOn_bind_eq_ok.1 h
  rw [runOn_change] at h
  cases hm : d1.moveIn base contents with
  | error e =>
    rw [hm] at h
    cases h
  | ok made =>
    obtain ⟨s, hspot, -⟩ := Except.bind_eq_ok.1 hm
    exact checkPath_of_spot hspot

theorem runOn_removeTree_put {l : Location} (hd : d.root.WellFormed)
    (hl : d.root.kind? l = some .folder)
    (hempty : (d.put l (.folder .empty)).resolve base = .ok l) :
    runOn (removeTree base) d = runOn (removeTree base) (d.put l (.folder .empty)) := by
  have hwf : Folder.empty.WellFormed := trivial
  have hr : d.resolve base = .ok l :=
    (keeps_empty rfl hl hl fun _ _ h => h).resolve hempty (folder_put .empty hl)
  rw [runOn_removeTree hr hl, runOn_removeTree hempty (folder_put .empty hl),
    put_put_folder hd hl hwf hwf]

theorem remade {d₁ d₂ : Disk} {l : Location} (hd : d.root.WellFormed) (hbase : base ≠ "")
    (hl : Path.locate d.current base = l) (hremove : runOn (removeTree base) d = (.ok (), d₁))
    (hmake : runOn (makeFolders base) d₁ = (.ok (), d₂)) : d.Remade base l d₂ := by
  obtain ⟨hcurrent, hd1, houter, -⟩ := removeTree_eq_ok hd hremove
  rw [hl] at houter
  obtain ⟨hgrows, hresolve, hfolder⟩ := resolve_of_makeFolders hbase hmake
  rw [hcurrent, hl] at hresolve hfolder
  refine ⟨hgrows.current.trans hcurrent, hgrows.wellFormed hd1, hresolve, hfolder, ?_, ?_⟩
  · intro k hk hfolder
    apply hgrows.keeps.folder
    rw [houter k hk, hfolder]
  · intro k hk
    rw [hgrows.fileAt?, Folder.fileAt?_of_kind? (houter k hk)]

end Session

end StubLinker
