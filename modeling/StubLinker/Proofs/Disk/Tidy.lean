import Mathlib.Data.String.Basic
import StubLinker.Proofs.Disk.Fits

namespace StubLinker

theorem intercalate_sublist {sep : List Char} {xs ys : List (List Char)} (h : xs.Sublist ys) :
    (sep.intercalate xs).Sublist (sep.intercalate ys) := by
  induction h with
  | slnil => exact .slnil
  | @cons xs ys y h ih =>
    cases ys with
    | nil =>
      rw [List.sublist_nil.1 h]
      exact List.nil_sublist _
    | cons z ys =>
      rw [List.intercalate_cons_cons]
      exact ih.trans (List.sublist_append_right _ _)
  | @cons_cons xs ys y h ih =>
    cases ys with
    | nil =>
      rw [List.sublist_nil.1 h]
    | cons z ys =>
      rw [List.intercalate_cons_cons]
      cases xs with
      | nil =>
        rw [List.intercalate_singleton, List.append_assoc]
        exact List.sublist_append_left _ _
      | cons x xs =>
        rw [List.intercalate_cons_cons]
        exact (List.Sublist.refl _).append ih

namespace Path

variable {path base p s n : String} {names rest cs : List String}

def counts (s : String) : Bool :=
  s != "" && s != "."

theorem components_eq (h : steps path = s :: rest) :
    components path = (if s = "" then [] else [s]) ++ rest.filter counts := by
  have hfun : (fun s => s != "" && s != ".") = counts := rfl
  rw [components, h, hfun]
  split
  · rename_i heq
    obtain ⟨rfl, rfl⟩ := List.cons.inj heq
    rfl
  · rename_i hdot
    by_cases hs : s = ""
    · rw [if_pos hs, List.filter_cons_of_neg (by simp [counts, hs])]
      rfl
    · have hne : s ≠ "." := by
        rintro rfl
        exact hdot rest rfl
      rw [if_neg hs, List.filter_cons_of_pos (by simp [counts, hs, hne])]
      rfl

theorem filter_counts (h : ∀ n ∈ names, Folder.IsPlain n) : names.filter counts = names := by
  rw [List.filter_eq_self]
  intro n hn
  obtain ⟨hempty, hdot, -⟩ := h n hn
  simp [counts, hempty, hdot]

theorem exists_steps (path : String) : ∃ s rest, steps path = s :: rest :=
  List.exists_cons_of_ne_nil (steps_ne_nil path)

theorem isAbsolute_iff_steps (h : steps path = s :: rest) (hpath : path ≠ "") :
    isAbsolute path = true ↔ s = "" := by
  have htext := intercalate_steps path
  rw [h] at htext
  constructor
  · intro habs
    obtain ⟨tail, rfl⟩ := isAbsolute_iff.1 habs
    have hroot : steps ("" ++ "/" ++ tail) = steps "" ++ steps tail := steps_slash "" tail
    rw [String.empty_append, h] at hroot
    exact (List.cons.inj hroot).1
  · rintro rfl
    cases rest with
    | nil => exact absurd htext.symm hpath
    | cons t rest =>
      rw [String.intercalate_cons_of_ne_nil (List.cons_ne_nil t rest), String.empty_append] at htext
      exact isAbsolute_iff.2 ⟨_, htext.symm⟩

theorem components_join (hbase : base ≠ "") (hp : IsPlain p) :
    components (join base p) = components base ++ steps p := by
  obtain ⟨front, hjoin, hsteps, -⟩ := steps_join base hp
  cases front with
  | nil =>
    rcases hsteps with hnil | hblank
    · exact absurd hnil (steps_ne_nil base)
    · have hempty : steps "" = [""] := by decide
      exact absurd (steps_injective (hblank.trans hempty.symm)) hbase
  | cons s rest =>
    rw [components_eq hjoin, List.append_eq, List.filter_append, filter_counts hp]
    rcases hsteps with hsteps | hsteps
    · rw [components_eq hsteps, List.append_assoc]
    · have hblank : [""].filter counts = [] := by decide
      rw [components_eq hsteps, List.append_eq, List.filter_append, hblank, List.append_nil,
        List.append_assoc]

theorem of_mem_components {c : String} (h : c ∈ components path) :
    c ≠ "" ∧ '/' ∉ c.toList := by
  obtain ⟨s, rest, hs⟩ := exists_steps path
  rw [components_eq hs] at h
  rcases List.mem_append.1 h with h | h
  · split at h
    · cases h
    · rename_i hne
      obtain rfl := List.mem_singleton.1 h
      exact ⟨hne, not_mem_of_mem_steps (hs ▸ List.mem_cons_self)⟩
  · obtain ⟨hmem, hcounts⟩ := List.mem_filter.1 h
    refine ⟨?_, not_mem_of_mem_steps (hs ▸ List.mem_cons_of_mem _ hmem)⟩
    rintro rfl
    exact absurd hcounts (by decide)

theorem components_ne_nil (hpath : path ≠ "") (habs : isAbsolute path = false) :
    components path ≠ [] := by
  obtain ⟨s, rest, hs⟩ := exists_steps path
  have hne : s ≠ "" := by
    intro h
    rw [(isAbsolute_iff_steps hs hpath).2 h] at habs
    cases habs
  rw [components_eq hs, if_neg hne]
  simp

def tidy (path : String) : String :=
  ofComponents (isAbsolute path) (components path)

theorem ofComponents_ne_empty {absolute : Bool} (hcs : ∀ c ∈ cs, c ≠ "")
    (h : absolute = false → cs ≠ []) : ofComponents absolute cs ≠ "" := by
  intro hempty
  have hlist := congrArg String.toList hempty
  cases absolute with
  | true => simp [ofComponents] at hlist
  | false =>
    obtain ⟨c, cs, rfl⟩ := List.exists_cons_of_ne_nil (h rfl)
    have hc := hcs c List.mem_cons_self
    cases cs with
    | nil =>
      rw [ofComponents_relative, String.intercalate_singleton] at hempty
      exact hc hempty
    | cons t cs =>
      rw [ofComponents_relative, String.intercalate_cons_of_ne_nil (List.cons_ne_nil t cs)] at hlist
      simp at hlist

theorem tidy_ne_empty (hpath : path ≠ "") : tidy path ≠ "" :=
  ofComponents_ne_empty (fun _ hc => (of_mem_components hc).1) (components_ne_nil hpath)

theorem steps_absolute (hcs : ∀ c ∈ cs, '/' ∉ c.toList) :
    steps (ofComponents true cs) = "" :: if cs = [] then [""] else cs := by
  have hroot : ofComponents true cs = "" ++ "/" ++ "/".intercalate cs := by
    rw [ofComponents, if_pos rfl, String.empty_append]
  have hempty : steps "" = [""] := by decide
  rw [hroot, steps_slash, hempty]
  split
  · rename_i hnil
    rw [hnil]
    rfl
  · rename_i hne
    rw [steps_intercalate hne hcs]
    rfl

theorem isAbsolute_tidy (hpath : path ≠ "") : isAbsolute (tidy path) = isAbsolute path := by
  cases habs : isAbsolute path with
  | true =>
    rw [tidy, habs]
    exact isAbsolute_iff.2 ⟨_, rfl⟩
  | false =>
    obtain ⟨c, cs, hcs⟩ := List.exists_cons_of_ne_nil (components_ne_nil hpath habs)
    have hslash : ∀ c ∈ components path, '/' ∉ c.toList := fun c hc => (of_mem_components hc).2
    have hsteps : steps (tidy path) = c :: cs := by
      rw [tidy, habs, ofComponents_relative, steps_intercalate (by simp [hcs]) hslash, hcs]
    have hc : c ≠ "" := (of_mem_components (hcs ▸ List.mem_cons_self)).1
    rw [Bool.eq_false_iff]
    exact fun h => hc ((isAbsolute_iff_steps hsteps (tidy_ne_empty hpath)).1 h)

theorem components_tidy (hpath : path ≠ "") : components (tidy path) = components path := by
  have hslash : ∀ c ∈ components path, '/' ∉ c.toList := fun c hc => (of_mem_components hc).2
  obtain ⟨s, rest, hs⟩ := exists_steps path
  have hcomponents := components_eq hs
  have hfilter : (rest.filter counts).filter counts = rest.filter counts := by
    rw [List.filter_filter]
    simp
  -- the first step counts in any case, but for the empty one in front of a slash
  cases habs : isAbsolute path with
  | true =>
    rw [(isAbsolute_iff_steps hs hpath).1 habs, if_pos rfl, List.nil_append] at hcomponents
    have hsteps := steps_absolute hslash
    rw [tidy, habs, components_eq hsteps, if_pos rfl, List.nil_append, hcomponents]
    split
    · rename_i hnil
      rw [hnil]
      rfl
    · exact hfilter
  | false =>
    have hne : s ≠ "" := by
      intro h
      rw [(isAbsolute_iff_steps hs hpath).2 h] at habs
      cases habs
    rw [if_neg hne] at hcomponents
    have hsteps : steps (tidy path) = s :: rest.filter counts := by
      rw [tidy, habs, ofComponents_relative,
        steps_intercalate (components_ne_nil hpath habs) hslash, hcomponents]
      rfl
    rw [components_eq hsteps, if_neg hne, hfilter, hcomponents]

theorem tidy_tidy (hpath : path ≠ "") : tidy (tidy path) = tidy path := by
  rw [tidy, isAbsolute_tidy hpath, components_tidy hpath]
  rfl

theorem tidy_join (hbase : base ≠ "") (hp : IsPlain p) :
    tidy (join base p) = join (tidy base) p := by
  obtain ⟨-, -, -, habs⟩ := steps_join base hp
  rw [tidy, habs, components_join hbase hp, join, hp.not_absolute, if_neg Bool.false_ne_true]
  by_cases hnil : components base = []
  · have hroot : isAbsolute base = true := by
      cases habs : isAbsolute base with
      | true => rfl
      | false => exact absurd hnil (components_ne_nil hbase habs)
    have hslash : tidy base = "/" := by
      rw [tidy, hroot, hnil]
      rfl
    rw [hslash, hroot, hnil, if_pos (by decide), ofComponents, if_pos rfl, List.nil_append,
      intercalate_steps]
  · -- the last component does not end in a slash, so one is put between
    have hlast : (tidy base).toList.getLast? ≠ some '/' := by
      obtain ⟨init, c, hc⟩ := (List.eq_nil_or_concat (components base)).resolve_left hnil
      have hmem : c ∈ components base := by
        rw [hc]
        simp
      obtain ⟨hne, hslash⟩ := of_mem_components hmem
      have hlist : ∃ front, (tidy base).toList = front ++ c.toList := by
        rw [tidy, ofComponents, hc, List.concat_eq_append]
        cases init with
        | nil => exact ⟨_, by rw [String.toList_append, List.nil_append, String.intercalate_singleton]⟩
        | cons t init =>
          rw [intercalate_concat (List.cons_ne_nil t init), ← String.append_assoc, String.toList_append]
          exact ⟨_, rfl⟩
      obtain ⟨front, hfront⟩ := hlist
      have hcs : c.toList ≠ [] := fun h => hne (String.toList_injective (by simpa using h))
      rw [hfront, List.getLast?_append_of_ne_nil _ hcs]
      exact fun h => hslash (List.mem_of_getLast? h)
    rw [if_neg (by simp [hlast, tidy_ne_empty hbase]), tidy, ofComponents, ofComponents,
      String.intercalate_append_of_ne_nil hnil (steps_ne_nil p), intercalate_steps]
    simp only [String.append_assoc]

theorem folder_of_components (hcs : components path = components base ++ [n])
    (habs : isAbsolute path = isAbsolute base) (hbase : base ≠ "") (htidy : tidy base = base) :
    folder path = base := by
  have hparent : parent? path = some base := by
    rw [parent?, hcs]
    split
    · rename_i hnil
      simp at hnil
    · rw [List.dropLast_concat, habs]
      exact congrArg some htidy
  rw [folder, hparent]
  dsimp only
  rw [if_neg (by simpa using hbase)]

theorem ancestors_of_components (hcs : components path = components base ++ [n])
    (habs : isAbsolute path = isAbsolute base) (hbase : base ≠ "") (htidy : tidy base = base) :
    ancestors path = base :: ancestors base := by
  have htake : (List.range (components base).length).reverse.map (fun k =>
        ofComponents (isAbsolute base) ((components base ++ [n]).take k)) =
      (List.range (components base).length).reverse.map (fun k =>
        ofComponents (isAbsolute base) ((components base).take k)) := by
    apply List.map_congr_left
    intro k hk
    rw [List.mem_reverse, List.mem_range] at hk
    rw [List.take_append_of_le_length (Nat.le_of_lt hk)]
  have hself : ofComponents (isAbsolute base) (components base) = base := htidy
  simp only [ancestors, habs, hcs]
  rw [List.length_append, List.length_singleton, List.range_succ, List.reverse_append,
    List.reverse_singleton, List.singleton_append, List.map_cons, htake, List.take_left, hself,
    List.filter_cons_of_pos]
  simpa using hbase

theorem toList_tidy_sublist (hpath : path ≠ "") : (tidy path).toList.Sublist path.toList := by
  obtain ⟨s, rest, hs⟩ := exists_steps path
  have htext := intercalate_steps path
  have hrest : ((rest.filter counts).map String.toList).Sublist (rest.map String.toList) :=
    List.filter_sublist.map _
  rw [tidy, components_eq hs]
  cases habs : isAbsolute path with
  | true =>
    obtain rfl := (isAbsolute_iff_steps hs hpath).1 habs
    cases rest with
    | nil =>
      rw [hs] at htext
      exact absurd htext.symm hpath
    | cons t rest =>
      rw [← htext, hs, String.intercalate_cons_of_ne_nil (List.cons_ne_nil t rest),
        String.empty_append, ofComponents, if_pos rfl, if_pos rfl, List.nil_append,
        String.toList_append, String.toList_append, String.toList_intercalate,
        String.toList_intercalate]
      exact (List.Sublist.refl _).append (intercalate_sublist hrest)
  | false =>
    have hne : s ≠ "" := by
      intro h
      rw [(isAbsolute_iff_steps hs hpath).2 h] at habs
      cases habs
    rw [← htext, hs, if_neg hne, ofComponents_relative, String.toList_intercalate,
      String.toList_intercalate]
    exact intercalate_sublist (hrest.cons_cons _)

end Path

namespace Disk

variable {d : Disk} {path base p n : String} {l l' lo : Location} {names : List String}

theorem checkPath_tidy (h : checkPath path = .ok ()) : checkPath (Path.tidy path) = .ok () := by
  rw [checkPath_eq_ok] at h ⊢
  obtain ⟨hnul, hpath, hsize⟩ := h
  have hsub := Path.toList_tidy_sublist hpath
  have hle := String.utf8Len_le_of_sublist hsub
  rw [String.utf8Len_toList, String.utf8Len_toList] at hle
  exact ⟨fun hmem => hnul (hsub.subset hmem), Path.tidy_ne_empty hpath, hle.trans hsize⟩

theorem foldlM_step_filter (h : names.foldlM d.step l = .ok l') :
    (names.filter Path.counts).foldlM d.step l = .ok l' := by
  induction names generalizing l with
  | nil => exact h
  | cons s names ih =>
    rw [List.foldlM_cons] at h
    obtain ⟨m, hstep, h⟩ := Except.bind_eq_ok.1 h
    by_cases hs : Path.counts s = true
    · rw [List.filter_cons_of_pos hs, List.foldlM_cons, hstep]
      exact ih h
    · have hstay : s = "" ∨ s = "." := by
        by_cases hempty : s = ""
        · exact .inl hempty
        · exact .inr (by simpa [Path.counts, hempty] using hs)
      obtain ⟨rfl, -⟩ := step_eq_ok hstep
      rw [Path.walk, if_pos hstay] at h
      rw [List.filter_cons_of_neg hs]
      exact ih h

theorem resolve_tidy (h : d.resolve path = .ok l) : d.resolve (Path.tidy path) = .ok l := by
  have hpath := ne_empty_of_resolve h
  obtain ⟨u, hcheck, hfold⟩ := Except.bind_eq_ok.1 h
  obtain ⟨s, rest, hs⟩ := Path.exists_steps path
  have hslash : ∀ c ∈ Path.components path, '/' ∉ c.toList :=
    fun c hc => (Path.of_mem_components hc).2
  have hcomponents := Path.components_eq hs
  rw [hs, List.foldlM_cons] at hfold
  obtain ⟨m, hstep, hrest⟩ := Except.bind_eq_ok.1 hfold
  -- steps that do not count do not move, so they can be left out
  have hcount := foldlM_step_filter hrest
  rw [resolve, checkPath_tidy hcheck, Except.ok_bind,
    start_of_isAbsolute d (Path.isAbsolute_tidy hpath)]
  cases habs : Path.isAbsolute path with
  | true =>
    obtain rfl := (Path.isAbsolute_iff_steps hs hpath).1 habs
    rw [if_pos rfl, List.nil_append] at hcomponents
    rw [Path.tidy, habs, Path.steps_absolute hslash, List.foldlM_cons, hstep, Except.ok_bind,
      hcomponents]
    split
    · rename_i hnil
      rw [hnil] at hcount
      cases hcount
      obtain ⟨rfl, hfolder, -⟩ := step_eq_ok hstep
      exact foldlM_step_blank hfolder 1
    · exact hcount
  | false =>
    have hne : s ≠ "" := by
      intro h
      rw [(Path.isAbsolute_iff_steps hs hpath).2 h] at habs
      cases habs
    rw [if_neg hne] at hcomponents
    rw [Path.tidy, habs, Path.ofComponents_relative,
      Path.steps_intercalate (Path.components_ne_nil hpath habs) hslash, hcomponents,
      List.singleton_append, List.foldlM_cons, hstep]
    exact hcount

end Disk

end StubLinker
