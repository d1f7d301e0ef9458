import StubLinker.Proofs.Disk.Folder
import StubLinker.Disk.Path

namespace StubLinker

namespace Text

theorem cut_eq_splitOn (separator : Char) (cs : List Char) :
    cut separator cs = cs.splitOn separator := by
  induction cs with
  | nil => rfl
  | cons c cs ih =>
    rw [cut, List.splitOn_cons_eq_if_modifyHead, ih]
    by_cases hc : c = separator
    · simp [hc]
    · cases hs : cs.splitOn separator with
      | nil => exact absurd hs (List.splitOn_ne_nil _ _)
      | cons piece pieces => simp [hc]

theorem not_mem_of_mem_cut {separator : Char} {cs piece : List Char}
    (h : piece ∈ cut separator cs) : separator ∉ piece := by
  induction cs generalizing piece with
  | nil =>
    rw [List.mem_singleton.1 h]
    exact List.not_mem_nil
  | cons c cs ih =>
    rw [cut] at h
    split at h
    · rcases List.mem_cons.1 h with rfl | h
      · exact List.not_mem_nil
      · exact ih h
    · rename_i hc
      cases hs : cut separator cs with
      | nil =>
        rw [hs] at h
        rw [List.mem_singleton.1 h]
        simpa using Ne.symm hc
      | cons first rest =>
        rw [hs] at h ih
        rcases List.mem_cons.1 h with rfl | h
        · have hfirst := ih List.mem_cons_self
          simp [Ne.symm hc, hfirst]
        · exact ih (List.mem_cons_of_mem _ h)

end Text

namespace Path

variable {path base p : String} {names : List String}

theorem steps_ne_nil (path : String) : steps path ≠ [] := by
  unfold steps Text.pieces
  rw [Text.cut_eq_splitOn]
  simp [List.splitOn_ne_nil]

theorem steps_intercalate {names : List String} (hne : names ≠ []) (h : ∀ n ∈ names, '/' ∉ n.toList) :
    steps ("/".intercalate names) = names := by
  have hcut : ("/".intercalate names).toList.splitOn '/' = names.map String.toList := by
    rw [String.toList_intercalate]
    refine List.splitOn_intercalate '/' ?_ (by simpa using hne)
    intro l hl
    obtain ⟨n, hn, rfl⟩ := List.mem_map.1 hl
    exact h n hn
  unfold steps Text.pieces
  rw [Text.cut_eq_splitOn, hcut, List.map_map]
  simp [Function.comp_def]

theorem intercalate_steps (path : String) : "/".intercalate (steps path) = path := by
  apply String.toList_injective
  unfold steps Text.pieces
  rw [String.toList_intercalate, Text.cut_eq_splitOn, List.map_map]
  simp only [Function.comp_def, String.toList_ofList, List.map_id']
  exact List.intercalate_splitOn '/'

theorem steps_injective {p q : String} (h : steps p = steps q) : p = q := by
  rw [← intercalate_steps p, ← intercalate_steps q, h]

theorem steps_slash (a b : String) : steps (a ++ "/" ++ b) = steps a ++ steps b := by
  have hsplit := List.splitOn_append_cons_self (a := '/') a.toList b.toList
  unfold steps Text.pieces
  rw [Text.cut_eq_splitOn, Text.cut_eq_splitOn, Text.cut_eq_splitOn, ← List.map_append, ← hsplit]
  simp

theorem not_mem_of_mem_steps {s : String} (h : s ∈ steps path) : '/' ∉ s.toList := by
  obtain ⟨piece, hp, rfl⟩ := List.mem_map.1 h
  simpa using Text.not_mem_of_mem_cut hp

def walk (l : Location) (s : String) : Location :=
  if s = "" ∨ s = "." then l else if s = ".." then l.dropLast else l ++ [s]

/-- Where a path leads from a folder, if it leads anywhere. -/
def locate (current : Location) (path : String) : Location :=
  (steps path).foldl walk (if isAbsolute path then [] else current)

theorem walk_plain {s : String} (h : Folder.IsPlain s) (l : Location) : walk l s = l ++ [s] := by
  obtain ⟨hempty, hdot, hup, -⟩ := h
  simp [walk, hempty, hdot, hup]

theorem foldl_walk_plain (h : ∀ s ∈ names, Folder.IsPlain s) (l : Location) :
    names.foldl walk l = l ++ names := by
  induction names generalizing l with
  | nil => simp
  | cons s names ih =>
    obtain ⟨hs, h⟩ := List.forall_mem_cons.1 h
    rw [List.foldl_cons, walk_plain hs, ih h, List.append_assoc]
    rfl

def IsPlain (p : String) : Prop :=
  ∀ s ∈ steps p, Folder.IsPlain s

instance (p : String) : Decidable (IsPlain p) :=
  inferInstanceAs (Decidable (∀ s ∈ steps p, Folder.IsPlain s))

theorem isPlain_intercalate (hne : names ≠ []) (h : ∀ n ∈ names, Folder.IsPlain n) :
    IsPlain ("/".intercalate names) := by
  unfold IsPlain
  rw [steps_intercalate hne fun n hn => (h n hn).2.2.2]
  exact h

theorem steps_name {name : String} (h : Folder.IsPlain name) : steps name = [name] := by
  have hsteps : steps ("/".intercalate [name]) = [name] :=
    steps_intercalate (by simp) (by simpa using h.2.2.2)
  simpa using hsteps

theorem isPlain_name {name : String} (h : Folder.IsPlain name) : IsPlain name := by
  intro s hs
  rw [steps_name h] at hs
  rw [List.mem_singleton.1 hs]
  exact h

theorem isAbsolute_iff : isAbsolute path = true ↔ ∃ rest, path = "/" ++ rest := by
  unfold isAbsolute
  rw [decide_eq_true_iff]
  constructor
  · intro h
    obtain ⟨cs, hcs⟩ := List.head?_eq_some_iff.1 h
    refine ⟨String.ofList cs, String.toList_injective ?_⟩
    rw [hcs]
    simp
  · rintro ⟨rest, rfl⟩
    simp

theorem IsPlain.not_absolute (h : IsPlain p) : isAbsolute p = false := by
  rw [Bool.eq_false_iff]
  intro ha
  obtain ⟨rest, rfl⟩ := isAbsolute_iff.1 ha
  have hfirst : "" ∈ steps ("" ++ "/" ++ rest) := by
    rw [steps_slash]
    exact List.mem_append_left _ (by decide)
  exact (h "" (by simpa using hfirst)).1 rfl

theorem isAbsolute_append (h : base ≠ "") (rest : String) :
    isAbsolute (base ++ rest) = isAbsolute base := by
  unfold isAbsolute
  cases hb : base.toList with
  | nil => exact absurd (String.toList_injective (by simpa using hb)) h
  | cons c cs => simp [hb]

/-- The steps of a path continued by plain names, up to steps that do not move. -/
theorem steps_join (base : String) (hp : IsPlain p) :
    ∃ front, steps (join base p) = front ++ steps p ∧
      (steps base = front ∨ steps base = front ++ [""]) ∧
      isAbsolute (join base p) = isAbsolute base := by
  unfold join
  rw [hp.not_absolute, if_neg Bool.false_ne_true]
  by_cases hempty : base = ""
  · subst hempty
    refine ⟨[], ?_, .inr (by decide), ?_⟩
    · simp
    · have hnone : isAbsolute "" = false := by decide
      rw [hnone]
      simpa using hp.not_absolute
  have hisEmpty : base.isEmpty = false := by simpa using hempty
  by_cases hslash : base.toList.getLast? = some '/'
  · obtain ⟨cs, hcs⟩ := List.getLast?_eq_some_iff.1 hslash
    have hbase : base = String.ofList cs ++ "/" := String.toList_injective (by simp [hcs])
    refine ⟨steps (String.ofList cs), ?_, .inr ?_, ?_⟩
    · rw [if_pos (by simp [hslash]), hbase]
      exact steps_slash _ _
    · have hsteps := steps_slash (String.ofList cs) ""
      rw [String.append_empty, ← hbase] at hsteps
      rw [hsteps]
      rfl
    · rw [if_pos (by simp [hslash])]
      exact isAbsolute_append hempty p
  · refine ⟨steps base, ?_, .inl rfl, ?_⟩
    · rw [if_neg (by simp [hslash, hisEmpty])]
      exact steps_slash base p
    · rw [if_neg (by simp [hslash, hisEmpty]), String.append_assoc]
      exact isAbsolute_append hempty _

theorem join_ne_empty (base : String) (hp : IsPlain p) : join base p ≠ "" := by
  intro h
  obtain ⟨front, hjoin, -⟩ := steps_join base hp
  rw [h] at hjoin
  have hempty : ∀ s ∈ steps p, s = "" := by
    intro s hs
    have hmem : s ∈ steps "" := by
      rw [hjoin]
      exact List.mem_append_right _ hs
    exact List.mem_singleton.1 hmem
  obtain ⟨s, hs⟩ := List.exists_mem_of_ne_nil _ (steps_ne_nil p)
  exact (hp s hs).1 (hempty s hs)

theorem locate_join (current : Location) (hp : IsPlain p) :
    locate current (join base p) = locate current base ++ steps p := by
  obtain ⟨front, hjoin, hbase, habs⟩ := steps_join base hp
  rw [locate, locate, hjoin, habs, List.foldl_append, foldl_walk_plain hp]
  rcases hbase with hbase | hbase
  · rw [hbase]
  · rw [hbase, List.foldl_append]
    simp [walk]

theorem intercalate_concat (hne : names ≠ []) (n : String) :
    "/".intercalate (names ++ [n]) = "/".intercalate names ++ "/" ++ n := by
  rw [String.intercalate_append_of_ne_nil hne (by simp)]
  simp

theorem join_name {root : String} (hroot : Folder.IsPlain root) (hp : IsPlain p) :
    join root p = "/".intercalate (root :: steps p) := by
  rw [String.intercalate_cons_of_ne_nil (steps_ne_nil p), intercalate_steps, join,
    hp.not_absolute, if_neg Bool.false_ne_true, if_neg]
  obtain ⟨hempty, -, -, hslash⟩ := hroot
  rw [Bool.or_eq_true, decide_eq_true_iff, not_or]
  refine ⟨by simpa using hempty, fun hlast => hslash ?_⟩
  exact List.mem_of_getLast? hlast

theorem ofComponents_relative (names : List String) :
    ofComponents false names = "/".intercalate names := by
  simp [ofComponents]

end Path

end StubLinker
