import StubLinker.Proofs.SortedMap
import StubLinker.Proofs.Text.ByteOrder
import StubLinker.Report.Basic

namespace StubLinker

namespace StubSummary

variable {a b c : StubSummary}

theorem precedes_iff :
    a.precedes b = true ↔ a.method < b.method ∨ a.method = b.method ∧ a.descriptor ≤ b.descriptor := by
  simp [precedes]

theorem precedes_trans (h : a.precedes b = true) (h' : b.precedes c = true) :
    a.precedes c = true := by
  rw [precedes_iff] at h h' ⊢
  rcases h with h | ⟨hm, hd⟩
  · rcases h' with h' | ⟨hm', -⟩
    · exact .inl (String.lt_trans h h')
    · exact .inl (hm' ▸ h)
  · rcases h' with h' | ⟨hm', hd'⟩
    · exact .inl (hm ▸ h')
    · exact .inr ⟨hm.trans hm', String.le_trans hd hd'⟩

theorem precedes_total (a b : StubSummary) : (a.precedes b || b.precedes a) = true := by
  rw [Bool.or_eq_true, precedes_iff, precedes_iff]
  rcases Std.lt_trichotomy a.method b.method with h | h | h
  · exact .inl (.inl h)
  · rcases String.le_total a.descriptor b.descriptor with hd | hd
    · exact .inl (.inr ⟨h, hd⟩)
    · exact .inr (.inr ⟨h.symm, hd⟩)
  · exact .inr (.inl h)

theorem agree_of_precedes (h : a.precedes b = true) (h' : b.precedes a = true) :
    a.method = b.method ∧ a.descriptor = b.descriptor := by
  rw [precedes_iff] at h h'
  rcases h with h | ⟨hm, hd⟩
  · rcases h' with h' | ⟨hm', -⟩
    · exact absurd h' (String.lt_asymm h)
    · exact absurd (hm' ▸ h) (String.lt_irrefl _)
  · rcases h' with h' | ⟨-, hd'⟩
    · exact absurd (hm ▸ h') (String.lt_irrefl _)
    · exact ⟨hm, String.le_antisymm hd hd'⟩

end StubSummary

namespace Report

variable {r r' : Report} {s : StubSummary} {stubs stubs' : List StubSummary} {name : String}

def listed (r : Report) (name : String) : List StubSummary :=
  (r.classes.get? name).getD []

def total : List (String × List StubSummary) → Nat
  | [] => 0
  | e :: es => e.2.length + total es

/-- The report has the stubs, each under its class and as often as it occurs, with the classes and
the stubs of a class in order. -/
structure Lists (r : Report) (stubs : List StubSummary) : Prop where
  count : r.count = stubs.length
  total : r.count = total r.classes.entries
  each : ∀ name, (r.listed name).Perm (stubs.filter (·.className = name))
  classes : r.classes.keys.Pairwise fun a b => Bytes.ofText a < Bytes.ofText b
  inhabited : ∀ e ∈ r.classes.entries, e.2 ≠ []
  sorted : ∀ e ∈ r.classes.entries, e.2.Pairwise fun a b =>
    a.method < b.method ∨ a.method = b.method ∧ a.descriptor ≤ b.descriptor

theorem listed_add (r : Report) (s : StubSummary) (name : String) :
    (r.add s).listed name = r.listed name ++ [s].filter (·.className = name) := by
  rw [listed, add, SortedMap.get?_insert]
  by_cases h : name = s.className
  · subst h
    simp [listed]
  · simp [listed, h, Ne.symm h]

theorem total_insertEntry {es : List (String × List StubSummary)} {found : List StubSummary}
    (hes : es.Pairwise fun a b => a.1 < b.1) :
    total (SortedMap.insertEntry name (((es.lookup name).getD []) ++ found) es) =
      total es + found.length := by
  induction es with
  | nil => simp [SortedMap.insertEntry, total]
  | cons e es ih =>
    obtain ⟨hlt, hes⟩ := List.pairwise_cons.1 hes
    rw [SortedMap.insertEntry]
    split
    · rename_i hbefore
      -- the row is ordered, so a name before its first one is not in it
      have hnone : (e :: es).lookup name = none := by
        rw [List.lookup_eq_none_iff]
        intro a ha
        rcases List.mem_cons.1 ha with rfl | ha
        · simpa using Std.ne_of_lt hbefore
        · simpa using Std.ne_of_lt (String.lt_trans hbefore (hlt a ha))
      simp only [hnone, Option.getD_none, List.nil_append, total]
      omega
    split
    · rename_i heq
      subst heq
      rw [List.lookup_cons_self]
      simp only [Option.getD_some, List.length_append, total]
      omega
    · rename_i hne
      rw [List.lookup_cons, beq_false_of_ne hne]
      have hrest := ih hes
      simp only [total] at hrest ⊢
      omega

theorem total_add (r : Report) (s : StubSummary) :
    total (r.add s).classes.entries = total r.classes.entries + 1 :=
  total_insertEntry r.classes.sorted

theorem inhabited_add (h : ∀ e ∈ r.classes.entries, e.2 ≠ []) :
    ∀ e ∈ (r.add s).classes.entries, e.2 ≠ [] := by
  intro e he
  rcases SortedMap.mem_insertEntry he with rfl | he
  · simp
  · exact h e he

theorem count_foldl_add (stubs : List StubSummary) (r : Report) :
    (stubs.foldl add r).count = r.count + stubs.length := by
  induction stubs generalizing r with
  | nil => rfl
  | cons s stubs ih =>
    rw [List.foldl_cons, ih, List.length_cons]
    show r.count + 1 + stubs.length = _
    omega

theorem total_foldl_add (stubs : List StubSummary) (r : Report) :
    total (stubs.foldl add r).classes.entries = total r.classes.entries + stubs.length := by
  induction stubs generalizing r with
  | nil => rfl
  | cons s stubs ih =>
    rw [List.foldl_cons, ih, total_add, List.length_cons]
    omega

theorem listed_foldl_add (stubs : List StubSummary) (r : Report) (name : String) :
    (stubs.foldl add r).listed name = r.listed name ++ stubs.filter (·.className = name) := by
  induction stubs generalizing r with
  | nil => simp
  | cons s stubs ih =>
    rw [List.foldl_cons, ih, listed_add, List.append_assoc, ← List.filter_append]
    rfl

theorem inhabited_foldl_add (stubs : List StubSummary) (h : ∀ e ∈ r.classes.entries, e.2 ≠ []) :
    ∀ e ∈ (stubs.foldl add r).classes.entries, e.2 ≠ [] := by
  induction stubs generalizing r with
  | nil => exact h
  | cons s stubs ih => exact ih (inhabited_add h)

theorem listed_sorted (r : Report) (name : String) :
    r.sorted.listed name = (r.listed name).mergeSort StubSummary.precedes := by
  rw [listed, sorted, SortedMap.get?_map, listed]
  cases r.classes.get? name <;> simp

theorem total_map {f : List StubSummary → List StubSummary} (hf : ∀ l, (f l).length = l.length)
    (es : List (String × List StubSummary)) : total (es.map fun e => (e.1, f e.2)) = total es := by
  induction es with
  | nil => rfl
  | cons e es ih => rw [List.map_cons, total, total, hf, ih]

theorem total_sorted (r : Report) : total r.sorted.classes.entries = total r.classes.entries := by
  rw [sorted, SortedMap.map]
  exact total_map (fun l => List.length_mergeSort l) r.classes.entries

theorem keys_ascending (r : Report) :
    r.classes.keys.Pairwise fun a b => Bytes.ofText a < Bytes.ofText b := by
  apply List.pairwise_map.2
  exact r.classes.sorted.imp Bytes.ofText_lt_iff.2

theorem pairwise_mergeSort_precedes (l : List StubSummary) :
    (l.mergeSort StubSummary.precedes).Pairwise fun a b => a.precedes b = true := by
  apply List.pairwise_mergeSort
  · intro a b c
    exact StubSummary.precedes_trans
  · exact StubSummary.precedes_total

theorem lists_foldl_add (stubs : List StubSummary) : (stubs.foldl add {}).sorted.Lists stubs where
  count := by
    show (stubs.foldl add {}).count = _
    rw [count_foldl_add]
    exact Nat.zero_add _
  total := by
    rw [total_sorted, total_foldl_add]
    exact count_foldl_add stubs {}
  each name := by
    rw [listed_sorted, listed_foldl_add]
    exact List.mergeSort_perm _ _
  classes := keys_ascending _
  inhabited e he := by
    obtain ⟨e', he', rfl⟩ := List.mem_map.1 he
    have hne := inhabited_foldl_add stubs (by simp [SortedMap.empty]) e' he'
    intro hnil
    exact hne (List.nil_perm.1 (hnil ▸ List.mergeSort_perm e'.2 StubSummary.precedes))
  sorted e he := by
    obtain ⟨e', -, rfl⟩ := List.mem_map.1 he
    exact (pairwise_mergeSort_precedes e'.2).imp StubSummary.precedes_iff.1

theorem Lists.listed_sorted (h : r.Lists stubs) (name : String) :
    (r.listed name).Pairwise fun a b => a.precedes b = true := by
  rw [listed]
  cases hget : r.classes.get? name with
  | none => exact .nil
  | some found =>
    exact (h.sorted _ (SortedMap.mem_entries.2 hget)).imp StubSummary.precedes_iff.2

theorem Lists.get? (h : r.Lists stubs) (name : String) :
    r.classes.get? name = if r.listed name = [] then none else some (r.listed name) := by
  rw [listed]
  cases hget : r.classes.get? name with
  | none => rfl
  | some found =>
    have hne : found ≠ [] := h.inhabited _ (SortedMap.mem_entries.2 hget)
    simp [hne]

theorem Lists.perm (h : r.Lists stubs) (h' : r'.Lists stubs') (hp : stubs.Perm stubs')
    (name : String) : (r'.listed name).Perm (r.listed name) :=
  (h'.each name).trans ((hp.filter _).symm.trans (h.each name).symm)

/-- Stubs that agree on class, method and descriptor are the same. -/
def Told (stubs : List StubSummary) : Prop :=
  ∀ s ∈ stubs, ∀ t ∈ stubs,
    s.className = t.className → s.method = t.method → s.descriptor = t.descriptor → s = t

/-- Reports of the same stubs are the same if their stubs are told by class, method and
descriptor. -/
theorem Lists.eq_of_perm (h : r.Lists stubs) (h' : r'.Lists stubs') (hp : stubs.Perm stubs')
    (htold : Told stubs) : r' = r := by
  have hclass (name : String) : r'.listed name = r.listed name := by
    apply List.Perm.eq_of_pairwise _ (h'.listed_sorted name) (h.listed_sorted name) (h.perm h' hp name)
    intro a b ha hb hab hba
    obtain ⟨hmethod, hdescriptor⟩ := StubSummary.agree_of_precedes hab hba
    have ha' := List.mem_filter.1 ((h'.each name).mem_iff.1 ha)
    have hb' := List.mem_filter.1 ((h.each name).mem_iff.1 hb)
    have hname : a.className = b.className := by
      rw [of_decide_eq_true ha'.2, of_decide_eq_true hb'.2]
    exact htold a (hp.mem_iff.2 ha'.1) b hb'.1 hname hmethod hdescriptor
  have hclasses : r'.classes = r.classes := by
    apply SortedMap.ext_get?
    intro name
    rw [h.get?, h'.get?, hclass]
  have hcount : r'.count = r.count := by rw [h.count, h'.count, hp.length_eq]
  cases r
  cases r'
  cases hclasses
  cases hcount
  rfl

end Report

end StubLinker
