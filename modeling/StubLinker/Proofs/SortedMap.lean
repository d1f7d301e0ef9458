import Mathlib.Data.List.Sort
import StubLinker.SortedMap

namespace StubLinker

namespace SortedMap

variable {α : Type} {m m' : SortedMap α} {key : String} {value : α} {es : List (String × α)}

theorem ext (h : m.entries = m'.entries) : m = m' := by
  cases m
  cases m'
  cases h
  rfl

theorem insertEntry_of_lt (h : ∀ e ∈ es, e.1 < key) :
    insertEntry key value es = es ++ [(key, value)] := by
  induction es with
  | nil => rfl
  | cons e es ih =>
    obtain ⟨he, hes⟩ := List.forall_mem_cons.1 h
    rw [insertEntry, if_neg (String.lt_asymm he), if_neg, ih hes]
    · rfl
    · rintro rfl
      exact String.lt_irrefl _ he

theorem entries_foldl_insert (hes : es.Pairwise fun a b => a.1 < b.1)
    (hm : ∀ a ∈ m.entries, ∀ e ∈ es, a.1 < e.1) :
    (es.foldl (fun m e => m.insert e.1 e.2) m).entries = m.entries ++ es := by
  induction es generalizing m with
  | nil => simp
  | cons e es ih =>
    obtain ⟨hlt, hes⟩ := List.pairwise_cons.1 hes
    have hinsert : (m.insert e.1 e.2).entries = m.entries ++ [e] :=
      insertEntry_of_lt fun a ha => hm a ha e List.mem_cons_self
    rw [List.foldl_cons, ih hes, hinsert, List.append_assoc]
    · rfl
    · intro a ha f hf
      rw [hinsert] at ha
      rcases List.mem_append.1 ha with ha | ha
      · exact hm a ha f (List.mem_cons_of_mem _ hf)
      · rw [List.mem_singleton.1 ha]
        exact hlt f hf

theorem ofList_entries (m : SortedMap α) : ofList m.entries = m :=
  ext (entries_foldl_insert m.sorted fun _ ha => absurd ha List.not_mem_nil)

theorem get?_map {β : Type} (f : α → β) (m : SortedMap α) (key : String) :
    (m.map f).get? key = (m.get? key).map f := by
  obtain ⟨es, hes⟩ := m
  show (es.map _).lookup key = (es.lookup key).map f
  induction es with
  | nil => rfl
  | cons e es ih =>
    rw [List.map_cons, List.lookup_cons, List.lookup_cons, ih (List.pairwise_cons.1 hes).2]
    cases key == e.1 <;> rfl

theorem get?_empty (key : String) : (empty : SortedMap α).get? key = none :=
  rfl

theorem mem_iff_lookup (hes : es.Pairwise fun a b => a.1 < b.1) :
    (key, value) ∈ es ↔ es.lookup key = some value := by
  induction es with
  | nil => simp
  | cons e es ih =>
    obtain ⟨k, v⟩ := e
    obtain ⟨hlt, hes⟩ := List.pairwise_cons.1 hes
    by_cases h : key = k
    · subst h
      have hnot : (key, value) ∉ es := fun hmem => String.lt_irrefl key (hlt _ hmem)
      simp [hnot, eq_comm]
    · simp [List.lookup_cons, beq_false_of_ne, h, ih hes]

theorem mem_entries : (key, value) ∈ m.entries ↔ m.get? key = some value :=
  mem_iff_lookup m.sorted

def erase (m : SortedMap α) (key : String) : SortedMap α :=
  ⟨m.entries.filter fun e => e.1 ≠ key, m.sorted.filter _⟩

theorem get?_erase (m : SortedMap α) (key k : String) :
    (m.erase key).get? k = if k = key then none else m.get? k := by
  apply Option.ext
  intro value
  rw [← mem_entries, erase, List.mem_filter, mem_entries]
  by_cases h : k = key <;> simp [h]

theorem mem_keys : key ∈ m.keys ↔ (m.get? key).isSome = true := by
  rw [keys, List.mem_map, Option.isSome_iff_exists]
  constructor
  · rintro ⟨e, he, rfl⟩
    exact ⟨e.2, mem_entries.1 he⟩
  · rintro ⟨value, h⟩
    exact ⟨(key, value), mem_entries.2 h, rfl⟩

theorem nodup_of_pairwise_lt (hes : es.Pairwise fun a b => a.1 < b.1) :
    (es.map Prod.fst).Nodup := by
  apply List.pairwise_map.2
  apply hes.imp
  intro a b hlt heq
  rw [heq] at hlt
  exact String.lt_irrefl _ hlt

theorem ext_get? (h : ∀ key, m.get? key = m'.get? key) : m = m' := by
  have : Std.Irrefl fun a b : String × α => a.1 < b.1 := ⟨fun a => String.lt_irrefl a.1⟩
  have : Std.Antisymm fun a b : String × α => a.1 < b.1 :=
    ⟨fun a b hab hba => absurd hba (String.lt_asymm hab)⟩
  apply ext
  apply m.sorted.eq_of_mem_iff m'.sorted
  intro e
  rw [mem_entries, mem_entries, h]

end SortedMap

end StubLinker
