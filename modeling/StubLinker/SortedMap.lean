namespace StubLinker

structure SortedMap (α : Type) where
  entries : List (String × α)
  sorted : entries.Pairwise fun a b => a.1 < b.1
  deriving DecidableEq, Repr

namespace SortedMap

variable {α β : Type}

def empty : SortedMap α :=
  ⟨[], .nil⟩

instance : Inhabited (SortedMap α) :=
  ⟨empty⟩

/-- The entries with one put in its place; an entry of the same key makes room for it. -/
def insertEntry (key : String) (value : α) : List (String × α) → List (String × α)
  | [] => [(key, value)]
  | e :: es =>
    if key < e.1 then (key, value) :: e :: es
    else if key = e.1 then (key, value) :: es
    else e :: insertEntry key value es

theorem mem_insertEntry {key : String} {value : α} {a : String × α} {es : List (String × α)}
    (h : a ∈ insertEntry key value es) : a = (key, value) ∨ a ∈ es := by
  induction es with
  | nil => simpa [insertEntry] using h
  | cons e es ih =>
    rw [insertEntry] at h
    split at h
    · simpa using h
    · split at h
      · rcases List.mem_cons.1 h with h | h
        · exact .inl h
        · exact .inr (List.mem_cons_of_mem _ h)
      · rcases List.mem_cons.1 h with h | h
        · exact .inr (h ▸ List.mem_cons_self)
        · exact (ih h).imp_right (List.mem_cons_of_mem _)

theorem insertEntry_sorted (key : String) (value : α) {es : List (String × α)}
    (h : es.Pairwise fun a b => a.1 < b.1) :
    (insertEntry key value es).Pairwise fun a b => a.1 < b.1 := by
  induction es with
  | nil => simp [insertEntry]
  | cons e es ih =>
    obtain ⟨hd, tl⟩ := List.pairwise_cons.1 h
    rw [insertEntry]
    split
    · rename_i hlt
      refine List.pairwise_cons.2 ⟨fun a ha => ?_, h⟩
      rcases List.mem_cons.1 ha with rfl | ha
      · exact hlt
      · exact String.lt_trans hlt (hd a ha)
    · rename_i hlt
      split
      · rename_i heq
        exact List.pairwise_cons.2 ⟨fun a ha => by simpa [heq] using hd a ha, tl⟩
      · rename_i hne
        refine List.pairwise_cons.2 ⟨fun a ha => ?_, ih tl⟩
        rcases mem_insertEntry ha with rfl | ha
        · exact Std.lt_of_le_of_ne (String.not_lt.1 hlt) fun h => hne h.symm
        · exact hd a ha

/-- The map with an entry put in; an entry of the same key makes room for it. -/
def insert (m : SortedMap α) (key : String) (value : α) : SortedMap α :=
  ⟨insertEntry key value m.entries, insertEntry_sorted key value m.sorted⟩

def get? (m : SortedMap α) (key : String) : Option α :=
  m.entries.lookup key

def keys (m : SortedMap α) : List String :=
  m.entries.map Prod.fst

def map (f : α → β) (m : SortedMap α) : SortedMap β :=
  ⟨m.entries.map fun e => (e.1, f e.2), List.pairwise_map.2 m.sorted⟩

/-- A map from entries, of which the last one of each key counts. -/
def ofList (es : List (String × α)) : SortedMap α :=
  es.foldl (fun m e => m.insert e.1 e.2) empty

theorem lookup_insertEntry (key : String) (value : α) (k : String) (es : List (String × α)) :
    (insertEntry key value es).lookup k = if k = key then some value else es.lookup k := by
  induction es with
  | nil => by_cases h : k = key <;> simp [insertEntry, List.lookup_cons, beq_false_of_ne, h]
  | cons e es ih =>
    obtain ⟨name, old⟩ := e
    rw [insertEntry]
    split
    · by_cases h : k = key <;> simp [List.lookup_cons, beq_false_of_ne, h]
    · split
      · rename_i heq
        subst heq
        by_cases h : k = key <;> simp [List.lookup_cons, beq_false_of_ne, h]
      · rename_i hne
        by_cases h : k = name
        · subst h
          simp [Ne.symm hne]
        · simp [List.lookup_cons, beq_false_of_ne, h, ih]

theorem get?_insert (m : SortedMap α) (key : String) (value : α) (k : String) :
    (m.insert key value).get? k = if k = key then some value else m.get? k :=
  lookup_insertEntry key value k m.entries

end SortedMap

end StubLinker
