import StubLinker.Disk.Session
import StubLinker.Proofs.Disk.Folder

namespace StubLinker

namespace Folder

variable {f g : Folder} {name n : String} {k l : Location} {c : Bytes}

/-- The tree without the folders that hold no file. -/
def pruned : Folder → Folder
  | empty => empty
  | file name contents rest => file name contents rest.pruned
  | folder name inside rest =>
    if inside.pruned = empty then rest.pruned else folder name inside.pruned rest.pruned

theorem names_pruned_subset (h : n ∈ f.pruned.names) : n ∈ f.names := by
  induction f with
  | empty => exact h
  | file name contents rest ih =>
    rcases List.mem_cons.1 h with rfl | h
    · exact List.mem_cons_self
    · exact List.mem_cons_of_mem _ (ih h)
  | folder name inside rest _ ih =>
    rw [pruned] at h
    split at h
    · exact List.mem_cons_of_mem _ (ih h)
    rcases List.mem_cons.1 h with rfl | h
    · exact List.mem_cons_self
    · exact List.mem_cons_of_mem _ (ih h)

theorem wellFormed_pruned (hf : f.WellFormed) : f.pruned.WellFormed := by
  induction f with
  | empty => trivial
  | file name contents rest ih =>
    obtain ⟨hn, hlt, hrest⟩ := hf
    exact ⟨hn, fun n h => hlt n (names_pruned_subset h), ih hrest⟩
  | folder name inside rest ihi ih =>
    obtain ⟨hn, hlt, hinside, hrest⟩ := hf
    rw [pruned]
    split
    · exact ih hrest
    · exact ⟨hn, fun n h => hlt n (names_pruned_subset h), ihi hinside, ih hrest⟩

theorem distinct_pruned (hf : f.Distinct) : f.pruned.Distinct := by
  induction f with
  | empty => trivial
  | file name contents rest ih =>
    obtain ⟨hn, hne, hrest⟩ := hf
    exact ⟨hn, fun n h => hne n (names_pruned_subset h), ih hrest⟩
  | folder name inside rest ihi ih =>
    obtain ⟨hn, hne, hinside, hrest⟩ := hf
    rw [pruned]
    split
    · exact ih hrest
    · exact ⟨hn, fun n h => hne n (names_pruned_subset h), ihi hinside, ih hrest⟩

theorem files_pruned (f : Folder) : f.pruned.files = f.files := by
  induction f with
  | empty => rfl
  | file name contents rest ih => rw [pruned, files, files, ih]
  | folder name inside rest ihi ih =>
    rw [pruned, files]
    split
    · rename_i h
      rw [← ihi, h, ih]
      rfl
    · rw [files, ihi, ih]

theorem fileAt?_eq_of_files (hf : f.Distinct) (hg : g.Distinct) (h : f.files = g.files)
    (l : Location) : f.fileAt? l = g.fileAt? l := by
  apply Option.ext
  intro c
  rw [← mem_files hf, ← mem_files hg, h]

theorem fileAt?_pruned (hf : f.Distinct) (l : Location) : f.pruned.fileAt? l = f.fileAt? l :=
  fileAt?_eq_of_files (distinct_pruned hf) hf (files_pruned f) l

def Trimmed : Folder → Prop
  | empty => True
  | file _ _ rest => rest.Trimmed
  | folder _ inside rest => inside ≠ empty ∧ inside.Trimmed ∧ rest.Trimmed

theorem trimmed_pruned (f : Folder) : f.pruned.Trimmed := by
  induction f with
  | empty => trivial
  | file name contents rest ih => exact ih
  | folder name inside rest ihi ih =>
    rw [pruned]
    split
    · exact ih
    · rename_i h
      exact ⟨h, ihi, ih⟩

theorem files_ne_nil (ht : f.Trimmed) (hne : f ≠ empty) : f.files ≠ [] := by
  induction f with
  | empty => exact absurd rfl hne
  | file name contents rest _ => simp [files]
  | folder name inside rest ihi _ =>
    obtain ⟨hi, hit, -⟩ := ht
    rw [files]
    simp [ihi hit hi]

theorem Trimmed.find? (ht : f.Trimmed) {inside : Folder} (h : f.find? n = some (.folder inside)) :
    inside ≠ empty ∧ inside.Trimmed := by
  induction f with
  | empty => cases h
  | file name contents rest ih =>
    rw [Folder.find?] at h
    split at h
    · cases h
    · exact ih ht h
  | folder name inside' rest _ ih =>
    rw [Folder.find?] at h
    split at h
    · cases h
      exact ⟨ht.1, ht.2.1⟩
    · exact ih ht.2.2 h

/-- In a trimmed tree, a folder below the root is one with a file below it. -/
theorem kind?_eq_folder (hf : f.Distinct) (ht : f.Trimmed) :
    f.kind? k = some .folder ↔ k = [] ∨ ∃ l c, l ≠ [] ∧ f.fileAt? (k ++ l) = some c := by
  constructor
  · intro h
    induction k generalizing f with
    | nil => exact .inl rfl
    | cons n k ih =>
      right
      rw [kind?_cons] at h
      cases hn : f.find? n with
      | none =>
        rw [hn] at h
        cases h
      | some e =>
        rw [hn] at h
        cases e with
        | file contents => cases k <;> cases h
        | folder inside =>
          obtain ⟨hne, hit⟩ := ht.find? hn
          have hi : inside.Distinct := hf.find? hn
          have hat : f.at? [n] = some (.folder inside) := by
            rw [at?_cons, hn]
            exact at?_nil inside
          have hbelow {l : Location} {c : Bytes} (hl : inside.fileAt? l = some c) :
              f.fileAt? (n :: l) = some c := by
            rw [fileAt?_eq_some] at hl ⊢
            rw [← hl]
            exact kind?_append_of_folder hat l
          -- a trimmed folder that is not empty has a file below it
          rcases ih hi hit h with rfl | ⟨l, c, hl, hc⟩
          · obtain ⟨⟨l, c⟩, hlc⟩ := List.exists_mem_of_ne_nil _ (files_ne_nil hit hne)
            have hfile := (mem_files hi).1 hlc
            refine ⟨l, c, ?_, hbelow hfile⟩
            rintro rfl
            rw [fileAt?_nil] at hfile
            cases hfile
          · exact ⟨l, c, hl, hbelow hc⟩
  · rintro (rfl | ⟨l, c, hl, hc⟩)
    · exact kind?_nil f
    · exact kind?_of_append (by rw [fileAt?_eq_some.1 hc]; rfl) hl

theorem kind?_pruned_congr (hf : f.Distinct) (hg : g.Distinct) (h : ∀ k, f.kind? k = g.kind? k)
    (k : Location) : f.pruned.kind? k = g.pruned.kind? k := by
  have hfiles (l : Location) : f.fileAt? l = g.fileAt? l := by
    rw [fileAt?, fileAt?, h]
  apply kind?_eq_of_fileAt?
  · rw [fileAt?_pruned hf, fileAt?_pruned hg, hfiles]
  · rw [kind?_eq_folder (distinct_pruned hf) (trimmed_pruned f),
      kind?_eq_folder (distinct_pruned hg) (trimmed_pruned g)]
    simp only [fileAt?_pruned hf, fileAt?_pruned hg, hfiles]

theorem eq_of_fileAt? (hf : f.WellFormed) (hg : g.WellFormed) (hft : f.Trimmed) (hgt : g.Trimmed)
    (h : ∀ l, f.fileAt? l = g.fileAt? l) : f = g := by
  refine eq_of_kind? hf hg fun k => ?_
  apply kind?_eq_of_fileAt? (h k)
  rw [kind?_eq_folder hf.distinct hft, kind?_eq_folder hg.distinct hgt]
  simp only [h]

theorem files_eq_of_fileAt? (hf : f.WellFormed) (hg : g.WellFormed)
    (h : ∀ l, f.fileAt? l = g.fileAt? l) : f.files = g.files := by
  have hpruned : f.pruned = g.pruned := by
    refine eq_of_fileAt? (wellFormed_pruned hf) (wellFormed_pruned hg) (trimmed_pruned f)
      (trimmed_pruned g) fun l => ?_
    rw [fileAt?_pruned hf.distinct, fileAt?_pruned hg.distinct, h]
  rw [← files_pruned f, ← files_pruned g, hpruned]

end Folder

end StubLinker
