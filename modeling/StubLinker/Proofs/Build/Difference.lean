import StubLinker.Proofs.Build.State
import StubLinker.Proofs.Text.ByteOrder

namespace StubLinker

namespace BuildState

variable {old new : BuildState} {files : SortedMap String} {p : String} {change : Change}
  {changes : List (String × Change)}

/-- What a change makes of digests, with the new record at hand. -/
def patch (new : BuildState) (files : SortedMap String) : String × Change → SortedMap String
  | (path, .added) | (path, .changed) => files.insert path ((new.files.get? path).getD "")
  | (_, .notChanged) => files
  | (path, .removed) => files.erase path

/-- The changes are the difference of two records. -/
structure Difference (old new : BuildState) (changes : List (String × Change)) : Prop where
  ascending : (changes.map Prod.fst).Pairwise fun p q => Bytes.ofText p < Bytes.ofText q
  once : ∀ p, (changes.map Prod.fst).count p =
    if (old.files.get? p).isSome || (new.files.get? p).isSome then 1 else 0
  added : ∀ p, (p, .added) ∈ changes ↔
    old.files.get? p = none ∧ (new.files.get? p).isSome = true
  removed : ∀ p, (p, .removed) ∈ changes ↔
    (old.files.get? p).isSome = true ∧ new.files.get? p = none
  notChanged : ∀ p, (p, .notChanged) ∈ changes ↔
    ∃ digest, old.files.get? p = some digest ∧ new.files.get? p = some digest
  changed : ∀ p, (p, .changed) ∈ changes ↔
    ∃ before now, old.files.get? p = some before ∧ new.files.get? p = some now ∧ before ≠ now
  applied : changes.foldl new.patch old.files = new.files

theorem get?_patch {x : String × Change}
    (hx : Change.of? (old.files.get? x.1) (new.files.get? x.1) = some x.2)
    (hfiles : files.get? x.1 = old.files.get? x.1 ∨ files.get? x.1 = new.files.get? x.1) :
    (new.patch files x).get? p = if p = x.1 then new.files.get? p else files.get? p := by
  obtain ⟨path, change⟩ := x
  by_cases hp : p = path
  · subst hp
    rw [if_pos rfl]
    cases change with
    | added =>
      obtain ⟨-, digest, hnew⟩ := Change.of?_eq_added.1 hx
      rw [patch, SortedMap.get?_insert, if_pos rfl, hnew]
      rfl
    | changed =>
      obtain ⟨-, digest, -, hnew, -⟩ := Change.of?_eq_changed.1 hx
      rw [patch, SortedMap.get?_insert, if_pos rfl, hnew]
      rfl
    | notChanged =>
      obtain ⟨digest, hold, hnew⟩ := Change.of?_eq_notChanged.1 hx
      rw [patch]
      -- nothing is written here, so the digest must be the recorded one on both sides
      rcases hfiles with h | h
      · exact h.trans (hold.trans hnew.symm)
      · exact h
    | removed =>
      obtain ⟨-, hnew⟩ := Change.of?_eq_removed.1 hx
      rw [patch, SortedMap.get?_erase, if_pos rfl]
      exact hnew.symm
  · rw [if_neg hp]
    cases change with
    | added => rw [patch, SortedMap.get?_insert, if_neg hp]
    | changed => rw [patch, SortedMap.get?_insert, if_neg hp]
    | notChanged => rfl
    | removed => rw [patch, SortedMap.get?_erase, if_neg hp]

/-- Changes between two records bring their paths up to date, and no other path. -/
theorem get?_foldl_patch
    (hchanges : ∀ x ∈ changes, Change.of? (old.files.get? x.1) (new.files.get? x.1) = some x.2)
    (hfiles : ∀ p, files.get? p = old.files.get? p ∨ files.get? p = new.files.get? p) :
    (changes.foldl new.patch files).get? p =
      if p ∈ changes.map Prod.fst then new.files.get? p else files.get? p := by
  induction changes generalizing files with
  | nil => rfl
  | cons x changes ih =>
    obtain ⟨hx, hrest⟩ := List.forall_mem_cons.1 hchanges
    have hstep (q : String) := get?_patch (p := q) hx (hfiles x.1)
    rw [List.foldl_cons, ih hrest, List.map_cons]
    · by_cases hp : p ∈ changes.map Prod.fst
      · rw [if_pos hp, if_pos (List.mem_cons_of_mem _ hp)]
      · rw [if_neg hp, hstep]
        simp [hp]
    · intro q
      rw [hstep]
      split
      · exact .inr rfl
      · exact hfiles q

theorem of?_isSome (o n : Option String) :
    (∃ change, Change.of? o n = some change) ↔ (o.isSome || n.isSome) = true := by
  cases o <;> cases n <;> simp [Change.of?]

theorem mem_map_changes :
    p ∈ (old.changes new).map Prod.fst ↔
      ((old.files.get? p).isSome || (new.files.get? p).isSome) = true := by
  rw [List.mem_map, ← of?_isSome]
  constructor
  · rintro ⟨x, hx, rfl⟩
    exact ⟨x.2, mem_changes.1 hx⟩
  · rintro ⟨change, h⟩
    exact ⟨(p, change), mem_changes.2 h, rfl⟩

theorem nodup_changes (old new : BuildState) : ((old.changes new).map Prod.fst).Nodup :=
  SortedMap.nodup_of_pairwise_lt (pairwise_changes old new)

theorem foldl_patch_changes (old new : BuildState) :
    (old.changes new).foldl new.patch old.files = new.files := by
  apply SortedMap.ext_get?
  intro p
  rw [get?_foldl_patch (fun x hx => mem_changes.1 hx) fun p => .inl rfl]
  by_cases hp : p ∈ (old.changes new).map Prod.fst
  · rw [if_pos hp]
  · rw [if_neg hp]
    rw [mem_map_changes, Bool.or_eq_true, not_or, Option.not_isSome_iff_eq_none,
      Option.not_isSome_iff_eq_none] at hp
    rw [hp.1, hp.2]

theorem difference_changes (old new : BuildState) : Difference old new (old.changes new) where
  ascending := by
    apply List.pairwise_map.2
    exact (pairwise_changes old new).imp Bytes.ofText_lt_iff.2
  once p := by
    rw [(nodup_changes old new).count]
    simp only [mem_map_changes]
  added p := by
    rw [mem_changes, Change.of?_eq_added, Option.isSome_iff_exists]
  removed p := by
    rw [mem_changes, Change.of?_eq_removed, Option.isSome_iff_exists]
  notChanged p := by
    rw [mem_changes, Change.of?_eq_notChanged]
  changed p := by
    rw [mem_changes, Change.of?_eq_changed]
  applied := foldl_patch_changes old new

end BuildState

end StubLinker
