import Mathlib.Data.List.Nodup
import StubLinker.Proofs.Build.Difference
import StubLinker.Proofs.Build.Reuse

namespace StubLinker

namespace Folder

variable {f : Folder}

theorem mem_names_of_mem_files (hf : f.WellFormed) {n : String} {l : Location}
    (h : n :: l ∈ f.files.map Prod.fst) : n ∈ f.names := by
  obtain ⟨⟨k, c⟩, hmem, rfl⟩ := List.mem_map.1 h
  apply mem_names_of_kind? (l := l)
  rw [fileAt?_eq_some.1 ((mem_files hf.distinct).1 hmem)]
  rfl

theorem nodup_files (hf : f.WellFormed) : (f.files.map Prod.fst).Nodup := by
  induction f with
  | empty => exact .nil
  | file name contents rest ih =>
    obtain ⟨-, hlt, hrest⟩ := hf
    rw [files, List.map_cons, List.nodup_cons]
    exact ⟨fun h => String.lt_irrefl _ (hlt _ (mem_names_of_mem_files hrest h)), ih hrest⟩
  | folder name inside rest ihi ih =>
    obtain ⟨-, hlt, hinside, hrest⟩ := hf
    have hbelow : (inside.files.map fun f => (name :: f.1, f.2)).map Prod.fst =
        (inside.files.map Prod.fst).map (name :: ·) := by
      rw [List.map_map, List.map_map]
      rfl
    rw [files, List.map_append, hbelow, List.nodup_append']
    refine ⟨(ihi hinside).map (List.cons_injective), ih hrest, ?_⟩
    intro l hl hl'
    obtain ⟨k, -, rfl⟩ := List.mem_map.1 hl
    exact String.lt_irrefl _ (hlt _ (mem_names_of_mem_files hrest hl'))

end Folder

namespace Build

variable {b : Build} {inside : Folder} {old : BuildState}

theorem nodup_inputsOf (hwf : inside.WellFormed) : ((inputsOf inside).map Prod.fst).Nodup := by
  have hsub : ((inputsOf inside).map Prod.fst).Sublist
      ((inside.files.map Prod.fst).map ("/".intercalate ·)) := by
    have h := (List.filter_sublist (l := inside.files.map fun f => ("/".intercalate f.1, f.2))
      (p := fun f => f.1 != BuildState.fileName)).map Prod.fst
    rw [List.map_map] at h
    rw [List.map_map]
    exact h
  refine List.Nodup.sublist hsub ((Folder.nodup_files hwf).map_on ?_)
  have hsteps (l : Location) (hl : l ∈ inside.files.map Prod.fst) :
      Path.steps ("/".intercalate l) = l := by
    obtain ⟨⟨l, c⟩, hmem, rfl⟩ := List.mem_map.1 hl
    have hfile := (Folder.mem_files hwf.distinct).1 hmem
    apply Path.steps_intercalate
    · rintro rfl
      rw [Folder.fileAt?_nil] at hfile
      cases hfile
    · intro n hn
      exact (hwf.isPlain_of_kind? (by rw [Folder.fileAt?_eq_some.1 hfile]; rfl) n hn).2.2.2
  intro l hl l' hl' heq
  rw [← hsteps l hl, heq, hsteps l' hl']

section Tallies

variable {α β γ : Type} {as : List α} {bs : List β} {f : α → γ} {g : β → γ} {p : α → Bool}
  {q : β → Bool}

/-- Rows that name each of their elements once count the same if they count the same names. -/
theorem countP_eq_of_nodup (ha : (as.map f).Nodup) (hb : (bs.map g).Nodup)
    (h : ∀ c, (∃ a ∈ as, p a = true ∧ f a = c) ↔ ∃ b ∈ bs, q b = true ∧ g b = c) :
    as.countP p = bs.countP q := by
  have hperm : ((as.filter p).map f).Perm ((bs.filter q).map g) := by
    apply (List.perm_ext_iff_of_nodup _ _).2
    · intro c
      simp only [List.mem_map, List.mem_filter, and_assoc, h]
    · exact ha.sublist (List.filter_sublist.map f)
    · exact hb.sublist (List.filter_sublist.map g)
  have hlength := hperm.length_eq
  rwa [List.length_map, List.length_map, ← List.countP_eq_length_filter,
    ← List.countP_eq_length_filter] at hlength

theorem count_foldl {step : β → α → β} {field : β → Nat}
    (hstep : ∀ s a, field (step s a) = field s + if p a = true then 1 else 0) (as : List α) (s : β) :
    field (as.foldl step s) = field s + as.countP p := by
  induction as generalizing s with
  | nil => rfl
  | cons a as ih =>
    rw [List.foldl_cons, ih, hstep, List.countP_cons]
    omega

theorem countP_parts (p q : α → Bool) (as : List α) :
    (as.countP fun a => !p a && q a) + (as.countP fun a => !p a && !q a) + as.countP p =
      as.length := by
  induction as with
  | nil => rfl
  | cons a as ih =>
    simp only [List.countP_cons, List.length_cons]
    cases p a <;> cases q a <;> simp <;> omega

end Tallies

def renews : Change → Bool
  | .added | .changed => true
  | .notChanged | .removed => false

def tallyChange (b : Build) (s : Summary) (x : String × Change) : Summary :=
  match x.2 with
  | .added | .changed =>
    if b.links x.1 then { s with rewritten := s.rewritten + 1 } else { s with copied := s.copied + 1 }
  | .notChanged => { s with unchanged := s.unchanged + 1 }
  | .removed => { s with removed := s.removed + 1 }

theorem apply_counts {input output : String} {s s' : Summary} {x : String × Change} {w w' : World}
    (h : runOn (b.apply input output s x) w = (.ok s', w')) : s' = b.tallyChange s x := by
  obtain ⟨path, change⟩ := x
  cases change with
  | added => exact update_counts h
  | changed => exact update_counts h
  | notChanged =>
    cases h
    rfl
  | removed =>
    rw [apply_removed] at h
    obtain ⟨_, w1, -, h⟩ := runOn_bind_eq_ok.1 h
    obtain ⟨_, w2, -, h⟩ := runOn_bind_eq_ok.1 h
    cases h
    rfl

theorem foldlM_counts {input output : String} {s s' : Summary} {changes : List (String × Change)}
    {w w' : World} (h : runOn (changes.foldlM (b.apply input output) s) w = (.ok s', w')) :
    s' = changes.foldl b.tallyChange s := by
  induction changes generalizing s w with
  | nil =>
    cases h
    rfl
  | cons x changes ih =>
    rw [List.foldlM_cons] at h
    obtain ⟨s1, w1, hfirst, h⟩ := runOn_bind_eq_ok.1 h
    rw [List.foldl_cons, ← apply_counts hfirst]
    exact ih h

section Fields

variable (b : Build) (changes : List (String × Change)) (s : Summary)

theorem foldl_rewritten : (changes.foldl b.tallyChange s).rewritten =
    s.rewritten + changes.countP fun x => renews x.2 && b.links x.1 := by
  apply count_foldl
  rintro s ⟨path, change⟩
  cases change <;> cases hlinks : b.links path <;> simp [tallyChange, renews, hlinks]

theorem foldl_copied : (changes.foldl b.tallyChange s).copied =
    s.copied + changes.countP fun x => renews x.2 && !b.links x.1 := by
  apply count_foldl
  rintro s ⟨path, change⟩
  cases change <;> cases hlinks : b.links path <;> simp [tallyChange, renews, hlinks]

theorem foldl_unchanged : (changes.foldl b.tallyChange s).unchanged =
    s.unchanged + changes.countP fun x => x.2 = .notChanged := by
  apply count_foldl
  rintro s ⟨path, change⟩
  cases change <;> cases hlinks : b.links path <;> simp [tallyChange, hlinks]

theorem foldl_removed : (changes.foldl b.tallyChange s).removed =
    s.removed + changes.countP fun x => x.2 = .removed := by
  apply count_foldl
  rintro s ⟨path, change⟩
  cases change <;> cases hlinks : b.links path <;> simp [tallyChange, hlinks]

end Fields

/-- Whether a record has an input as it is. -/
def keeps (old : BuildState) (f : String × Bytes) : Bool :=
  old.files.get? f.1 = some (sha256 f.2)

/-- What a build counts that goes on from a record. -/
structure Counts (b : Build) (old : BuildState) (files : List (String × Bytes)) (s : Summary) :
    Prop where
  total : s.rewritten + s.copied + s.unchanged = files.length
  rewritten : s.rewritten = files.countP fun f => !keeps old f && b.links f.1
  copied : s.copied = files.countP fun f => !keeps old f && !b.links f.1
  unchanged : s.unchanged = files.countP (keeps old)
  removed : s.removed = old.files.keys.countP fun path => path ∉ files.map Prod.fst

section Inputs

variable (b : Build) (old : BuildState) (hwf : inside.WellFormed)

include hwf

theorem mem_notChanged {path : String} :
    (path, .notChanged) ∈ old.changes (b.record (inputsOf inside)) ↔
      ∃ contents, (path, contents) ∈ inputsOf inside ∧ keeps old (path, contents) = true := by
  rw [BuildState.mem_changes, Change.of?_eq_notChanged]
  constructor
  · rintro ⟨digest, hold, hnew⟩
    obtain ⟨hne, contents, hfile, rfl⟩ := (get?_record hwf).1 hnew
    exact ⟨contents, (mem_inputsOf hwf).2 ⟨hne, hfile⟩, decide_eq_true hold⟩
  · rintro ⟨contents, hinput, hkeeps⟩
    obtain ⟨hne, hfile⟩ := (mem_inputsOf hwf).1 hinput
    exact ⟨_, of_decide_eq_true hkeeps, (get?_record hwf).2 ⟨hne, contents, hfile, rfl⟩⟩

theorem mem_renewed {path : String} :
    (∃ change, (path, change) ∈ old.changes (b.record (inputsOf inside)) ∧ renews change = true) ↔
      ∃ contents, (path, contents) ∈ inputsOf inside ∧ keeps old (path, contents) = false := by
  constructor
  · rintro ⟨change, hx, hrenews⟩
    have hchange : change = .added ∨ change = .changed := by
      cases change with
      | added => exact .inl rfl
      | changed => exact .inr rfl
      | notChanged => cases hrenews
      | removed => cases hrenews
    obtain ⟨contents, hinput⟩ := input_of_change hwf hx hchange
    refine ⟨contents, hinput, Bool.eq_false_iff.2 fun hkeeps => ?_⟩
    have hsame := BuildState.mem_changes.1 ((mem_notChanged b old hwf).2 ⟨contents, hinput, hkeeps⟩)
    rw [BuildState.mem_changes, hsame] at hx
    cases hx
    cases hrenews
  · rintro ⟨contents, hinput, hkeeps⟩
    rcases change_of_input (b := b) (s := old) hwf hinput with ⟨change, hx, rfl | rfl⟩ | ⟨-, hsame⟩
    · exact ⟨.added, hx, rfl⟩
    · exact ⟨.changed, hx, rfl⟩
    · exact absurd hsame (of_decide_eq_false hkeeps)

theorem mem_removed {path : String} :
    (path, .removed) ∈ old.changes (b.record (inputsOf inside)) ↔
      path ∈ old.files.keys ∧ path ∉ (inputsOf inside).map Prod.fst := by
  rw [removed_iff hwf, SortedMap.mem_keys, Option.isSome_iff_exists]
  simp

theorem countP_unchanged :
    (old.changes (b.record (inputsOf inside))).countP (fun x => x.2 = .notChanged) =
      (inputsOf inside).countP (keeps old) := by
  apply countP_eq_of_nodup (BuildState.nodup_changes _ _) (nodup_inputsOf hwf)
  intro path
  constructor
  · rintro ⟨⟨p, change⟩, hx, hchange, rfl⟩
    obtain rfl := of_decide_eq_true hchange
    obtain ⟨contents, hinput, hkeeps⟩ := (mem_notChanged b old hwf).1 hx
    exact ⟨(p, contents), hinput, hkeeps, rfl⟩
  · rintro ⟨⟨p, contents⟩, hinput, hkeeps, rfl⟩
    exact ⟨(p, .notChanged), (mem_notChanged b old hwf).2 ⟨contents, hinput, hkeeps⟩, rfl, rfl⟩

theorem countP_renewed (select : String → Bool) :
    (old.changes (b.record (inputsOf inside))).countP (fun x => renews x.2 && select x.1) =
      (inputsOf inside).countP fun f => !keeps old f && select f.1 := by
  apply countP_eq_of_nodup (BuildState.nodup_changes _ _) (nodup_inputsOf hwf)
  intro path
  constructor
  · rintro ⟨⟨p, change⟩, hx, hcounts, rfl⟩
    obtain ⟨hrenews, hselect⟩ := Bool.and_eq_true_iff.1 hcounts
    obtain ⟨contents, hinput, hkeeps⟩ := (mem_renewed b old hwf).1 ⟨change, hx, hrenews⟩
    exact ⟨(p, contents), hinput, by simp [hkeeps, hselect], rfl⟩
  · rintro ⟨⟨p, contents⟩, hinput, hcounts, rfl⟩
    obtain ⟨hkeeps, hselect⟩ := Bool.and_eq_true_iff.1 hcounts
    obtain ⟨change, hx, hrenews⟩ := (mem_renewed b old hwf).2 ⟨contents, hinput, by simpa using hkeeps⟩
    exact ⟨(p, change), hx, Bool.and_eq_true_iff.2 ⟨hrenews, hselect⟩, rfl⟩

theorem countP_removed :
    (old.changes (b.record (inputsOf inside))).countP (fun x => x.2 = .removed) =
      old.files.keys.countP fun path => path ∉ (inputsOf inside).map Prod.fst := by
  apply countP_eq_of_nodup (f := Prod.fst) (g := id) (BuildState.nodup_changes _ _)
  · rw [List.map_id]
    exact SortedMap.nodup_of_pairwise_lt old.files.sorted
  intro path
  constructor
  · rintro ⟨⟨p, change⟩, hx, hchange, rfl⟩
    obtain rfl := of_decide_eq_true hchange
    obtain ⟨hrecorded, hgone⟩ := (mem_removed b old hwf).1 hx
    exact ⟨p, hrecorded, decide_eq_true hgone, rfl⟩
  · rintro ⟨p, hrecorded, hgone, rfl⟩
    exact ⟨(p, .removed), (mem_removed b old hwf).2 ⟨hrecorded, of_decide_eq_true hgone⟩, rfl, rfl⟩

theorem counts_foldl :
    b.Counts old (inputsOf inside)
      ((old.changes (b.record (inputsOf inside))).foldl b.tallyChange {}) := by
  have hrewritten := foldl_rewritten b (old.changes (b.record (inputsOf inside))) {}
  have hcopied := foldl_copied b (old.changes (b.record (inputsOf inside))) {}
  have hunchanged := foldl_unchanged b (old.changes (b.record (inputsOf inside))) {}
  have hremoved := foldl_removed b (old.changes (b.record (inputsOf inside))) {}
  rw [countP_renewed b old hwf b.links, Nat.zero_add] at hrewritten
  rw [countP_renewed b old hwf (!b.links ·), Nat.zero_add] at hcopied
  rw [countP_unchanged b old hwf, Nat.zero_add] at hunchanged
  rw [countP_removed b old hwf, Nat.zero_add] at hremoved
  refine ⟨?_, hrewritten, hcopied, hunchanged, hremoved⟩
  rw [hrewritten, hcopied, hunchanged]
  exact countP_parts (keeps old) (b.links ·.1) (inputsOf inside)

end Inputs

end Build

end StubLinker
