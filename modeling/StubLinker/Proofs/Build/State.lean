import StubLinker.Build.State
import StubLinker.Proofs.Json.Object
import StubLinker.Proofs.SortedMap

namespace StubLinker

/-- What happened to an input, told by its digests in the two records. -/
def Change.of? : (old new : Option String) → Option Change
  | none, none => none
  | none, some _ => some .added
  | some _, none => some .removed
  | some o, some n => some (if o = n then .notChanged else .changed)

namespace Change

variable {o n : Option String}

theorem of?_eq_added : of? o n = some added ↔ o = none ∧ ∃ y, n = some y := by
  cases o <;> cases n <;> simp [of?]
  split <;> simp

theorem of?_eq_removed : of? o n = some removed ↔ (∃ x, o = some x) ∧ n = none := by
  cases o <;> cases n <;> simp [of?]
  split <;> simp

theorem of?_eq_changed : of? o n = some changed ↔ ∃ x y, o = some x ∧ n = some y ∧ x ≠ y := by
  cases o <;> cases n <;> simp [of?]

theorem of?_eq_notChanged : of? o n = some notChanged ↔ ∃ x, o = some x ∧ n = some x := by
  cases o <;> cases n <;> simp [of?, eq_comm]

end Change

namespace BuildState

variable {s t : BuildState} {p : String} {change : Change}

theorem mem_current :
    (p, change) ∈ t.files.entries.map (fun e => (e.1, statusOf (s.files.get? e.1) e.2)) ↔
      ∃ digest, t.files.get? p = some digest ∧ change = statusOf (s.files.get? p) digest := by
  rw [List.mem_map]
  constructor
  · rintro ⟨e, he, heq⟩
    cases heq
    exact ⟨e.2, SortedMap.mem_entries.1 he, rfl⟩
  · rintro ⟨digest, hdigest, rfl⟩
    exact ⟨(p, digest), SortedMap.mem_entries.2 hdigest, rfl⟩

theorem mem_gone : p ∈ s.files.keys.filter (fun path => (t.files.get? path).isNone) ↔
    (s.files.get? p).isSome = true ∧ t.files.get? p = none := by
  rw [List.mem_filter, SortedMap.mem_keys, Option.isNone_iff_eq_none]

theorem mem_changes :
    (p, change) ∈ s.changes t ↔ Change.of? (s.files.get? p) (t.files.get? p) = some change := by
  have hgone : (p, change) ∈ (s.files.keys.filter fun path => (t.files.get? path).isNone).map
      (fun path => (path, Change.removed)) ↔
        ((s.files.get? p).isSome = true ∧ t.files.get? p = none) ∧ change = .removed := by
    rw [← mem_gone, List.mem_map]
    constructor
    · rintro ⟨path, hpath, heq⟩
      cases heq
      exact ⟨hpath, rfl⟩
    · rintro ⟨hpath, rfl⟩
      exact ⟨p, hpath, rfl⟩
  rw [changes, List.mem_mergeSort, List.mem_append, mem_current, hgone]
  generalize s.files.get? p = old
  generalize t.files.get? p = new
  cases old <;> cases new <;> simp [Change.of?, statusOf, @eq_comm _ change]

theorem eq_added_of_mem_changes (hs : s.files.get? p = none)
    (h : (p, change) ∈ s.changes t) : change = .added := by
  rw [mem_changes, hs] at h
  cases hnew : t.files.get? p with
  | none =>
    rw [hnew] at h
    cases h
  | some digest =>
    rw [hnew] at h
    exact (Option.some.inj h).symm

theorem nodup_joined (s t : BuildState) :
    ((t.files.entries.map (fun e => (e.1, statusOf (s.files.get? e.1) e.2)) ++
      (s.files.keys.filter fun path => (t.files.get? path).isNone).map
        fun path => (path, Change.removed)).map Prod.fst).Nodup := by
  rw [List.map_append, List.map_map, List.map_map, List.nodup_append']
  have hcurrent : (t.files.entries.map Prod.fst).Nodup :=
    SortedMap.nodup_of_pairwise_lt t.files.sorted
  have hgone : (s.files.keys.filter fun path => (t.files.get? path).isNone).Nodup :=
    (SortedMap.nodup_of_pairwise_lt s.files.sorted).filter _
  refine ⟨hcurrent, by simpa [Function.comp_def] using hgone, fun path hpath hmem => ?_⟩
  have hkey : path ∈ t.files.keys := hpath
  have hnone : path ∈ s.files.keys.filter fun path => (t.files.get? path).isNone := by
    simpa [Function.comp_def] using hmem
  rw [SortedMap.mem_keys, (mem_gone.1 hnone).2] at hkey
  cases hkey

theorem pairwise_changes (s t : BuildState) : (s.changes t).Pairwise fun a b => a.1 < b.1 := by
  have htrans (a b c : String × Change) (hab : decide (a.1 ≤ b.1) = true)
      (hbc : decide (b.1 ≤ c.1) = true) : decide (a.1 ≤ c.1) = true :=
    decide_eq_true (String.le_trans (of_decide_eq_true hab) (of_decide_eq_true hbc))
  have htotal (a b : String × Change) : (decide (a.1 ≤ b.1) || decide (b.1 ≤ a.1)) = true := by
    rw [Bool.or_eq_true, decide_eq_true_iff, decide_eq_true_iff]
    exact String.le_total a.1 b.1
  have hsorted : (s.changes t).Pairwise fun a b => decide (a.1 ≤ b.1) = true :=
    List.pairwise_mergeSort htrans htotal _
  have hnodup : ((s.changes t).map Prod.fst).Nodup :=
    ((List.mergeSort_perm _ _).map Prod.fst).nodup_iff.2 (nodup_joined s t)
  -- sorted paths of which none comes twice are in strict order
  refine hsorted.imp₂ (fun a b hle hne => ?_) (List.pairwise_map.1 hnodup)
  exact Std.lt_of_le_of_ne (of_decide_eq_true hle) hne

section Merge

variable {old new : List (String × String)} {key : String}

/-- What happened to the inputs of two ordered lists of digests, told in one pass over both. -/
def merge : (old new : List (String × String)) → List (String × Change)
  | [], new => new.map fun n => (n.1, .added)
  | old, [] => old.map fun o => (o.1, .removed)
  | o :: old, n :: new =>
    if o.1 < n.1 then (o.1, .removed) :: merge old (n :: new)
    else if n.1 < o.1 then (n.1, .added) :: merge (o :: old) new
    else (n.1, if o.2 = n.2 then .notChanged else .changed) :: merge old new
termination_by old new => old.length + new.length

theorem lookup_eq_none_of_lt (h : ∀ e ∈ old, key < e.1) : old.lookup key = none := by
  rw [List.lookup_eq_none_iff]
  intro e he
  simpa using fun heq : key = e.1 => String.lt_irrefl key (heq ▸ h e he)

theorem forall_lt_cons {n : String × String} (hlt : key < n.1)
    (hn : (n :: new).Pairwise fun a b => a.1 < b.1) : ∀ e ∈ n :: new, key < e.1 :=
  List.forall_mem_cons.2 ⟨hlt, fun e he => String.lt_trans hlt ((List.pairwise_cons.1 hn).1 e he)⟩

theorem lookup_cons_ne {o : String × String} (h : p ≠ o.1) : (o :: old).lookup p = old.lookup p := by
  rw [List.lookup_cons, beq_false_of_ne h]

theorem mem_map_change {es : List (String × String)} {c : Change} :
    (p, change) ∈ es.map (fun e => (e.1, c)) ↔ (es.lookup p).isSome = true ∧ change = c := by
  induction es with
  | nil => simp
  | cons e es ih =>
    rw [List.map_cons, List.mem_cons, ih, Prod.mk.injEq]
    by_cases hp : p = e.1
    · subst hp
      rw [List.lookup_cons_self]
      simp
    · rw [lookup_cons_ne hp]
      simp [hp]

theorem mem_merge (ho : old.Pairwise fun a b => a.1 < b.1) (hn : new.Pairwise fun a b => a.1 < b.1) :
    (p, change) ∈ merge old new ↔ Change.of? (old.lookup p) (new.lookup p) = some change := by
  -- the smaller of two first paths is in neither list behind it
  fun_induction merge old new with
  | case1 new =>
    rw [mem_map_change, List.lookup_nil]
    cases new.lookup p <;> simp [Change.of?, eq_comm]
  | case2 old hne =>
    rw [mem_map_change, List.lookup_nil]
    cases old.lookup p <;> simp [Change.of?, eq_comm]
  | case3 o old n new hlt ih =>
    obtain ⟨hlto, ho⟩ := List.pairwise_cons.1 ho
    have hbelow := forall_lt_cons hlt hn
    rw [List.mem_cons, ih ho hn, Prod.mk.injEq]
    by_cases hp : p = o.1
    · subst hp
      rw [List.lookup_cons_self, lookup_eq_none_of_lt hlto, lookup_eq_none_of_lt hbelow]
      simp [Change.of?, eq_comm]
    · rw [lookup_cons_ne hp]
      simp [hp]
  | case4 o old n new hlt hlt' ih =>
    obtain ⟨hltn, hn⟩ := List.pairwise_cons.1 hn
    have hbelow := forall_lt_cons hlt' ho
    rw [List.mem_cons, ih ho hn, Prod.mk.injEq]
    by_cases hp : p = n.1
    · subst hp
      rw [List.lookup_cons_self, lookup_eq_none_of_lt hltn, lookup_eq_none_of_lt hbelow]
      simp [Change.of?, eq_comm]
    · rw [lookup_cons_ne hp]
      simp [hp]
  | case5 o old n new hlt hlt' ih =>
    obtain ⟨hlto, ho⟩ := List.pairwise_cons.1 ho
    obtain ⟨hltn, hn⟩ := List.pairwise_cons.1 hn
    have heq : o.1 = n.1 := String.le_antisymm (String.not_lt.1 hlt') (String.not_lt.1 hlt)
    rw [List.mem_cons, ih ho hn, Prod.mk.injEq]
    by_cases hp : p = n.1
    · subst hp
      rw [List.lookup_cons_self, ← heq, List.lookup_cons_self, lookup_eq_none_of_lt hlto]
      rw [heq, lookup_eq_none_of_lt hltn]
      simp [Change.of?, eq_comm]
    · rw [lookup_cons_ne hp, lookup_cons_ne (heq ▸ hp)]
      simp [hp]

theorem lt_of_mem_merge (ho : ∀ e ∈ old, key < e.1) (hn : ∀ e ∈ new, key < e.1) :
    ∀ c ∈ merge old new, key < c.1 := by
  fun_induction merge old new with
  | case1 new => exact List.forall_mem_map.2 hn
  | case2 old hne => exact List.forall_mem_map.2 ho
  | case3 o old n new hlt ih =>
    obtain ⟨hfirst, ho⟩ := List.forall_mem_cons.1 ho
    exact List.forall_mem_cons.2 ⟨hfirst, ih ho hn⟩
  | case4 o old n new hlt hlt' ih =>
    obtain ⟨hfirst, hn⟩ := List.forall_mem_cons.1 hn
    exact List.forall_mem_cons.2 ⟨hfirst, ih ho hn⟩
  | case5 o old n new hlt hlt' ih =>
    obtain ⟨-, ho⟩ := List.forall_mem_cons.1 ho
    obtain ⟨hfirst, hn⟩ := List.forall_mem_cons.1 hn
    exact List.forall_mem_cons.2 ⟨hfirst, ih ho hn⟩

theorem pairwise_merge (ho : old.Pairwise fun a b => a.1 < b.1)
    (hn : new.Pairwise fun a b => a.1 < b.1) :
    (merge old new).Pairwise fun a b => a.1 < b.1 := by
  fun_induction merge old new with
  | case1 new => exact List.pairwise_map.2 hn
  | case2 old hne => exact List.pairwise_map.2 ho
  | case3 o old n new hlt ih =>
    obtain ⟨hlto, ho⟩ := List.pairwise_cons.1 ho
    exact List.pairwise_cons.2 ⟨lt_of_mem_merge hlto (forall_lt_cons hlt hn), ih ho hn⟩
  | case4 o old n new hlt hlt' ih =>
    obtain ⟨hltn, hn⟩ := List.pairwise_cons.1 hn
    exact List.pairwise_cons.2 ⟨lt_of_mem_merge (forall_lt_cons hlt' ho) hltn, ih ho hn⟩
  | case5 o old n new hlt hlt' ih =>
    obtain ⟨hlto, ho⟩ := List.pairwise_cons.1 ho
    obtain ⟨hltn, hn⟩ := List.pairwise_cons.1 hn
    have heq : o.1 = n.1 := String.le_antisymm (String.not_lt.1 hlt') (String.not_lt.1 hlt)
    exact List.pairwise_cons.2 ⟨lt_of_mem_merge (heq ▸ hlto) hltn, ih ho hn⟩

theorem changes_eq_merge (s t : BuildState) : s.changes t = merge s.files.entries t.files.entries := by
  have : Std.Irrefl fun a b : String × Change => a.1 < b.1 := ⟨fun a => String.lt_irrefl a.1⟩
  have : Std.Antisymm fun a b : String × Change => a.1 < b.1 :=
    ⟨fun a b hab hba => absurd hba (String.lt_asymm hab)⟩
  have hmerge := pairwise_merge s.files.sorted t.files.sorted
  apply (pairwise_changes s t).eq_of_mem_iff hmerge
  rintro ⟨p, change⟩
  rw [mem_changes, mem_merge s.files.sorted t.files.sorted]
  rfl

end Merge

theorem isSpace_blank : ∀ c ∈ [' '], Json.isSpace c = true := by
  rw [List.forall_mem_singleton]
  decide

theorem readDigest_quote (files : SortedMap String) (path digest : String) (rest : List Char) :
    readDigest files path (':' :: ' ' :: ((Json.quote digest).toList ++ rest)) =
      .ok (files.insert path digest, rest) := by
  have hread := Json.readText_quote isSpace_blank digest rest
  rw [List.singleton_append] at hread
  rw [readDigest, Json.readColon_colon, Except.ok_bind]
  exact Except.bind_eq_ok.2 ⟨_, hread, rfl⟩

theorem reads_digests (es : List (String × String)) (m : SortedMap String) :
    Json.Reads readDigest m (es.map fun e => (e.1, Json.quote e.2))
      (es.foldl (fun m e => m.insert e.1 e.2) m) := by
  induction es generalizing m with
  | nil => exact .nil m
  | cons e es ih => exact .cons (readDigest_quote m e.1 e.2) (ih _)

theorem readFiles_prettyObject (files : SortedMap String) (level : Nat) (rest : List Char) :
    readFiles (' ' ::
      ((Json.prettyObject level (files.entries.map fun e => (e.1, Json.quote e.2))).toList ++ rest)) =
        .ok (files, rest) := by
  have hreads := reads_digests files.entries .empty
  rw [show files.entries.foldl (fun m e => m.insert e.1 e.2) .empty = files from
    SortedMap.ofList_entries files] at hreads
  obtain ⟨body, tail, hbody, hread⟩ := Json.readObject_prettyObject hreads level
  obtain ⟨hobject, hclose⟩ := hread rest
  have hskip : Json.skipSpace (' ' :: '{' :: (body ++ rest)) = '{' :: (body ++ rest) := rfl
  rw [hbody, List.cons_append, readFiles, hskip]
  dsimp only
  exact Except.bind_eq_ok.2 ⟨_, hobject, Except.bind_eq_ok.2 ⟨_, hclose, rfl⟩⟩

theorem readField_settings (settings : String) (rest : List Char) :
    readField {} "settings" (':' :: ' ' :: ((Json.quote settings).toList ++ rest)) =
      .ok ({ settings := some settings }, rest) := by
  have hread := Json.readText_quote isSpace_blank settings rest
  rw [List.singleton_append] at hread
  rw [readField, if_pos rfl, if_neg (by decide), Json.readColon_colon, Except.ok_bind]
  exact Except.bind_eq_ok.2 ⟨_, hread, rfl⟩

theorem readField_files (settings : String) (files : SortedMap String) (rest : List Char) :
    readField { settings := some settings } "files" (':' :: ' ' ::
      ((Json.prettyObject 1 (files.entries.map fun e => (e.1, Json.quote e.2))).toList ++ rest)) =
        .ok ({ settings := some settings, files := some files }, rest) := by
  rw [readField, if_neg (by decide), if_pos rfl]
  dsimp only [Option.isSome]
  rw [if_neg Bool.false_ne_true, Json.readColon_colon, Except.ok_bind]
  exact Except.bind_eq_ok.2 ⟨_, readFiles_prettyObject files 1 rest, rfl⟩

theorem ofJson_toJson (s : BuildState) : ofJson s.toJson = .ok s := by
  have hreads : Json.Reads readField {} [("settings", Json.quote s.settings), ("files",
      Json.prettyObject 1 (s.files.entries.map fun e => (e.1, Json.quote e.2)))]
      { settings := some s.settings, files := some s.files } :=
    .cons (readField_settings s.settings) (.cons (readField_files s.settings s.files) (.nil _))
  obtain ⟨body, tail, hbody, hread⟩ := Json.readObject_prettyObject hreads 0
  obtain ⟨hobject, hclose⟩ := hread []
  rw [List.append_nil] at hobject
  have hskip : Json.skipSpace ('{' :: body) = '{' :: body := rfl
  rw [ofJson, Json.readAll, toJson, hbody, Json.readRecord, hskip]
  dsimp only
  refine Except.bind_eq_ok.2 ⟨(s, []), ?_, rfl⟩
  refine Except.bind_eq_ok.2 ⟨(s, tail ++ []), ?_, Except.bind_eq_ok.2 ⟨_, hclose, rfl⟩⟩
  exact Except.bind_eq_ok.2 ⟨_, hobject, rfl⟩

end BuildState

end StubLinker
