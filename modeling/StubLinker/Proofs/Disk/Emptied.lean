import StubLinker.Proofs.Disk.Pruning

namespace StubLinker

namespace Disk

variable {d d' d'' : Disk} {lo : Location} {inside f : Folder}

/-- Just the folders below a location that hold a file are left, with their files. All else is as
before. -/
structure Emptied (lo : Location) (d d' : Disk) : Prop where
  current : d'.current = d.current
  wellFormed : d'.root.WellFormed
  fileAt? : ∀ k, d'.root.fileAt? k = d.root.fileAt? k
  outside : ∀ k, ¬lo <+: k → d'.root.kind? k = d.root.kind? k
  self : d'.root.kind? lo = some .folder
  below : ∀ k, k ≠ [] →
    (d'.root.kind? (lo ++ k) = some .folder ↔
      ∃ m c, m ≠ [] ∧ d.root.fileAt? (lo ++ k ++ m) = some c)

theorem emptied_of_pruned (hlists : d.Lists lo f) (hcurrent : d'.current = d.current)
    (hwf : d'.root.WellFormed) (hinside : ∀ k, d'.root.kind? (lo ++ k) = f.pruned.kind? k)
    (houtside : ∀ k, ¬lo <+: k → d'.root.kind? k = d.root.kind? k) : d.Emptied lo d' := by
  have hf := hlists.distinct
  have hbefore (k : Location) : d.root.fileAt? (lo ++ k) = f.fileAt? k :=
    Folder.fileAt?_of_kind? (hlists.kind? k)
  refine ⟨hcurrent, hwf, fun k => ?_, houtside, ?_, fun k hk => ?_⟩
  · by_cases hpre : lo <+: k
    · obtain ⟨m, rfl⟩ := hpre
      rw [Folder.fileAt?_of_kind? (hinside m), Folder.fileAt?_pruned hf, hbefore]
    · exact Folder.fileAt?_of_kind? (houtside k hpre)
  · have hself := hinside []
    rwa [List.append_nil, Folder.kind?_nil] at hself
  · rw [hinside, Folder.kind?_eq_folder (Folder.distinct_pruned hf) (Folder.trimmed_pruned f)]
    simp only [hk, false_or, Folder.fileAt?_pruned hf, List.append_assoc, hbefore]

theorem emptied_put_pruned (hd : d.root.WellFormed)
    (hat : d.root.at? lo = some (.folder inside)) :
    d.Emptied lo (d.put lo (.folder inside.pruned)) := by
  have hlists := lists_of_at? hd hat
  have hkind := kind?_put_folder inside.pruned hlists.folder
  apply emptied_of_pruned hlists (current_put d lo _)
  · exact wellFormed_put_folder hd hlists.folder (Folder.wellFormed_pruned (hd.at? hat))
  · exact kind?_put_pruned hlists.folder
  · intro k hk
    rw [hkind, if_neg hk]

theorem Emptied.trims (h : d.Emptied lo d') (hlo : d.root.kind? lo = some .folder) :
    d.Trims lo d' := by
  refine ⟨h.current, h.wellFormed, h.fileAt?, fun k => ?_⟩
  by_cases hpre : lo <+: k
  swap
  · exact .inl (h.outside k hpre)
  obtain ⟨m, rfl⟩ := hpre
  by_cases hm : m = []
  · rw [hm, List.append_nil, h.self, hlo]
    exact .inl rfl
  by_cases hkept : d'.root.kind? (lo ++ m) = some .folder
  · left
    obtain ⟨t, c, ht, hc⟩ := (h.below m hm).1 hkept
    have hwas : d.root.kind? (lo ++ m) = some .folder :=
      Folder.kind?_of_append (by rw [Folder.fileAt?_eq_some.1 hc]; rfl) ht
    rw [hkept, hwas]
  by_cases hwas : d.root.kind? (lo ++ m) = some .folder
  · have hnofile : d.root.fileAt? (lo ++ m) = none := by rw [Folder.fileAt?, hwas]
    -- the folder went away, so there was no file below it
    refine .inr ⟨⟨m, hm, rfl⟩, hwas, ?_, fun t => ?_⟩
    · rw [← h.fileAt?] at hnofile
      cases hk : d'.root.kind? (lo ++ m) with
      | none => rfl
      | some kind =>
        cases kind with
        | file c =>
          rw [Folder.fileAt?_eq_some.2 hk] at hnofile
          cases hnofile
        | folder => exact absurd hk hkept
    · cases hc : d.root.fileAt? (lo ++ m ++ t) with
      | none => rfl
      | some c =>
        refine absurd ((h.below m hm).2 ⟨t, c, ?_, hc⟩) hkept
        rintro rfl
        rw [List.append_nil, hnofile] at hc
        cases hc
  · left
    apply Folder.kind?_eq_of_fileAt? (h.fileAt? _)
    simp only [hkept, hwas]

theorem Emptied.unique (h : d.Emptied lo d') (h' : d.Emptied lo d'') : d' = d'' := by
  have hroot : d'.root = d''.root := by
    apply Folder.eq_of_kind? h.wellFormed h'.wellFormed
    intro k
    by_cases hpre : lo <+: k
    · obtain ⟨m, rfl⟩ := hpre
      by_cases hm : m = []
      · rw [hm, List.append_nil, h.self, h'.self]
      · apply Folder.kind?_eq_of_fileAt?
        · rw [h.fileAt?, h'.fileAt?]
        · rw [h.below m hm, h'.below m hm]
    · rw [h.outside k hpre, h'.outside k hpre]
  have hcurrent : d'.current = d''.current := h.current.trans h'.current.symm
  cases d'
  cases d''
  cases hroot
  cases hcurrent
  rfl

end Disk

namespace Session

variable {d d' : Disk} {path : String} {lo : Location} {inside f : Folder} {bare : Bool}

section Listing

variable (hd : d.root.WellFormed) (hresolve : d.resolve path = .ok lo) (hlists : d.Lists lo f)

include hd hresolve hlists

theorem pruneEach_eq_error {e : DiskError} (h : runOn (pruneEach path f) d = (.error e, d')) :
    d.Trims lo d' ∧ e ≠ .folderNotEmpty := by
  obtain ⟨rfl, -⟩ := Disk.resolve_eq_ok hresolve
  have hstart : ∃ pre, Path.locate d.current path = Path.locate d.current path ++ pre :=
    ⟨[], (List.append_nil _).symm⟩
  have htrims := trims_pruneEach hlists.distinct hstart d hd rfl
  rw [h] at htrims
  refine ⟨htrims, ?_⟩
  rintro rfl
  exact pruneEach_ne_folderNotEmpty hd hlists.distinct (fun n _ k => hlists.kind? (n :: k)) h

theorem emptied_of_pruneEach (h : runOn (pruneEach path f) d = (.ok bare, d')) :
    d.Emptied lo d' ∧ (bare = true ↔ d'.root.at? lo = some (.folder .empty)) := by
  obtain ⟨rfl, -⟩ := Disk.resolve_eq_ok hresolve
  obtain ⟨hprunes, rfl⟩ :=
    pruneEach_eq_ok hd hlists.distinct (fun n _ k => hlists.kind? (n :: k)) h
  have hleft : d'.Lists (Path.locate d.current path) f.pruned :=
    ⟨Folder.distinct_pruned hlists.distinct, hprunes.kind? hlists.kind?⟩
  refine ⟨Disk.emptied_of_pruned hlists hprunes.current hprunes.wellFormed hleft.kind?
    (fun k => hprunes.off), ?_⟩
  rw [decide_eq_true_eq, hleft.eq_empty_iff hprunes.wellFormed]

theorem pruneEach_outcome {r : Except DiskError Bool} (h : runOn (pruneEach path f) d = (r, d')) :
    d.Trims lo d' ∧ r ≠ .error .folderNotEmpty ∧
      ∀ bare, r = .ok bare →
        d.Emptied lo d' ∧ (bare = true ↔ d'.root.at? lo = some (.folder .empty)) := by
  cases r with
  | error e =>
    obtain ⟨htrims, hne⟩ := pruneEach_eq_error hd hresolve hlists h
    refine ⟨htrims, ?_, fun bare hbare => by cases hbare⟩
    rintro ⟨⟩
    exact hne rfl
  | ok bare =>
    have hemptied := emptied_of_pruneEach hd hresolve hlists h
    refine ⟨hemptied.1.trims hlists.folder, by rintro ⟨⟩, ?_⟩
    rintro _ ⟨⟩
    exact hemptied

theorem pruneEach_of_has (hhas : (d.put lo (.folder inside.pruned)).has path = true)
    (hat : d.root.at? lo = some (.folder inside)) (hspells : Disk.SpellsFolders path f) :
    ∃ bare d', runOn (pruneEach path f) d = (.ok bare, d') := by
  have hlo := hlists.folder
  have hi := Disk.lists_of_at? hd hat
  have hlocate : Path.locate (d.put lo (.folder inside.pruned)).current path = lo := by
    rw [Disk.current_put, ← (Disk.resolve_eq_ok hresolve).1]
  have hresolveLeft := Disk.has_iff.1 hhas
  rw [hlocate] at hresolveLeft
  apply pruneEach_succeeds hd hlists.distinct (fun n _ k => hlists.kind? (n :: k))
    (Disk.keeps_put_pruned hi.distinct hi.kind?) hresolveLeft _ _ hspells
  · exact Disk.kind?_of_view (Disk.kind?_put_pruned hlo)
  · intro n _ k hk
    rw [Disk.kind?_put_pruned hlo] at hk
    rw [← hk]
    apply Folder.kind?_pruned_congr hlists.distinct hi.distinct
    exact fun k => (hlists.kind? k).symm.trans (hi.kind? k)

end Listing

section Outcome

variable (hd : d.root.WellFormed) (hresolve : d.resolve path = .ok lo)
  (hat : d.root.at? lo = some (.folder inside))

include hd hresolve hat

theorem prune_outcome {r : Except DiskError Unit} (h : runOn (prune path) d = (r, d')) :
    d.Trims lo d' ∧ r ≠ .error .folderNotEmpty ∧ (r = .ok () → d.Emptied lo d') := by
  have hlists := Disk.lists_of_at? hd hat
  have hget := Disk.getFolder_of_resolve hresolve hat
  rw [prune, runOn_bind, runOn_look, hget] at h
  dsimp only at h
  rw [runOn_bind] at h
  cases hrun : runOn (pruneEach path inside) d with
  | mk result made =>
    obtain ⟨htrims, hne, hok⟩ := pruneEach_outcome hd hresolve hlists hrun
    rw [hrun] at h
    cases result with
    | error e =>
      cases h
      refine ⟨htrims, ?_, by rintro ⟨⟩⟩
      rintro ⟨⟩
      exact hne rfl
    | ok bare =>
      cases h
      exact ⟨htrims, by rintro ⟨⟩, fun _ => (hok bare rfl).1⟩

/-- As long as the path leads on, pruning leaves in any order of the entries what pruning the tree in
one step leaves. -/
theorem pruneEach_of_leads
    (hleads : ".." ∉ Path.steps path ∨ (d.put lo (.folder inside.pruned)).has path = true)
    (hspells : Disk.SpellsFolders path inside) (hlists : d.Lists lo f) :
    ∃ bare, runOn (pruneEach path f) d = (.ok bare, d.put lo (.folder inside.pruned)) := by
  have hi := Disk.lists_of_at? hd hat
  have hhas : (d.put lo (.folder inside.pruned)).has path = true := by
    rcases hleads with hup | hhas
    · exact Disk.has_put_pruned hup hresolve hi.folder
    · exact hhas
  have hspellsEach := hlists.spellsFolders_iff.2 (hi.spellsFolders_iff.1 hspells)
  obtain ⟨bare, d', hrun⟩ := pruneEach_of_has hd hresolve hlists hhas hat hspellsEach
  have heach := (emptied_of_pruneEach hd hresolve hlists hrun).1
  exact ⟨bare, by rw [hrun, heach.unique (Disk.emptied_put_pruned hd hat)]⟩

theorem prune_of_leads
    (hleads : ".." ∉ Path.steps path ∨ (d.put lo (.folder inside.pruned)).has path = true)
    (hspells : Disk.SpellsFolders path inside) :
    runOn (prune path) d = (.ok (), d.put lo (.folder inside.pruned)) := by
  obtain ⟨bare, hrun⟩ :=
    pruneEach_of_leads hd hresolve hat hleads hspells (Disk.lists_of_at? hd hat)
  exact prune_eq_ok_iff.2 ⟨inside, bare, Disk.getFolder_of_resolve hresolve hat, hrun⟩

/-- Pruning takes folders without files away and nothing else, and never tries to remove one that
has entries. If it succeeds, just the folders that hold a file are left, and it tells whether the
folder itself is left without entries. It succeeds wherever the path does not lead up, or leads to
the folder also without those that go away. All of this holds in whatever order the entries of the
folders are listed, and where it is sure to succeed the order makes no difference. -/
theorem prune_empties :
    (∀ f, d.Lists lo f → ∀ r d', runOn (pruneEach path f) d = (r, d') →
      d.Trims lo d' ∧ r ≠ .error .folderNotEmpty ∧
        ∀ bare, r = .ok bare →
          d.Emptied lo d' ∧ (bare = true ↔ d'.root.at? lo = some (.folder .empty))) ∧
      (∀ r d', runOn (prune path) d = (r, d') →
        d.Trims lo d' ∧ r ≠ .error .folderNotEmpty ∧ (r = .ok () → d.Emptied lo d')) ∧
      (".." ∉ Path.steps path ∨ (d.put lo (.folder inside.pruned)).has path = true →
        Disk.SpellsFolders path inside →
        ∃ d', runOn (prune path) d = (.ok (), d') ∧
          ∀ f, d.Lists lo f → ∃ bare, runOn (pruneEach path f) d = (.ok bare, d')) :=
  ⟨fun _ hlists _ _ => pruneEach_outcome hd hresolve hlists, fun _ _ => prune_outcome hd hresolve hat,
    fun hleads hspells => ⟨_, prune_of_leads hd hresolve hat hleads hspells,
      fun _ => pruneEach_of_leads hd hresolve hat hleads hspells⟩⟩

end Outcome

/-- A folder is pruned if its path leads to it even when nothing is in it, and the folders below it
can be looked up. -/
theorem prune_of_resolve (hd : d.root.WellFormed) (hb : d.resolve path = .ok lo)
    (hlo : d.root.kind? lo = some .folder)
    (hempty : (d.put lo (.folder .empty)).resolve path = .ok lo) (hspells : d.SpellsBelow path lo) :
    ∃ d', runOn (prune path) d = (.ok (), d') := by
  obtain ⟨inside, hat⟩ := Disk.at?_of_folder hlo
  have hhas : (d.put lo (.folder inside.pruned)).has path = true :=
    Disk.has_of_resolve (Disk.resolve_put inside.pruned rfl hlo hlo (fun _ _ hk => hk) hempty)
  have hspellsEach := (Disk.lists_of_at? hd hat).spellsFolders_iff.2 hspells
  exact ⟨_, prune_of_leads hd hb hat (.inr hhas) hspellsEach⟩

theorem spellsBelow_of_prune (hd : d.root.WellFormed) (hb : d.resolve path = .ok lo)
    (h : runOn (prune path) d = (.ok (), d')) : d.SpellsBelow path lo := by
  obtain ⟨inside, bare, hinside, heach⟩ := prune_eq_ok_iff.1 h
  obtain ⟨hresolve, hat⟩ := Disk.get_eq_ok (Disk.getFolder_eq_ok.1 hinside)
  rw [hb] at hresolve
  cases hresolve
  have hlists := Disk.lists_of_at? hd hat
  exact hlists.spellsFolders_iff.1 (spellsFolders_of_pruneEach hlists.distinct heach)

section Examples

def halfEmpty : Folder :=
  .file "a.txt" (Bytes.ofText "1") (.folder "x" .empty (.folder "y" (.folder "z" .empty .empty) .empty))

def untidy : Disk where
  root := .folder "out" halfEmpty .empty

theorem wellFormed_untidy : untidy.root.WellFormed :=
  ⟨by decide, by decide, ⟨by decide, by decide, by decide, by decide, trivial, by decide, by decide,
    ⟨by decide, by decide, trivial, trivial⟩, trivial⟩, trivial⟩

theorem spellsFolders_halfEmpty : Disk.SpellsFolders "out" halfEmpty :=
  ⟨⟨by decide, by decide⟩, trivial, ⟨by decide, by decide⟩, ⟨⟨by decide, by decide⟩, trivial, trivial⟩,
    trivial⟩

theorem prune_empties_untidy : ∃ d', runOn (prune "out") untidy = (.ok (), d') ∧
    untidy.Emptied ["out"] d' := by
  have hresolve : untidy.resolve "out" = .ok ["out"] := by decide
  have hat : untidy.root.at? ["out"] = some (.folder halfEmpty) := rfl
  obtain ⟨-, hprune, hsucceeds⟩ := prune_empties wellFormed_untidy hresolve hat
  obtain ⟨d', hrun, -⟩ := hsucceeds (.inl (by decide)) spellsFolders_halfEmpty
  exact ⟨d', hrun, (hprune _ d' hrun).2.2 rfl⟩

/-- A path through two folders that go away leads nowhere once one of them is gone, and the other one
is left. -/
theorem not_emptied_detour : untidy.resolve "out/x/../y/.." = .ok ["out"] ∧
    ∃ d', runOn (prune "out/x/../y/..") untidy = (.error .notFound, d') ∧
      ¬untidy.Emptied ["out"] d' := by
  refine ⟨by decide, (runOn (prune "out/x/../y/..") untidy).2, ?_, fun h => ?_⟩
  · apply runOn_eq_of_fst
    decide +kernel
  · have hleft : (runOn (prune "out/x/../y/..") untidy).2.root.kind? ["out", "x"] = some .folder := by
      decide +kernel
    obtain ⟨m, c, -, hc⟩ := (h.below ["x"] (by decide)).1 hleft
    have hempty : Folder.empty.fileAt? m = some c := by
      rw [← hc]
      exact (Folder.fileAt?_of_kind? (Folder.kind?_append_of_folder (rfl :
        untidy.root.at? ["out", "x"] = some (.folder .empty)) m)).symm
    cases m <;> cases hempty

end Examples

end Session

end StubLinker
