import StubLinker.Proofs.Build.UpToDate
import StubLinker.Proofs.Disk.Emptied

namespace StubLinker

theorem lt_append (a : String) {b : String} (hb : b ≠ "") : a < a ++ b := by
  have hlist : b.toList ≠ [] := fun h => hb (String.toList_injective (by simpa using h))
  rw [String.lt_iff_toList_lt, String.toList_append]
  induction a.toList with
  | nil =>
    obtain ⟨c, cs, hcs⟩ := List.exists_cons_of_ne_nil hlist
    rw [hcs]
    exact List.nil_lt_cons c cs
  | cons c cs ih => exact List.Lex.cons ih

theorem Path.lt_of_prefix {p q : String} (h : steps p <+: steps q) (hne : p ≠ q) : p < q := by
  obtain ⟨rest, hrest⟩ := h
  have hrestNe : rest ≠ [] := by
    rintro rfl
    rw [List.append_nil] at hrest
    exact hne (steps_injective hrest)
  have hq := intercalate_steps q
  rw [← hrest, String.intercalate_append_of_ne_nil (steps_ne_nil p) hrestNe, intercalate_steps,
    String.append_assoc] at hq
  rw [← hq]
  apply lt_append
  intro hempty
  have hlist := congrArg String.toList hempty
  simp at hlist

namespace Build

variable {b : Build} {w w' : World} {input output p : String} {li lo k : Location} {d d' : Disk}
  {s : Summary} {x : String × Change} {changes : List (String × Change)} {o : Bytes}

/-- An update that can be made but for what is in the way above it. -/
structure Updates (b : Build) (input output : String) (li lo : Location) (d : Disk) (p : String)
    (o : Bytes) : Prop where
  reads : Disk.Spells input p
  writes : Disk.Spells output p
  source : ∃ c, d.root.fileAt? (place li p) = some c ∧ b.outcome p c = .ok o
  room : d.root.kind? (place lo p) ≠ some .folder
  spares : ¬[BuildState.fileName] <+: Path.steps p

/-- Changes that can be made one after the other: what is removed is there, and what is in the way of
an update is removed. They leave room for the record, and the folders of the output can be looked
up. -/
structure Ready (b : Build) (input output : String) (li lo : Location)
    (changes : List (String × Change)) (d : Disk) : Prop where
  removed : ∀ p, (p, .removed) ∈ changes →
    Disk.Spells output p ∧ (d.root.fileAt? (place lo p)).isSome = true
  updated : ∀ x ∈ changes, x.2 = .added ∨ x.2 = .changed →
    (∃ o, b.Updates input output li lo d x.1 o) ∧
      ∀ m, m <+: Path.steps x.1 → m ≠ Path.steps x.1 → (d.root.fileAt? (lo ++ m)).isSome = true →
        ∃ p, (p, .removed) ∈ changes ∧ Path.steps p = m
  record : d.root.kind? (place lo BuildState.fileName) ≠ some .folder
  folders : d.SpellsBelow output lo

theorem Updates.of_removed {q : String} (h : b.Updates input output li lo d p o)
    (hapart : Apart li lo)
    (hkind : ∀ k, d'.root.kind? k = if k = place lo q then none else d.root.kind? k) :
    b.Updates input output li lo d' p o := by
  obtain ⟨c, hc, ho⟩ := h.source
  refine ⟨h.reads, h.writes, ⟨c, ?_, ho⟩, ?_, h.spares⟩
  · rw [Folder.fileAt?_of_kind? ((hkind _).trans (if_neg (hapart.place_ne p q)))]
    exact hc
  · rw [hkind]
    split
    · simp
    · exact h.room

theorem Ready.removed_tail (h : b.Ready input output li lo ((p, .removed) :: changes) d)
    (hapart : Apart li lo) (hlt : ∀ y ∈ changes, p < y.1)
    (hkind : ∀ k, d'.root.kind? k = if k = place lo p then none else d.root.kind? k) :
    b.Ready input output li lo changes d' := by
  have hother {k : Location} (hk : k ≠ place lo p) : d'.root.fileAt? k = d.root.fileAt? k :=
    Folder.fileAt?_of_kind? ((hkind k).trans (if_neg hk))
  refine ⟨fun q hq => ?_, fun x hx hchange => ?_, ?_, ?_⟩
  · obtain ⟨hsp, hfile⟩ := h.removed q (List.mem_cons_of_mem _ hq)
    refine ⟨hsp, ?_⟩
    rw [hother]
    · exact hfile
    · intro heq
      exact String.lt_irrefl p (place_injective heq ▸ hlt _ hq)
  · obtain ⟨⟨o, hupdate⟩, hway⟩ := h.updated x (List.mem_cons_of_mem _ hx) hchange
    refine ⟨⟨o, hupdate.of_removed hapart hkind⟩, fun m hm hne hfile => ?_⟩
    -- a file that a later change still finds in its way is another one
    have hgone : lo ++ m ≠ place lo p := by
      intro heq
      rw [heq, Folder.fileAt?, hkind, if_pos rfl] at hfile
      cases hfile
    rw [hother hgone] at hfile
    obtain ⟨q, hq, hsteps⟩ := hway m hm hne hfile
    refine ⟨q, (List.mem_cons.1 hq).resolve_left ?_, hsteps⟩
    intro heq
    rw [Prod.mk.injEq] at heq
    exact hgone (by rw [place, ← heq.1, hsteps])
  · rw [hkind]
    split
    · simp
    · exact h.record
  · apply h.folders.mono
    intro k hk
    rw [hkind] at hk
    split at hk
    · cases hk
    · exact hk

theorem place_not_prefix_of_lt (lo : Location) {p q : String} (hlt : p < q) :
    ¬place lo q <+: place lo p := by
  intro hpre
  have hne : q ≠ p := by
    rintro rfl
    exact String.lt_irrefl _ hlt
  exact String.lt_asymm (Path.lt_of_prefix (place_prefix_iff.1 hpre) hne) hlt

/-- An update can still be made after a file was written at a place that is not below its own. -/
theorem Updates.of_writes {q : String} {o' : Bytes} (h : b.Updates input output li lo d p o)
    (hapart : Apart li lo) (hw : d.Writes (place lo q) o' d')
    (hbelow : ¬Path.steps p <+: Path.steps q) : b.Updates input output li lo d' p o := by
  obtain ⟨c, hc, ho⟩ := h.source
  refine ⟨h.reads, h.writes, ⟨c, ?_, ho⟩, ?_, h.spares⟩
  · rw [Folder.fileAt?_of_kind? (hw.other (hapart.place_not_prefix p q))]
    exact hc
  · rw [hw.other (mt place_prefix_iff.1 hbelow)]
    exact h.room

theorem Ready.updated_tail (h : b.Ready input output li lo (x :: changes) d) (hapart : Apart li lo)
    (hlt : ∀ y ∈ changes, x.1 < y.1) (hx : x.2 = .added ∨ x.2 = .changed)
    (hw : d.Writes (place lo x.1) o d') : b.Ready input output li lo changes d' := by
  obtain ⟨⟨o₀, hself⟩, -⟩ := h.updated x List.mem_cons_self hx
  obtain ⟨c, hc, -⟩ := hself.source
  have hother {k : Location} (hk : ¬k <+: place lo x.1) : d'.root.fileAt? k = d.root.fileAt? k :=
    Folder.fileAt?_of_kind? (hw.other hk)
  refine ⟨?_, ?_, ?_, hself.writes.below_of_writes h.folders hw⟩
  · intro q hq
    obtain ⟨hsp, hfile⟩ := h.removed q (List.mem_cons_of_mem _ hq)
    refine ⟨hsp, ?_⟩
    rw [hother (place_not_prefix_of_lt lo (hlt (q, .removed) hq))]
    exact hfile
  · intro y hy hchange
    obtain ⟨⟨o', hupdate⟩, hway⟩ := h.updated y (List.mem_cons_of_mem _ hy) hchange
    obtain ⟨c', hc', -⟩ := hupdate.source
    have hne : place li x.1 ≠ place li y.1 :=
      fun heq => String.lt_irrefl _ (place_injective heq ▸ hlt y hy)
    -- no input lies below another one
    have hbelow := Folder.not_prefix_of_fileAt? hc' hc hne.symm
    have habove := Folder.not_prefix_of_fileAt? hc hc' hne
    rw [place_prefix_iff] at hbelow habove
    refine ⟨⟨o', hupdate.of_writes hapart hw hbelow⟩, fun m hm hm' hfile => ?_⟩
    have hkept : ¬lo ++ m <+: place lo x.1 := by
      intro hpre
      have hself : lo ++ m ≠ place lo x.1 := by
        intro heq
        rw [List.append_cancel_left heq] at hm
        exact habove hm
      rw [hw.not_above hpre hself] at hfile
      cases hfile
    rw [hother hkept] at hfile
    obtain ⟨q, hq, hsteps⟩ := hway m hm hm' hfile
    refine ⟨q, (List.mem_cons.1 hq).resolve_left ?_, hsteps⟩
    rintro rfl
    rcases hx with hx | hx <;> cases hx
  · rw [hw.other]
    · exact h.record
    · rw [place_prefix_iff, BuildState.steps_fileName]
      exact hself.spares

theorem Ready.notChanged_tail (h : b.Ready input output li lo ((p, .notChanged) :: changes) d) :
    b.Ready input output li lo changes d := by
  refine ⟨fun q hq => h.removed q (List.mem_cons_of_mem _ hq), fun y hy hchange => ?_, h.record,
    h.folders⟩
  obtain ⟨hupdates, hway⟩ := h.updated y (List.mem_cons_of_mem _ hy) hchange
  refine ⟨hupdates, fun m hm hne hfile => ?_⟩
  obtain ⟨q, hq, hsteps⟩ := hway m hm hne hfile
  refine ⟨q, (List.mem_cons.1 hq).resolve_left ?_, hsteps⟩
  simp

theorem Ready.free (h : b.Ready input output li lo (x :: changes) d) (hlt : ∀ y ∈ changes, x.1 < y.1)
    (hx : x.2 = .added ∨ x.2 = .changed) : ∀ m, m <+: Path.steps x.1 → m ≠ Path.steps x.1 →
      d.root.fileAt? (lo ++ m) = none := by
  intro m hm hne
  obtain ⟨-, hway⟩ := h.updated x List.mem_cons_self hx
  refine Option.not_isSome_iff_eq_none.1 fun hsome => ?_
  obtain ⟨q, hq, rfl⟩ := hway m hm hne hsome
  have hbefore : q < x.1 := Path.lt_of_prefix hm fun heq => hne (heq ▸ rfl)
  rcases List.mem_cons.1 hq with heq | hq
  · rw [← heq] at hbefore
    exact String.lt_irrefl q hbefore
  · exact String.lt_asymm hbefore (hlt _ hq)

theorem runOn_removeOutput_of_file (hb : w.disk.resolve output = .ok lo)
    (hlo : w.disk.root.kind? lo = some .folder) (hsp : Disk.Spells output p)
    (hfile : (w.disk.root.fileAt? (place lo p)).isSome = true) :
    runOn (removeOutput (Path.join output p)) w =
      (.ok (), { w with disk := w.disk.remove (place lo p) }) := by
  obtain ⟨c, hc⟩ := Option.isSome_iff_exists.1 hfile
  rw [runOn_removeOutput, Disk.removeFile_join hb hlo hsp hc]
  rfl

section Run

variable (hd : w.disk.root.WellFormed) (hb : w.disk.resolve output = .ok lo)
  (hlo : w.disk.root.kind? lo = some .folder) (hi : w.disk.resolve input = .ok li)
  (hli : w.disk.root.kind? li = some .folder) (hapart : Apart li lo)

include hd hb hlo hi hli hapart

theorem Ready.update {change : Change}
    (h : b.Ready input output li lo ((p, change) :: changes) w.disk)
    (hlt : ∀ y ∈ changes, p < y.1) (hchange : change = .added ∨ change = .changed) (s : Summary) :
    ∃ s' w', runOn (b.update input output p change s) w = (.ok s', w') ∧
      w'.disk.root.WellFormed ∧ w.disk.Keeps w'.disk ∧
      b.Ready input output li lo changes w'.disk := by
  obtain ⟨⟨o, hupdates⟩, -⟩ := h.updated (p, change) List.mem_cons_self hchange
  dsimp only at hupdates
  obtain ⟨c, hc, ho⟩ := hupdates.source
  have hread := Disk.read_join hi hli hupdates.reads.names hc
  rw [hupdates.reads.check, Except.ok_bind] at hread
  obtain ⟨d', hwrite, hw⟩ := Session.writeFile_join o hb hlo hupdates.writes (h.free hlt hchange)
    hupdates.room
  have hstores := Session.writeFile_eq_ok hwrite
  obtain ⟨s', log, hrun⟩ := runOn_update_of_writeFile change s hread ho hwrite
  exact ⟨s', _, hrun, hstores.wellFormed hd, hstores.toKeeps, h.updated_tail hapart hlt hchange hw⟩

theorem Ready.step (h : b.Ready input output li lo (x :: changes) w.disk)
    (hlt : ∀ y ∈ changes, x.1 < y.1) (s : Summary) :
    ∃ s' w', runOn (b.apply input output s x) w = (.ok s', w') ∧ w'.disk.root.WellFormed ∧
      w.disk.Keeps w'.disk ∧ b.Ready input output li lo changes w'.disk := by
  obtain ⟨p, change⟩ := x
  cases change with
  | notChanged => exact ⟨_, w, rfl, hd, .refl _, h.notChanged_tail⟩
  | removed =>
    obtain ⟨hsp, hfile⟩ := h.removed p List.mem_cons_self
    obtain ⟨c, hc⟩ := Option.isSome_iff_exists.1 hfile
    have hstores := Disk.removeFile_eq_ok hd (Disk.removeFile_join hb hlo hsp hc)
    have hremove (log : List LogLine) :=
      runOn_removeOutput_of_file (w := ⟨w.disk, log⟩) hb hlo hsp hfile
    rw [apply_removed, runOn_bind, Action.runOn_report]
    dsimp only
    rw [runOn_bind, hremove]
    exact ⟨_, _, rfl, hstores.wellFormed hd, hstores.toKeeps,
      h.removed_tail hapart hlt (Disk.kind?_remove_file hd hc)⟩
  | added => exact h.update hd hb hlo hi hli hapart hlt (.inl rfl) s
  | changed => exact h.update hd hb hlo hi hli hapart hlt (.inr rfl) s

theorem Ready.run (h : b.Ready input output li lo changes w.disk)
    (hsorted : changes.Pairwise fun a b => a.1 < b.1) (s : Summary) :
    ∃ s' w', runOn (changes.foldlM (b.apply input output) s) w = (.ok s', w') ∧
      w'.disk.root.WellFormed ∧ w.disk.Keeps w'.disk ∧ b.Ready input output li lo [] w'.disk := by
  induction changes generalizing s w with
  | nil => exact ⟨s, w, rfl, hd, .refl _, h⟩
  | cons x changes ih =>
    obtain ⟨hlt, hsorted⟩ := List.pairwise_cons.1 hsorted
    obtain ⟨s1, w1, happly, hd1, hkeeps, h1⟩ := h.step hd hb hlo hi hli hapart hlt s
    obtain ⟨s2, w2, hloop, hd2, hkeeps2, h2⟩ := ih hd1 (hkeeps.resolve hb hlo)
      (hkeeps.folder lo hlo) (hkeeps.resolve hi hli) (hkeeps.folder li hli) h1 hsorted s1
    refine ⟨s2, w2, ?_, hd2, hkeeps.trans hkeeps2, h2⟩
    rw [List.foldlM_cons]
    exact runOn_bind_eq_ok.2 ⟨s1, w1, happly, hloop⟩

end Run

/-- A build is carried out whose changes are ready once its output is made. -/
theorem Ready.carryOut {d₂ : Disk} {old : BuildState} {inside : Folder}
    (hmake : runOn (Session.makeFolders output) w.disk = (.ok (), d₂)) (hd : d₂.root.WellFormed)
    (hb : d₂.resolve output = .ok lo) (hlo : d₂.root.kind? lo = some .folder)
    (hempty : (d₂.put lo (.folder .empty)).resolve output = .ok lo)
    (hinside : d₂.getFolder input = .ok inside) (hli : Path.locate d₂.current input = li)
    (hapart : Apart li lo) (hrecord : Disk.Spells output BuildState.fileName)
    (h : b.Ready input output li lo (old.changes (b.record (inputsOf inside))) d₂) :
    ∃ s w', runOn (b.carryOut input output old) w = (.ok s, w') := by
  obtain ⟨hi, hat⟩ := Disk.get_eq_ok (Disk.getFolder_eq_ok.1 hinside)
  rw [hli] at hi hat
  have hfolder : d₂.root.kind? li = some .folder := by
    rw [Folder.kind?, hat]
    rfl
  obtain ⟨s, w3, hloop, hd3, hkeeps3, h3⟩ := h.run (w := ⟨d₂, w.log⟩) hd hb hlo hi hfolder hapart
    (BuildState.pairwise_changes _ _) {}
  have hlo3 := hkeeps3.folder lo hlo
  have hfree : ∀ m, m <+: Path.steps BuildState.fileName → m ≠ Path.steps BuildState.fileName →
      w3.disk.root.fileAt? (lo ++ m) = none := by
    intro m hm hne
    rw [BuildState.steps_fileName] at hm hne
    have hnil : m <+: [] := (List.prefix_concat_iff.1 hm).resolve_left hne
    rw [List.prefix_nil.1 hnil, List.append_nil, Folder.fileAt?, hlo3]
  obtain ⟨d4, hsave, hwrites⟩ := Session.writeFile_join
    (Bytes.ofText (b.record (inputsOf inside)).toJson) (hkeeps3.resolve hb hlo) hlo3 hrecord hfree
    h3.record
  have hstores := Session.writeFile_eq_ok hsave
  have hkeeps4 := hkeeps3.trans hstores.toKeeps
  have hlo4 := hkeeps4.folder lo hlo
  obtain ⟨d5, hprune⟩ := Session.prune_of_resolve (hstores.wellFormed hd3)
    (hkeeps4.resolve hb hlo) hlo4
    (Disk.resolve_put .empty hkeeps4.current hlo hlo4 (fun k _ hk => hkeeps4.folder k hk) hempty)
    (hrecord.below_of_writes h3.folders hwrites)
  exact ⟨s, _, runOn_carryOut hmake hinside hloop hsave hprune⟩

end Build

end StubLinker
