import StubLinker.Proofs.Build.Ready

namespace StubLinker

/-- What is recorded is there: each path has a file in the output. -/
def BuildState.Kept (lo : Location) (d : Disk) (s : BuildState) : Prop :=
  ∀ p digest, s.files.get? p = some digest →
    p ≠ BuildState.fileName ∧ Path.Fits p ∧ (d.root.fileAt? (Build.place lo p)).isSome = true

theorem BuildState.kept_empty (lo : Location) (d : Disk) : BuildState.Kept lo d {} :=
  fun _ _ h => nomatch h

theorem BuildState.Kept.plain {lo : Location} {d : Disk} {s : BuildState} (h : s.Kept lo d) :
    ∀ p digest, s.files.get? p = some digest → Path.IsPlain p ∧ p ≠ BuildState.fileName := by
  intro p digest hp
  obtain ⟨hne, hfits, -⟩ := h p digest hp
  exact ⟨hfits.isPlain, hne⟩

namespace Build

variable {b : Build} {w w' : World} {input output p : String} {li lo k : Location} {d d' : Disk}
  {s s' : Summary} {old : BuildState} {inside : Folder} {c : Bytes}

/-- Nothing in an output stands in the way of a build that goes on from a record: no folder has the
place of an input, each file above such a place is recorded, the paths of what is recorded but no
input any more are short enough to be looked up, and so are those of the folders. -/
structure Clear (output : String) (lo : Location) (files : List (String × Bytes))
    (old : BuildState) (d : Disk) : Prop where
  noFolder : ∀ p c, (p, c) ∈ files → d.root.kind? (place lo p) ≠ some .folder
  recorded : ∀ p c m, (p, c) ∈ files → m <+: Path.steps p → m ≠ Path.steps p →
    (d.root.fileAt? (lo ++ m)).isSome = true →
      ∃ q digest, old.files.get? q = some digest ∧ Path.steps q = m
  short : ∀ q digest, old.files.get? q = some digest → (¬∃ c, (q, c) ∈ files) →
    (Path.join output q).utf8ByteSize ≤ 4095
  folders : d.SpellsBelow output lo

/-- Inputs that a build can take wherever nothing stands in its way. -/
structure Possible (b : Build) (input output : String) (files : List (String × Bytes)) :
    Prop where
  reads : ∀ p c, (p, c) ∈ files → Disk.Spells input p
  writes : ∀ p c, (p, c) ∈ files → Disk.Spells output p
  outcomes : ∀ p c, (p, c) ∈ files → ∃ o, b.outcome p c = .ok o
  spares : ∀ p c, (p, c) ∈ files → ¬[BuildState.fileName] <+: Path.steps p
  record : Disk.Spells output BuildState.fileName

theorem Applies.isSome (hwf : inside.WellFormed) (hkept : old.Kept lo d)
    (ha : b.Applies li lo (old.changes (b.record (inputsOf inside))) d d')
    (hlo : lo ≠ []) (h : (p, c) ∈ inputsOf inside) :
    Path.Fits p ∧ (d'.root.fileAt? (place lo p)).isSome = true := by
  rcases change_of_input hwf h with ⟨change, hx, hchange⟩ | ⟨hx, hold⟩
  · obtain ⟨contents, o, -, hfile, -⟩ := ha.written p change hx hchange
    exact ⟨ha.fits p change hx hchange hlo, by rw [hfile]; rfl⟩
  · obtain ⟨-, hfits, hfile⟩ := hkept p _ hold
    exact ⟨hfits, by rwa [ha.notChanged p hx]⟩

theorem Applies.clear (hwf : inside.WellFormed) (hkept : old.Kept lo d)
    (ha : b.Applies li lo (old.changes (b.record (inputsOf inside))) d d') (hlo : lo ≠ [])
    (hshort : ∀ q, (q, .removed) ∈ old.changes (b.record (inputsOf inside)) →
      (Path.join output q).utf8ByteSize ≤ 4095) (hfolders : d'.SpellsBelow output lo) :
    Clear output lo (inputsOf inside) old d := by
  have hplace {p : String} {c : Bytes} (h : (p, c) ∈ inputsOf inside) :
      ∃ o, d'.root.fileAt? (place lo p) = some o :=
    Option.isSome_iff_exists.1 (ha.isSome hwf hkept hlo h).2
  refine ⟨fun p c h hfolder => ?_, fun p c m h hm hne hfile => ?_, fun q digest hold hnone =>
    hshort q ((removed_iff hwf).2 ⟨⟨digest, hold⟩, hnone⟩),
    hfolders.mono fun k hk => ha.folder _ hk⟩
  · obtain ⟨o, ho⟩ := hplace h
    rw [Folder.fileAt?, ha.folder _ hfolder] at ho
    cases ho
  · obtain ⟨o, ho⟩ := hplace h
    have hfolder : d'.root.kind? (lo ++ m) = some .folder :=
      Folder.kind?_above ho ((List.prefix_append_right_inj lo).2 hm)
        fun heq => hne (List.append_cancel_left heq)
    have hgone : d'.root.fileAt? (lo ++ m) = none := by rw [Folder.fileAt?, hfolder]
    -- only the change of a recorded path takes the file away
    by_cases hchanged : ∃ x ∈ old.changes (b.record (inputsOf inside)), lo ++ m = place lo x.1
    · obtain ⟨⟨q, change⟩, hx, heq⟩ := hchanged
      have hsteps : Path.steps q = m := (List.append_cancel_left heq).symm
      cases hold : old.files.get? q with
      | some digest => exact ⟨q, digest, hold, hsteps⟩
      | none =>
        have hadded := BuildState.eq_added_of_mem_changes hold hx
        obtain ⟨contents, o, -, hwritten, -⟩ := ha.written q change hx (.inl hadded)
        rw [← heq, hgone] at hwritten
        cases hwritten
    · rw [← ha.outside _ fun x hx heq => hchanged ⟨x, hx, heq⟩, hgone] at hfile
      cases hfile

theorem Applies.spares {changes : List (String × Change)} {change : Change}
    (ha : b.Applies li lo changes d d') (hx : (p, change) ∈ changes)
    (hchange : change = .added ∨ change = .changed) (hne : p ≠ BuildState.fileName)
    (hroom : d'.root.kind? (lo ++ [BuildState.fileName]) ≠ some .folder) :
    ¬[BuildState.fileName] <+: Path.steps p := by
  intro hpre
  obtain ⟨contents, o, -, hfile, -⟩ := ha.written p change hx hchange
  apply hroom
  apply Folder.kind?_above hfile ((List.prefix_append_right_inj lo).2 hpre)
  intro heq
  have hsteps : Path.steps p = Path.steps BuildState.fileName := by
    rw [BuildState.steps_fileName]
    exact (List.append_cancel_left heq).symm
  exact hne (Path.steps_injective hsteps)

theorem Clear.ready (hwf : inside.WellFormed) (hpossible : b.Possible input output (inputsOf inside))
    (hkept : old.Kept lo d) (hcheck : Disk.checkPath output = .ok ())
    (hinside : ∀ k, d.root.fileAt? (li ++ k) = inside.fileAt? k)
    (hrecord : d.root.kind? (place lo BuildState.fileName) ≠ some .folder)
    (h : Clear output lo (inputsOf inside) old d) :
    b.Ready input output li lo (old.changes (b.record (inputsOf inside))) d := by
  refine ⟨fun p hp => ?_, fun x hx hchange => ?_, hrecord, h.folders⟩
  · obtain ⟨⟨digest, hold⟩, hnone⟩ := (removed_iff hwf).1 hp
    obtain ⟨-, hfits, hfile⟩ := hkept p digest hold
    exact ⟨Disk.spells_of_size hcheck hfits (h.short p digest hold hnone), hfile⟩
  · obtain ⟨p, change⟩ := x
    obtain ⟨c, hinput⟩ := input_of_change hwf hx hchange
    obtain ⟨o, ho⟩ := hpossible.outcomes p c hinput
    obtain ⟨-, hc⟩ := (mem_inputsOf hwf).1 hinput
    refine ⟨⟨o, hpossible.reads p c hinput, hpossible.writes p c hinput, ⟨c, ?_, ho⟩,
      h.noFolder p c hinput, hpossible.spares p c hinput⟩, fun m hm hne hfile => ?_⟩
    · rw [place, hinside]
      exact hc
    · obtain ⟨q, digest, hold, rfl⟩ := h.recorded p c m hinput hm hne hfile
      refine ⟨q, (removed_iff hwf).2 ⟨⟨digest, hold⟩, ?_⟩, rfl⟩
      rintro ⟨c', hinput'⟩
      obtain ⟨-, hc'⟩ := (mem_inputsOf hwf).1 hinput'
      exact Folder.not_prefix_of_fileAt? hc' hc hne hm

theorem checkPath_of_update {change : Change}
    (h : runOn (b.update input output p change s) w = (.ok s', w')) :
    Disk.checkPath (Path.join input p) = .ok () ∧ Disk.checkPath (Path.join output p) = .ok () := by
  obtain ⟨c, o, hread, -, hwrite⟩ := runOn_update_eq_ok h
  exact ⟨Disk.checkPath_of_read hread, Session.checkPath_of_writeFile hwrite⟩

theorem checkPath_of_removeOutput {path : String} (hpath : path ≠ "")
    (h : runOn (removeOutput path) w = (.ok (), w')) : Disk.checkPath path = .ok () := by
  apply Disk.checkPath_of_removeFile (d := w.disk) hpath
  intro e he
  rw [runOn_removeOutput, he] at h
  cases e with
  | notFound => rfl
  | _ => cases h

theorem checkPath_of_removed (hp : Path.IsPlain p)
    (h : runOn (b.apply input output s (p, .removed)) w = (.ok s', w')) :
    Disk.checkPath (Path.join output p) = .ok () := by
  obtain ⟨log, hremove⟩ := apply_removed_eq_ok h
  exact checkPath_of_removeOutput (Path.join_ne_empty output hp) hremove

section Loop

variable (hd : w.disk.root.WellFormed) (hb : w.disk.resolve output = .ok lo)
  (hlo : w.disk.root.kind? lo = some .folder) (hli : Path.locate w.disk.current input = li)
  (hwf : inside.WellFormed) (hkept : old.Kept lo w.disk)
  (hloop : runOn ((old.changes (b.record (inputsOf inside))).foldlM (b.apply input output) s) w =
    (.ok s', w'))

include hd hb hlo hli hwf hkept hloop

theorem applies_of_loop :
    b.Applies li lo (old.changes (b.record (inputsOf inside))) w.disk w'.disk :=
  foldlM_apply_eq_ok hd hb hlo hli (fun _ hx => (isPlain_of_mem_changes hwf hkept.plain hx).1)
    (BuildState.pairwise_changes _ _) hloop

theorem clear_of_loop (hapart : Apart li lo) (hfolders : w'.disk.SpellsBelow output lo) :
    Clear output lo (inputsOf inside) old w.disk := by
  have ha := applies_of_loop hd hb hlo hli hwf hkept hloop
  refine ha.clear hwf hkept hapart.ne_nil (fun q hq => ?_) hfolders
  obtain ⟨s1, w1, s2, w2, hstep⟩ := runOn_foldlM_eq_ok_of_mem hloop hq
  have hplain := (isPlain_of_mem_changes hwf hkept.plain hq).1
  exact (Disk.checkPath_eq_ok.1 (checkPath_of_removed hplain hstep)).2.2

end Loop

theorem room_of_save (hb : w.disk.resolve output = .ok lo)
    (h : runOn (old.save output) w = (.ok (), w')) :
    w.disk.root.kind? (lo ++ [BuildState.fileName]) ≠ some .folder := by
  intro hfolder
  obtain ⟨d', hsaved, -⟩ := Action.onDisk_eq_ok h
  have hstores := Session.writeFile_eq_ok hsaved
  rw [Path.locate_join _ BuildState.isPlain_fileName, ← (Disk.resolve_eq_ok hb).1,
    BuildState.steps_fileName] at hstores
  have hrecord := hstores.fileAt? (lo ++ [BuildState.fileName])
  rw [if_pos rfl, Folder.fileAt?, hstores.folder _ hfolder] at hrecord
  cases hrecord

theorem spellsBelow_of_save {w'' : World} (hd : w.disk.root.WellFormed)
    (hb : w.disk.resolve output = .ok lo) (hlo : w.disk.root.kind? lo = some .folder)
    (hsave : runOn (old.save output) w = (.ok (), w'))
    (hprune : runOn (Action.onDisk (Session.prune output)) w' = (.ok (), w'')) :
    w.disk.SpellsBelow output lo := by
  obtain ⟨d', hsaved, rfl⟩ := Action.onDisk_eq_ok hsave
  obtain ⟨d'', hpruned, -⟩ := Action.onDisk_eq_ok hprune
  have hstores := Session.writeFile_eq_ok hsaved
  have hspells := Session.spellsBelow_of_prune (hstores.wellFormed hd)
    (hstores.toKeeps.resolve hb hlo) hpruned
  exact hspells.mono fun k hk => hstores.folder _ hk

section Fresh

variable {w'' : World} (hd : w.disk.root.WellFormed) (hb : w.disk.resolve output = .ok lo)
  (hlo : w.disk.root.kind? lo = some .folder) (hli : Path.locate w.disk.current input = li)
  (hapart : Apart li lo) (hwf : inside.WellFormed)
  (hinside : ∀ k, w.disk.root.fileAt? (li ++ k) = inside.fileAt? k)
  (hloop : runOn ((BuildState.changes {} (b.record (inputsOf inside))).foldlM
    (b.apply input output) s) w = (.ok s', w'))
  (hsave : runOn ((b.record (inputsOf inside)).save output) w' = (.ok (), w''))

include hd hb hlo hli hapart hwf hinside hloop hsave

theorem possible_of_loop : b.Possible input output (inputsOf inside) := by
  have ha := applies_of_loop hd hb hlo hli hwf (BuildState.kept_empty lo w.disk) hloop
  -- against an empty record every input counts as added
  have hadded {p : String} {c : Bytes} (h : (p, c) ∈ inputsOf inside) :
      (p, Change.added) ∈ BuildState.changes {} (b.record (inputsOf inside)) := by
    rcases change_of_input (b := b) (s := {}) hwf h with ⟨change, hx, -⟩ | ⟨-, hold⟩
    · have hchange := BuildState.eq_added_of_mem_changes rfl hx
      exact hchange ▸ hx
    · cases hold
  have hcheck {p : String} {c : Bytes} (h : (p, c) ∈ inputsOf inside) :
      Disk.checkPath (Path.join input p) = .ok () ∧
        Disk.checkPath (Path.join output p) = .ok () := by
    obtain ⟨s1, w1, s2, w2, hstep⟩ := runOn_foldlM_eq_ok_of_mem hloop (hadded h)
    exact checkPath_of_update hstep
  have hfits {p : String} {c : Bytes} (h : (p, c) ∈ inputsOf inside) : Path.Fits p :=
    ha.fits p .added (hadded h) (.inl rfl) hapart.ne_nil
  obtain ⟨d'', hsaved, -⟩ := Action.onDisk_eq_ok hsave
  refine ⟨?_, ?_, ?_, ?_, ?_⟩
  · intro p c h
    exact ⟨(hfits h).names, (hcheck h).1⟩
  · intro p c h
    exact ⟨(hfits h).names, (hcheck h).2⟩
  · intro p c h
    obtain ⟨contents, o, ho, -, hcontents⟩ := ha.written p .added (hadded h) (.inl rfl)
    have hread := hcontents fun x _ => hapart.place_ne p x.1
    rw [place, hinside, ((mem_inputsOf hwf).1 h).2] at hread
    exact ⟨o, Option.some.inj hread ▸ ho⟩
  · intro p c h
    have hroom := room_of_save (ha.toKeeps.resolve hb hlo) hsave
    exact ha.spares (hadded h) (.inl rfl) ((mem_inputsOf hwf).1 h).1 hroom
  · exact ⟨fits_fileName.names, Session.checkPath_of_writeFile hsaved⟩

theorem ready_of_loop (hfolders : w'.disk.SpellsBelow output lo) :
    b.Ready input output li lo (BuildState.changes {} (b.record (inputsOf inside))) w.disk := by
  have hkept := BuildState.kept_empty lo w.disk
  have ha := applies_of_loop hd hb hlo hli hwf hkept hloop
  have hclear := clear_of_loop hd hb hlo hli hwf hkept hloop hapart hfolders
  have hpossible := possible_of_loop hd hb hlo hli hapart hwf hinside hloop hsave
  apply hclear.ready hwf hpossible hkept (Disk.checkPath_of_resolve hb) hinside
  intro hfolder
  rw [place_fileName] at hfolder
  exact room_of_save (ha.toKeeps.resolve hb hlo) hsave (ha.folder _ hfolder)

end Fresh

end Build

end StubLinker
