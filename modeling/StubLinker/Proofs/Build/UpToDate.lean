import StubLinker.Proofs.Build.Directory

namespace StubLinker

namespace Build

variable {b b₀ : Build} {inside inside₀ inside' out out₀ : Folder} {d d' : Disk} {w w' w1 w2 w3 w4 : World}
  {old : BuildState} {input output p : String} {li lo l : Location} {incremental : Bool}
  {summary : Summary} {c : Bytes}

/-- What a file of the output is meant to be: the record of the build, or what an input becomes. -/
def target (b : Build) (inside : Folder) (l : Location) : Option Bytes :=
  if l = [BuildState.fileName] then some (Bytes.ofText (b.record (inputsOf inside)).toJson)
  else (inside.fileAt? l).bind fun c => (b.outcome ("/".intercalate l) c).toOption

/-- An output that is up to date: its files are what they are meant to be, every folder in it holds
one, and every input has an outcome and a path that fits. -/
structure UpToDate (b : Build) (inside out : Folder) : Prop where
  wellFormed : out.WellFormed
  trimmed : out.Trimmed
  files : ∀ l, out.fileAt? l = b.target inside l
  outcomes : ∀ p c, (p, c) ∈ inputsOf inside → ∃ o, b.outcome p c = .ok o
  fits : ∀ p c, (p, c) ∈ inputsOf inside → Path.Fits p

theorem target_fileName (b : Build) (inside : Folder) : b.target inside [BuildState.fileName] =
    some (Bytes.ofText (b.record (inputsOf inside)).toJson) :=
  if_pos rfl

theorem target_of_input {o : Bytes} (hne : p ≠ BuildState.fileName)
    (hc : inside.fileAt? (Path.steps p) = some c) (ho : b.outcome p c = .ok o) :
    b.target inside (Path.steps p) = some o := by
  have hsteps : Path.steps p ≠ [BuildState.fileName] := by
    rw [← BuildState.steps_fileName]
    exact fun h => hne (Path.steps_injective h)
  rw [target, if_neg hsteps, hc, Option.bind_some, Path.intercalate_steps, ho]
  rfl

theorem target_eq_none (hne : l ≠ [BuildState.fileName]) (hnone : inside.fileAt? l = none) :
    b.target inside l = none := by
  rw [target, if_neg hne, hnone]
  rfl

theorem exists_path (hwf : inside.WellFormed) (h : inside.fileAt? l = some c) :
    ∃ p, Path.steps p = l := by
  have hplain : ∀ n ∈ l, Folder.IsPlain n :=
    hwf.isPlain_of_kind? (by rw [Folder.fileAt?_eq_some.1 h]; rfl)
  refine ⟨"/".intercalate l, Path.steps_intercalate ?_ fun n hn => (hplain n hn).2.2.2⟩
  rintro rfl
  rw [Folder.fileAt?_nil] at h
  cases h

theorem inputsOf_congr (hwf : inside.WellFormed) (hwf' : inside'.WellFormed)
    (h : ∀ l, inside'.fileAt? l = inside.fileAt? l) : inputsOf inside' = inputsOf inside := by
  rw [inputsOf, inputsOf, Folder.files_eq_of_fileAt? hwf' hwf h]

theorem UpToDate.congr (hwf : inside.WellFormed) (hwf' : inside'.WellFormed)
    (hsame : ∀ l, inside'.fileAt? l = inside.fileAt? l) (h : b.UpToDate inside out) :
    b.UpToDate inside' out := by
  have hinputs := inputsOf_congr hwf hwf' hsame
  refine ⟨h.wellFormed, h.trimmed, fun l => ?_, ?_, ?_⟩
  · rw [h.files, target, target, hinputs, hsame]
  · rw [hinputs]
    exact h.outcomes
  · rw [hinputs]
    exact h.fits

theorem UpToDate.unique {out' : Folder} (h : b.UpToDate inside out) (h' : b.UpToDate inside out') :
    out' = out :=
  Folder.eq_of_fileAt? h'.wellFormed h.wellFormed h'.trimmed h.trimmed fun l =>
    (h'.files l).trans (h.files l).symm

/-- A record that a build can go on from: it names no record, and an input that it takes for
unchanged has its output in place. -/
structure Resumes (b : Build) (lo : Location) (inside : Folder) (old : BuildState) (d : Disk) :
    Prop where
  plain : ∀ p digest, old.files.get? p = some digest → Path.IsPlain p ∧ p ≠ BuildState.fileName
  kept : ∀ p c, inside.fileAt? (Path.steps p) = some c → old.files.get? p = some (sha256 c) →
    ∃ o, b.outcome p c = .ok o ∧ d.root.fileAt? (place lo p) = some o ∧ Path.Fits p

theorem resumes_empty (b : Build) (lo : Location) (inside : Folder) (d : Disk) :
    b.Resumes lo inside {} d where
  plain := fun _ _ h => nomatch h
  kept := fun _ _ _ h => nomatch h

def Decided (inside : Folder) (old : BuildState) (l : Location) : Prop :=
  l = [BuildState.fileName] ∨ (inside.fileAt? l).isSome = true ∨
    ∃ p digest, old.files.get? p = some digest ∧ Path.steps p = l

/-- What a build leaves: what it decides is what it is meant to be, other files are as before. -/
structure Leaves (b : Build) (lo : Location) (inside : Folder) (old : BuildState) (d : Disk)
    (out : Folder) : Prop where
  wellFormed : out.WellFormed
  trimmed : out.Trimmed
  outcomes : ∀ p c, (p, c) ∈ inputsOf inside → ∃ o, b.outcome p c = .ok o
  fits : ∀ p c, (p, c) ∈ inputsOf inside → Path.Fits p
  decided : ∀ l, Decided inside old l → out.fileAt? l = b.target inside l
  other : ∀ l, ¬Decided inside old l → out.fileAt? l = d.root.fileAt? (lo ++ l)

theorem target_of_not_decided (h : ¬Decided inside old l) : b.target inside l = none := by
  refine target_eq_none (fun hl => h (.inl hl)) ?_
  exact Option.not_isSome_iff_eq_none.1 fun hsome => h (.inr (.inl hsome))

/-- A build leaves its output up to date just if it finds no file there that it does not decide. -/
theorem Leaves.upToDate_iff (h : b.Leaves lo inside old d out) :
    b.UpToDate inside out ↔ ∀ l, ¬Decided inside old l → d.root.fileAt? (lo ++ l) = none := by
  constructor
  · intro hup l hl
    rw [← h.other l hl, hup.files, target_of_not_decided hl]
  · intro hnone
    refine ⟨h.wellFormed, h.trimmed, fun l => ?_, h.outcomes, h.fits⟩
    by_cases hl : Decided inside old l
    · exact h.decided l hl
    · rw [h.other l hl, hnone l hl, target_of_not_decided hl]

theorem Leaves.upToDate_iff_of_empty (h : b.Leaves lo inside {} d out) :
    b.UpToDate inside out ↔ ∀ l, l ≠ [BuildState.fileName] →
      (d.root.fileAt? (lo ++ l)).isSome = true → (inside.fileAt? l).isSome = true := by
  rw [h.upToDate_iff]
  constructor
  · intro hnone l hrecord hsome
    refine Decidable.byContradiction fun hinput => ?_
    rw [hnone l] at hsome
    · cases hsome
    · rintro (hl | hl | ⟨p, digest, hold, -⟩)
      · exact hrecord hl
      · exact hinput hl
      · cases hold
  · intro hinput l hl
    have hrecord : l ≠ [BuildState.fileName] := fun heq => hl (.inl heq)
    exact Option.not_isSome_iff_eq_none.1 fun hsome => hl (.inr (.inl (hinput l hrecord hsome)))

theorem Applies.placed (hwf : inside.WellFormed) (hr : b.Resumes lo inside old d)
    (ha : b.Applies li lo (old.changes (b.record (inputsOf inside))) d d')
    (hli : ∀ k, d.root.fileAt? (li ++ k) = inside.fileAt? k)
    (hapart : ∀ p q, place li p ≠ place lo q) (hlo : lo ≠ [])
    (hne : p ≠ BuildState.fileName) (hc : inside.fileAt? (Path.steps p) = some c) :
    ∃ o, b.outcome p c = .ok o ∧ d'.root.fileAt? (place lo p) = some o ∧ Path.Fits p := by
  rcases change_of_input hwf ((mem_inputsOf hwf).2 ⟨hne, hc⟩) with
    ⟨change, hx, hchange⟩ | ⟨hx, hold⟩
  · obtain ⟨contents, o, ho, hfile, hcontents⟩ := ha.written p change hx hchange
    have hread := hcontents fun x _ => hapart p x.1
    rw [place, hli, hc] at hread
    cases hread
    exact ⟨o, ho, hfile, ha.fits p change hx hchange hlo⟩
  · rw [ha.notChanged p hx]
    exact hr.kept p c hc hold

theorem Applies.fileAt?_recorded (hwf : inside.WellFormed)
    (ha : b.Applies li lo (old.changes (b.record (inputsOf inside))) d d') {digest : String}
    (hold : old.files.get? p = some digest) (hc : inside.fileAt? (Path.steps p) = none) :
    d'.root.fileAt? (place lo p) = none := by
  have hnew : (b.record (inputsOf inside)).files.get? p = none := by
    refine Option.not_isSome_iff_eq_none.1 fun hsome => ?_
    obtain ⟨digest', hnew⟩ := Option.isSome_iff_exists.1 hsome
    obtain ⟨-, contents, hcontents, -⟩ := (get?_record hwf).1 hnew
    rw [hc] at hcontents
    cases hcontents
  exact ha.removed p (BuildState.mem_changes.2 (Change.of?_eq_removed.2 ⟨⟨digest, hold⟩, hnew⟩))

theorem decided_of_mem_changes {x : String × Change} (hwf : inside.WellFormed)
    (hx : x ∈ old.changes (b.record (inputsOf inside))) : Decided inside old (Path.steps x.1) := by
  cases hold : old.files.get? x.1 with
  | some digest => exact .inr (.inr ⟨x.1, digest, hold, rfl⟩)
  | none =>
    have hchange := BuildState.mem_changes.1 hx
    cases hnew : (b.record (inputsOf inside)).files.get? x.1 with
    | none =>
      rw [hold, hnew] at hchange
      cases hchange
    | some digest =>
      obtain ⟨-, contents, hcontents, -⟩ := (get?_record hwf).1 hnew
      refine .inr (.inl ?_)
      rw [hcontents]
      rfl

theorem Applies.leaves {inner : Folder} (hwf : inside.WellFormed) (hr : b.Resumes lo inside old d)
    (ha : b.Applies li lo (old.changes (b.record (inputsOf inside))) d d')
    (hli : ∀ k, d.root.fileAt? (li ++ k) = inside.fileAt? k)
    (hapart : ∀ p q, place li p ≠ place lo q) (hlo : lo ≠ []) (hinner : inner.WellFormed)
    (hfiles : ∀ l, inner.fileAt? l = if l = [BuildState.fileName] then
      some (Bytes.ofText (b.record (inputsOf inside)).toJson) else d'.root.fileAt? (lo ++ l)) :
    b.Leaves lo inside old d inner.pruned := by
  have houtput {p : String} {c : Bytes} (h : (p, c) ∈ inputsOf inside) :
      ∃ o, b.outcome p c = .ok o ∧ d'.root.fileAt? (place lo p) = some o ∧ Path.Fits p := by
    obtain ⟨hne, hc⟩ := (mem_inputsOf hwf).1 h
    exact ha.placed hwf hr hli hapart hlo hne hc
  refine ⟨Folder.wellFormed_pruned hinner, Folder.trimmed_pruned inner, fun p c h => ?_,
    fun p c h => ?_, fun l hl => ?_, fun l hl => ?_⟩
  · obtain ⟨o, ho, -⟩ := houtput h
    exact ⟨o, ho⟩
  · obtain ⟨o, -, -, hfits⟩ := houtput h
    exact hfits
  · rw [Folder.fileAt?_pruned hinner.distinct, hfiles]
    by_cases hrecord : l = [BuildState.fileName]
    · rw [if_pos hrecord, hrecord, target_fileName]
    rw [if_neg hrecord]
    -- where there is an input its output is left, and what was only recorded is gone
    cases hc : inside.fileAt? l with
    | some c =>
      obtain ⟨p, rfl⟩ := exists_path hwf hc
      have hne : p ≠ BuildState.fileName := fun h => hrecord (h ▸ BuildState.steps_fileName)
      obtain ⟨o, ho, hfile, -⟩ := houtput ((mem_inputsOf hwf).2 ⟨hne, hc⟩)
      rw [target_of_input hne hc ho]
      exact hfile
    | none =>
      rw [target_eq_none hrecord hc]
      rcases hl with hl | hl | ⟨p, digest, hold, rfl⟩
      · exact absurd hl hrecord
      · rw [hc] at hl
        cases hl
      · exact ha.fileAt?_recorded hwf hold hc
  · have hrecord : l ≠ [BuildState.fileName] := fun h => hl (.inl h)
    rw [Folder.fileAt?_pruned hinner.distinct, hfiles, if_neg hrecord]
    refine ha.outside _ fun x hx heq => hl ?_
    rw [List.append_cancel_left heq]
    exact decided_of_mem_changes hwf hx

/-- Neither of two folders lies in the other. -/
def Apart (li lo : Location) : Prop :=
  ¬li <+: lo ∧ ¬lo <+: li

theorem Apart.not_prefix (h : Apart li lo) (k : Location) : ¬lo <+: li ++ k := by
  intro hpre
  rcases List.prefix_or_prefix_of_prefix (List.prefix_append li k) hpre with hli | hlo
  · exact h.1 hli
  · exact h.2 hlo

theorem Apart.place_not_prefix (h : Apart li lo) (p q : String) : ¬place li p <+: place lo q := by
  intro hpre
  rcases List.prefix_or_prefix_of_prefix ((List.prefix_append li (Path.steps p)).trans hpre)
    (List.prefix_append lo (Path.steps q)) with hli | hlo
  · exact h.1 hli
  · exact h.2 hlo

theorem Apart.place_ne (h : Apart li lo) (p q : String) : place li p ≠ place lo q := by
  intro heq
  apply h.place_not_prefix p q
  exact heq ▸ List.prefix_refl _

theorem Apart.ne_nil (h : Apart li lo) : lo ≠ [] := by
  rintro rfl
  exact h.2 List.nil_prefix

theorem fileAt?_below {f g : Folder} (h : f.at? l = some (.folder g)) (k : Location) :
    f.fileAt? (l ++ k) = g.fileAt? k :=
  Folder.fileAt?_of_kind? (Folder.kind?_append_of_folder h k)

/-- An output where a record was saved before its folders were pruned: they had these entries. All
else is as before. -/
structure Closed (s : BuildState) (lo : Location) (inner : Folder) (d d' : Disk) : Prop where
  wellFormed : d'.root.WellFormed
  output : d'.root.at? lo = some (.folder inner.pruned)
  entries : inner.WellFormed
  files : ∀ k, inner.fileAt? k =
    if k = [BuildState.fileName] then some (Bytes.ofText s.toJson) else d.root.fileAt? (lo ++ k)
  other : ∀ k, ¬lo <+: k → d'.root.fileAt? k = d.root.fileAt? k
  folder : ∀ k, ¬lo <+: k → d.root.kind? k = some .folder → d'.root.kind? k = some .folder

theorem closed_of_prune (hd : w3.disk.root.WellFormed)
    (hlo : Path.locate w3.disk.current output = lo)
    (hsave : runOn (old.save output) w3 = (.ok (), w4))
    (hprune : runOn (Action.onDisk (Session.prune output)) w4 = (.ok (), w')) :
    ∃ inner, Closed old lo inner w3.disk w'.disk := by
  obtain ⟨d4, hsaves, rfl⟩ := Action.onDisk_eq_ok hsave
  obtain ⟨d5, hprunes, rfl⟩ := Action.onDisk_eq_ok hprune
  dsimp only at hprunes ⊢
  have hstores := Session.writeFile_eq_ok hsaves
  rw [Path.locate_join _ BuildState.isPlain_fileName, hlo, BuildState.steps_fileName] at hstores
  have hd4 := hstores.wellFormed hd
  obtain ⟨inner, hinner, -, hd5, hbelow, houter⟩ := Session.prune_eq_ok hd4 hprunes
  rw [hstores.current, hlo] at hinner hbelow houter
  have hwf : inner.WellFormed := hd4.at? hinner
  refine ⟨inner, hd5, ?_, hwf, ?_, ?_, ?_⟩
  · exact Folder.at?_eq_of_kind? hd5 (Folder.wellFormed_pruned hwf) hbelow
  · intro k
    rw [← fileAt?_below hinner, hstores.fileAt?]
    simp only [List.append_right_inj]
  · intro k hk
    have hrecord : k ≠ lo ++ [BuildState.fileName] := by
      rintro rfl
      exact hk (List.prefix_append _ _)
    rw [Folder.fileAt?_of_kind? (houter k hk), hstores.fileAt?, if_neg hrecord]
  · intro k hk hfolder
    rw [houter k hk]
    exact hstores.folder k hfolder

theorem applies_of_prepared (hd : w1.disk.root.WellFormed)
    (hlo : Path.locate w1.disk.current output = lo) (hli : Path.locate w1.disk.current input = li)
    (hapart : Apart li lo)
    (hplain : ∀ p digest, old.files.get? p = some digest → Path.IsPlain p ∧ p ≠ BuildState.fileName)
    (hcarry : runOn (b.carryOut input output old) w1 = (.ok summary, w')) :
    ∃ (inside inner : Folder) (d : Disk), w'.disk.root.at? li = some (.folder inside) ∧
      (∀ k, inside.fileAt? k = w1.disk.root.fileAt? (li ++ k)) ∧
      b.Applies li lo (old.changes (b.record (inputsOf inside))) w1.disk d ∧
      Closed (b.record (inputsOf inside)) lo inner d w'.disk := by
  obtain ⟨w2, inside₀, w3, w4, hmake, hinside, hloop, hsave, hprune⟩ := carryOut_eq_ok hcarry
  obtain ⟨d2, hmakes, rfl⟩ := Action.onDisk_eq_ok hmake
  dsimp only at hinside
  obtain ⟨hgrows, hresolve, hfolder⟩ :=
    Session.resolve_of_makeFolders (ne_empty_of_carryOut hcarry) hmakes
  rw [hlo] at hresolve hfolder
  have hd2 := hgrows.wellFormed hd
  have hli2 : Path.locate d2.current input = li := by rw [hgrows.current, hli]
  have hat2 := (Disk.get_eq_ok (Disk.getFolder_eq_ok.1 hinside)).2
  rw [hli2] at hat2
  have hwf₀ : inside₀.WellFormed := hd2.at? hat2
  have ha := foldlM_apply_eq_ok hd2 hresolve hfolder hli2
    (fun x hx => (isPlain_of_mem_changes hwf₀ hplain hx).1)
    (BuildState.pairwise_changes _ _) hloop
  have hlo3 : Path.locate w3.disk.current output = lo := by rw [ha.current, hgrows.current, hlo]
  obtain ⟨inner, hclosed⟩ := closed_of_prune ha.wellFormed hlo3 hsave hprune
  -- neither changes nor record nor pruning reaches the input
  have hinput (k : Location) : w'.disk.root.fileAt? (li ++ k) = inside₀.fileAt? k := by
    rw [hclosed.other _ (hapart.not_prefix k), ha.outside, fileAt?_below hat2]
    exact fun x _ heq => hapart.not_prefix k (heq ▸ List.prefix_append lo (Path.steps x.1))
  have hfolder' : w'.disk.root.kind? li = some .folder := by
    apply hclosed.folder li hapart.2
    apply ha.folder
    rw [Folder.kind?, hat2]
    rfl
  obtain ⟨inside, hinside'⟩ := Disk.at?_of_folder hfolder'
  have hsame (k : Location) : inside.fileAt? k = inside₀.fileAt? k := by
    rw [← hinput, fileAt?_below hinside']
  have hinputs := inputsOf_congr hwf₀ (hclosed.wellFormed.at? hinside') hsame
  rw [← hinputs] at ha hclosed
  refine ⟨inside, inner, w3.disk, hinside', fun k => ?_, ha.of_grows hgrows, hclosed⟩
  rw [hsame, ← hgrows.fileAt?, fileAt?_below hat2]

theorem leaves_of_prepared (hd : w1.disk.root.WellFormed)
    (hlo : Path.locate w1.disk.current output = lo) (hli : Path.locate w1.disk.current input = li)
    (hapart : Apart li lo)
    (hplain : ∀ p digest, old.files.get? p = some digest → Path.IsPlain p ∧ p ≠ BuildState.fileName)
    (hcarry : runOn (b.carryOut input output old) w1 = (.ok summary, w')) :
    ∃ inside out, w'.disk.root.WellFormed ∧ w'.disk.root.at? li = some (.folder inside) ∧
      w'.disk.root.at? lo = some (.folder out) ∧
      (∀ k, inside.fileAt? k = w1.disk.root.fileAt? (li ++ k)) ∧
      (b.Resumes lo inside old w1.disk → b.Leaves lo inside old w1.disk out) := by
  obtain ⟨inside, inner, d, hinside', hsame, ha, hclosed⟩ :=
    applies_of_prepared hd hlo hli hapart hplain hcarry
  refine ⟨inside, inner.pruned, hclosed.wellFormed, hinside', hclosed.output, hsame, fun hr => ?_⟩
  exact ha.leaves (hclosed.wellFormed.at? hinside') hr (fun k => (hsame k).symm) hapart.place_ne
    hapart.ne_nil hclosed.entries hclosed.files

theorem UpToDate.eq_of_read {text : String} {bytes : Bytes} (h : b₀.UpToDate inside₀ out₀)
    (hat : d.root.at? lo = some (.folder out₀)) (hlo : Path.locate d.current output = lo)
    (hread : d.read (Path.join output BuildState.fileName) = .ok bytes)
    (htext : Bytes.toText? bytes = some text) (hjson : BuildState.ofJson text = .ok old) :
    old = b₀.record (inputsOf inside₀) := by
  have hfile := Disk.read_eq_ok hread
  rw [Path.locate_join _ BuildState.isPlain_fileName, hlo, BuildState.steps_fileName,
    fileAt?_below hat, h.files, target_fileName] at hfile
  cases hfile
  rw [Bytes.toText?_ofText] at htext
  cases htext
  rw [BuildState.ofJson_toJson] at hjson
  cases hjson
  rfl

theorem UpToDate.resumes (h : b₀.UpToDate inside₀ out₀) (hwf : inside₀.WellFormed)
    (hat : d.root.at? lo = some (.folder out₀)) (hsettings : b₀.settingsText = b.settingsText)
    (hcontents : ∀ l c₀ c, inside₀.fileAt? l = some c₀ → inside.fileAt? l = some c →
      sha256 c₀ = sha256 c → c₀ = c) :
    b.Resumes lo inside (b₀.record (inputsOf inside₀)) d := by
  refine ⟨fun p digest hold => isPlain_of_get?_record hwf hold, fun p c hc hold => ?_⟩
  obtain ⟨hne, c₀, hc₀, hdigest⟩ := (get?_record hwf).1 hold
  obtain rfl := hcontents _ c₀ c hc₀ hc hdigest
  have hinput := (mem_inputsOf hwf).2 ⟨hne, hc₀⟩
  obtain ⟨o, ho⟩ := h.outcomes p c₀ hinput
  refine ⟨o, ?_, ?_, h.fits p c₀ hinput⟩
  · rw [← outcome_eq_of_settingsText hsettings, ho]
  · rw [place, fileAt?_below hat, h.files, target_of_input hne hc₀ ho]

/-- An output that was up to date holds no file that a build does not decide that goes on from it. -/
theorem UpToDate.decided (h : b₀.UpToDate inside₀ out₀) (hwf : inside₀.WellFormed)
    (hl : ¬Decided inside (b₀.record (inputsOf inside₀)) l) : out₀.fileAt? l = none := by
  have hrecord : l ≠ [BuildState.fileName] := fun heq => hl (.inl heq)
  rw [h.files]
  refine target_eq_none hrecord (Option.not_isSome_iff_eq_none.1 fun hsome => hl ?_)
  obtain ⟨c, hc⟩ := Option.isSome_iff_exists.1 hsome
  obtain ⟨p, rfl⟩ := exists_path hwf hc
  refine .inr (.inr ⟨p, sha256 c, (get?_record hwf).2 ⟨?_, c, hc, rfl⟩, rfl⟩)
  rintro rfl
  exact hrecord BuildState.steps_fileName

/-- What a build may find: an output without files, or one that a build left up to date whose
settings and inputs differ from those of this one if their digests do. -/
def Prior (b : Build) (li lo : Location) (d : Disk) : Prop :=
  (∀ l, d.root.fileAt? (lo ++ l) = none) ∨ ∃ b₀ : Build, ∃ inside₀ out₀ : Folder,
    inside₀.WellFormed ∧ d.root.at? lo = some (.folder out₀) ∧ b₀.UpToDate inside₀ out₀ ∧
    (b₀.settingsDigest = b.settingsDigest → b₀.settingsText = b.settingsText) ∧
    ∀ l c₀ c, inside₀.fileAt? l = some c₀ → d.root.fileAt? (li ++ l) = some c →
      sha256 c₀ = sha256 c → c₀ = c

/-- An output whose path leads to it, or which holds nothing but a record and files that have the
places of inputs. -/
def Reached (d : Disk) (li lo : Location) (output : String) : Prop :=
  d.has output = true ∨ ∀ l, l ≠ [BuildState.fileName] →
    (d.root.fileAt? (lo ++ l)).isSome = true → (d.root.fileAt? (li ++ l)).isSome = true

theorem upToDate_iff (hd : w.disk.root.WellFormed) (hlo : Path.locate w.disk.current output = lo)
    (hli : Path.locate w.disk.current input = li) (hapart : Apart li lo)
    (hprior : b.Prior li lo w.disk)
    (hrun : runOn (b.directory input output incremental) w = (.ok summary, w')) :
    ∃ inside out, w'.disk.root.WellFormed ∧ w'.disk.root.at? li = some (.folder inside) ∧
      w'.disk.root.at? lo = some (.folder out) ∧
      (∀ k, inside.fileAt? k = w.disk.root.fileAt? (li ++ k)) ∧
      (b.UpToDate inside out ↔ Reached w.disk li lo output) := by
  obtain ⟨old, w1, -, hprepare, hcarry⟩ := directory_eq_ok hrun
  have hplain := (resumes_empty b lo .empty w.disk).plain
  -- the record is taken up, the old output is removed, or there is none yet
  rcases prepare_eq_ok hprepare with
    ⟨-, hsettings, hdisk, bytes, text, hread, htext, hjson⟩ | ⟨rfl, hhas, hremove⟩ |
      ⟨rfl, hhas, hdisk⟩
  · have hhas := Disk.has_of_read (ne_empty_of_carryOut hcarry) BuildState.isPlain_fileName hread
    rcases hprior with hnone | ⟨b₀, inside₀, out₀, hwf₀, hat, hup, htexts, hcontents⟩
    · have hfile := Disk.read_eq_ok hread
      rw [Path.locate_join _ BuildState.isPlain_fileName, hlo, hnone] at hfile
      cases hfile
    obtain rfl := hup.eq_of_read hat hlo hread htext hjson
    rw [settings_record] at hsettings
    rw [← hdisk] at hd hlo hli hat
    obtain ⟨inside, out, hd', hinside', hout, hsame, hleaves⟩ :=
      leaves_of_prepared hd hlo hli hapart
        (fun _ _ hold => isPlain_of_get?_record hwf₀ hold) hcarry
    rw [hdisk] at hsame
    refine ⟨inside, out, hd', hinside', hout, hsame, iff_of_true ?_ (.inl hhas)⟩
    refine (hleaves (hup.resumes hwf₀ hat (htexts hsettings) fun l c₀ c h₀ h => ?_)).upToDate_iff.2 ?_
    · exact hcontents l c₀ c h₀ (hsame l ▸ h)
    · intro l hl
      rw [fileAt?_below hat]
      exact hup.decided hwf₀ hl
  · obtain ⟨hcurrent, hd1, houter, hnone⟩ := Session.removeTree_eq_ok hd hremove
    rw [hlo] at hnone houter
    rw [← hcurrent] at hlo hli
    obtain ⟨inside, out, hd', hinside', hout, hsame, hleaves⟩ :=
      leaves_of_prepared hd1 hlo hli hapart hplain hcarry
    refine ⟨inside, out, hd', hinside', hout, fun k => ?_, iff_of_true ?_ (.inl hhas)⟩
    · rw [hsame, Folder.fileAt?_of_kind? (houter _ (hapart.not_prefix k))]
    · exact (hleaves (resumes_empty b lo inside _)).upToDate_iff.2 fun l _ => hnone l
  · rw [← hdisk] at hd hlo hli
    obtain ⟨inside, out, hd', hinside', hout, hsame, hleaves⟩ :=
      leaves_of_prepared hd hlo hli hapart hplain hcarry
    rw [hdisk] at hsame
    refine ⟨inside, out, hd', hinside', hout, hsame, ?_⟩
    rw [(hleaves (resumes_empty b lo inside _)).upToDate_iff_of_empty, hdisk, Reached, hhas]
    simp only [hsame, Bool.false_eq_true, false_or]

end Build

end StubLinker
