import StubLinker.Proofs.Build.Directory

namespace StubLinker

namespace Build

variable {b : Build} {w w' : World} {input output path p : String} {li lo : Location} {d d' : Disk}
  {s s' : BuildState} {cause : LinkError} {inside : Folder} {r : BuildState}

/-- An output that is what its record says: its files are the record and the recorded outputs, and
each of these is what contents with the recorded digest become. -/
structure Consistent (b : Build) (lo : Location) (d : Disk) (s : BuildState) : Prop where
  settings : s.settings = b.settingsDigest
  recordedAt : s.RecordedAt d (lo ++ [BuildState.fileName])
  fileName : s.files.get? BuildState.fileName = none
  regular : ∀ l, (d.root.fileAt? (lo ++ l)).isSome = true ↔
    l = [BuildState.fileName] ∨ ∃ p digest, s.files.get? p = some digest ∧ l = Path.steps p
  recorded : ∀ p digest, s.files.get? p = some digest → ∃ contents out,
    sha256 contents = digest ∧ b.outcome p contents = .ok out ∧
      d.root.fileAt? (place lo p) = some out

theorem Consistent.isPlain (hd : d.root.WellFormed) (h : b.Consistent lo d s) {digest : String}
    (hp : s.files.get? p = some digest) : Path.IsPlain p := by
  obtain ⟨contents, out, -, -, hfile⟩ := h.recorded p digest hp
  have hplain := hd.isPlain_of_kind? (l := place lo p)
    (by rw [Folder.fileAt?_eq_some.1 hfile]; rfl)
  exact fun n hn => hplain n (List.mem_append_right _ hn)

theorem prepare_of_consistent {old : BuildState} (hlo : w.disk.resolve output = .ok lo)
    (hs : b.Consistent lo w.disk s) (h : runOn (b.prepare output true) w = (.ok old, w')) :
    old = s ∧ w' = w := by
  rw [prepare_of_recordedAt hlo hs.recordedAt hs.settings] at h
  split at h
  · cases h
  · cases h
    exact ⟨rfl, rfl⟩

theorem Consistent.changes (hd : d.root.WellFormed) (h : b.Consistent lo d s)
    (hwf : inside.WellFormed) {x : String × Change}
    (hx : x ∈ s.changes (b.record (inputsOf inside))) :
    Path.IsPlain x.1 ∧ x.1 ≠ BuildState.fileName := by
  refine isPlain_of_mem_changes hwf (fun p digest hold => ⟨h.isPlain hd hold, ?_⟩) hx
  rintro rfl
  rw [h.fileName] at hold
  cases hold

/-- The output of an input that is not brought up to date, or whose new output is one that contents
with the recorded digest become too. -/
def Harmless (b : Build) (lo : Location) (s : BuildState) (d' : Disk) (x : String × Change) : Prop :=
  x.2 = .notChanged ∨ x.2 = .changed ∧ ∃ contents out,
    s.files.get? x.1 = some (sha256 contents) ∧ b.outcome x.1 contents = .ok out ∧
      d'.root.fileAt? (place lo x.1) = some out

theorem Applies.fileName {changes : List (String × Change)} (ha : Applies b li lo changes d d')
    (hne : ∀ x ∈ changes, x.1 ≠ BuildState.fileName) :
    d'.root.fileAt? (lo ++ [BuildState.fileName]) =
      d.root.fileAt? (lo ++ [BuildState.fileName]) := by
  rw [← place_fileName]
  exact ha.outside _ fun x hx heq => hne x hx (place_injective heq).symm

theorem Consistent.harmless {changes : List (String × Change)} (h : b.Consistent lo d s)
    (h' : b.Consistent lo d' s') (ha : Applies b li lo changes d d')
    (hsub : ∀ x ∈ changes, x ∈ s.changes r) (hne : ∀ x ∈ changes, x.1 ≠ BuildState.fileName) :
    ∀ x ∈ changes, Harmless b lo s d' x := by
  obtain rfl := BuildState.RecordedAt.eq h.recordedAt h'.recordedAt (ha.fileName hne)
  intro x hx
  obtain ⟨p, change⟩ := x
  have hchange := BuildState.mem_changes.1 (hsub _ hx)
  cases change with
  | notChanged => exact .inl rfl
  | removed =>
    obtain ⟨⟨digest, hold⟩, -⟩ := Change.of?_eq_removed.1 hchange
    obtain ⟨contents, out, -, -, hfile⟩ := h'.recorded p digest hold
    rw [ha.removed p hx] at hfile
    cases hfile
  | added =>
    obtain ⟨hold, -⟩ := Change.of?_eq_added.1 hchange
    obtain ⟨contents, out, -, hfile, -⟩ := ha.written p .added hx (.inl rfl)
    have hsome : (d'.root.fileAt? (place lo p)).isSome = true := by rw [hfile]; rfl
    rcases (h'.regular (Path.steps p)).1 hsome with hrecord | ⟨q, digest, hq, hsteps⟩
    · rw [← BuildState.steps_fileName] at hrecord
      exact absurd (Path.steps_injective hrecord) (hne _ hx)
    · rw [← Path.steps_injective hsteps, hold] at hq
      cases hq
  | changed =>
    obtain ⟨digest, digest', hold, -, -⟩ := Change.of?_eq_changed.1 hchange
    obtain ⟨contents, out, rfl, hout, hfile⟩ := h'.recorded p digest hold
    exact .inr ⟨rfl, contents, out, hold, hout, hfile⟩

theorem Consistent.of_harmless {changes : List (String × Change)} (h : b.Consistent lo d s)
    (ha : Applies b li lo changes d d') (hne : ∀ x ∈ changes, x.1 ≠ BuildState.fileName)
    (hharmless : ∀ x ∈ changes, Harmless b lo s d' x) : b.Consistent lo d' s := by
  have hfile := ha.fileName hne
  have hrecord : s.RecordedAt d' (lo ++ [BuildState.fileName]) := by
    obtain ⟨bytes, text, hbytes, hs⟩ := h.recordedAt
    exact ⟨bytes, text, hfile.trans hbytes, hs⟩
  refine ⟨h.settings, hrecord, h.fileName, fun l => ?_, fun p digest hp => ?_⟩
  · by_cases hl : ∃ x ∈ changes, lo ++ l = place lo x.1
    · obtain ⟨⟨p, change⟩, hx, hplace⟩ := hl
      rcases hharmless _ hx with hchange | ⟨-, contents, out, hp, -, hout⟩
      · obtain rfl : change = .notChanged := hchange
        rw [hplace, ha.notChanged p hx, ← hplace]
        exact h.regular l
      · have hsome : (d'.root.fileAt? (lo ++ l)).isSome = true := by rw [hplace, hout]; rfl
        exact iff_of_true hsome (.inr ⟨p, _, hp, List.append_cancel_left hplace⟩)
    · rw [ha.outside _ fun x hx heq => hl ⟨x, hx, heq⟩]
      exact h.regular l
  · by_cases hx : ∃ change, (p, change) ∈ changes
    · obtain ⟨change, hx⟩ := hx
      rcases hharmless _ hx with hchange | ⟨-, contents, out, hp', hout, hleft⟩
      · obtain rfl : change = .notChanged := hchange
        rw [ha.notChanged p hx]
        exact h.recorded p digest hp
      · rw [hp] at hp'
        exact ⟨contents, out, (Option.some.inj hp').symm, hout, hleft⟩
    · rw [ha.outside _ fun x hx' heq => hx ⟨x.2, by rw [place_injective heq]; exact hx'⟩]
      exact h.recorded p digest hp

/-- What an incremental build does that fails on a class: it has made the changes before it. -/
theorem applies_of_badClass (hd : w.disk.root.WellFormed) (hlo : w.disk.resolve output = .ok lo)
    (hs : b.Consistent lo w.disk s) (hinside : w.disk.getFolder input = .ok inside)
    (h : runOn (b.directory input output true) w = (.error (.badClass path cause), w')) :
    Applies b (Path.locate w.disk.current input) lo
      ((s.changes (b.record (inputsOf inside))).filter (·.1 < path)) w.disk w'.disk := by
  obtain ⟨old, w1, w2, inside', hcheck, hprepare, hmake, hinside', hloop⟩ := directory_eq_badClass h
  obtain ⟨rfl, rfl⟩ := prepare_of_consistent hlo hs hprepare
  obtain ⟨disk, hdisk, rfl⟩ := Action.onDisk_eq_ok hmake
  rw [Session.makeFolders_of_hasFolder (Disk.hasFolder_iff.2 ⟨lo, hlo, hs.recordedAt.folder⟩)] at hdisk
  cases hdisk
  obtain rfl : inside = inside' := Except.ok.inj (hinside.symm.trans hinside')
  have hwf : inside.WellFormed := hd.at? (Disk.get_eq_ok (Disk.getFolder_eq_ok.1 hinside)).2
  exact foldlM_apply_eq_badClass hd hlo hs.recordedAt.folder rfl
    (fun x hx => (hs.changes hd hwf hx).1) (BuildState.pairwise_changes _ _) hloop

/-- An input that did not change, or whose old and new contents become the same. -/
def Unaffected (b : Build) (s : BuildState) (inside : Folder) (x : String × Change) : Prop :=
  x.2 = .notChanged ∨ x.2 = .changed ∧ ∃ old new out,
    s.files.get? x.1 = some (sha256 old) ∧ inside.fileAt? (Path.steps x.1) = some new ∧
      b.outcome x.1 old = .ok out ∧ b.outcome x.1 new = .ok out

theorem Applies.harmless_iff {changes : List (String × Change)} {x : String × Change}
    (ha : Applies b li lo changes d d') (hx : x ∈ changes)
    (hinside : d.root.at? li = some (.folder inside))
    (hapart : ∀ k k', li ++ k ≠ lo ++ k') : Harmless b lo s d' x ↔ Unaffected b s inside x := by
  obtain ⟨p, change⟩ := x
  refine or_congr Iff.rfl (and_congr_right fun hchange => ?_)
  obtain ⟨new, out, hnew, hleft, hcontents⟩ := ha.written p change hx (.inr hchange)
  have hread : inside.fileAt? (Path.steps p) = some new := by
    rw [← hcontents fun y _ => hapart _ _]
    exact (Folder.fileAt?_of_kind? (Folder.kind?_append_of_folder hinside _)).symm
  constructor
  · rintro ⟨old, out', hold, hout', hleft'⟩
    rw [hleft] at hleft'
    cases hleft'
    exact ⟨old, new, out, hold, hread, hout', hnew⟩
  · rintro ⟨old, new', out', hold, hread', hout', hnew'⟩
    rw [hread] at hread'
    cases hread'
    rw [hnew] at hnew'
    cases hnew'
    exact ⟨old, out, hold, hout', hleft⟩

/-- An incremental build that fails on a class leaves a consistent output just if no input before the
class was added or removed, and each changed one left what contents with its recorded digest become.
If the output does not lie in the input, this is a matter of the inputs alone. -/
theorem consistent_of_badClass_iff (hd : w.disk.root.WellFormed)
    (hlo : w.disk.resolve output = .ok lo) (hli : w.disk.resolve input = .ok li)
    (hs : b.Consistent lo w.disk s) (hinside : w.disk.getFolder input = .ok inside)
    (h : runOn (b.directory input output true) w = (.error (.badClass path cause), w')) :
    ((∃ s', b.Consistent lo w'.disk s') ↔
      ∀ x ∈ s.changes (b.record (inputsOf inside)), x.1 < path → Harmless b lo s w'.disk x) ∧
    (¬li <+: lo → ((∃ s', b.Consistent lo w'.disk s') ↔
      ∀ x ∈ s.changes (b.record (inputsOf inside)), x.1 < path → Unaffected b s inside x)) := by
  obtain ⟨rfl, -⟩ := Disk.resolve_eq_ok hli
  have hat := (Disk.get_eq_ok (Disk.getFolder_eq_ok.1 hinside)).2
  have ha := applies_of_badClass hd hlo hs hinside h
  have hmem (x : String × Change) : x ∈ (s.changes (b.record (inputsOf inside))).filter (·.1 < path) ↔
      x ∈ s.changes (b.record (inputsOf inside)) ∧ x.1 < path := by
    rw [List.mem_filter, decide_eq_true_iff]
  have hne : ∀ x ∈ (s.changes (b.record (inputsOf inside))).filter (·.1 < path),
      x.1 ≠ BuildState.fileName :=
    fun x hx => (hs.changes hd (hd.at? hat) ((hmem x).1 hx).1).2
  have hiff : (∃ s', b.Consistent lo w'.disk s') ↔
      ∀ x ∈ s.changes (b.record (inputsOf inside)), x.1 < path → Harmless b lo s w'.disk x := by
    constructor
    · rintro ⟨s', hs'⟩ x hx hlt
      exact hs.harmless hs' ha (fun y hy => ((hmem y).1 hy).1) hne x ((hmem x).2 ⟨hx, hlt⟩)
    · intro hharmless
      exact ⟨s, hs.of_harmless ha hne fun x hx => hharmless x ((hmem x).1 hx).1 ((hmem x).1 hx).2⟩
  refine ⟨hiff, fun hout => ?_⟩
  obtain ⟨old, w1, w2, inside', hcheck, -⟩ := directory_eq_badClass h
  -- the check has refused an output above the input, so the two lie apart
  have habove : ¬lo <+: Path.locate w.disk.current input := by
    intro hpre
    rw [runOn_checkOutput hli hlo, if_pos hpre] at hcheck
    cases hcheck
  have hapart (k k' : Location) : Path.locate w.disk.current input ++ k ≠ lo ++ k' := by
    intro heq
    rcases List.prefix_or_prefix_of_prefix ⟨k, heq⟩ (List.prefix_append lo k') with hpre | hpre
    · exact hout hpre
    · exact habove hpre
  rw [hiff]
  refine forall_congr' fun x => forall_congr' fun hx => forall_congr' fun hlt => ?_
  exact ha.harmless_iff ((hmem x).2 ⟨hx, hlt⟩) hat hapart

def oneText : BuildState :=
  ({} : Build).record [("a.txt", Bytes.ofText "1")]

/-- The output of that build, and an input with a new text and a class that cannot be read. -/
def interrupted : Disk :=
  { root := .folder "in" (.file "a.txt" (Bytes.ofText "2") (.file "z.class" [0] .empty))
      (.folder "out" (.file BuildState.fileName (Bytes.ofText oneText.toJson)
        (.file "a.txt" (Bytes.ofText "1") .empty)) .empty) }

theorem get?_oneText {digest : String} : oneText.files.get? p = some digest ↔
    p = "a.txt" ∧ sha256 (Bytes.ofText "1") = digest := by
  have hget := BuildState.get?_record { settings := ({} : Build).settingsDigest } "a.txt"
    (Bytes.ofText "1") p
  have honeText : oneText = BuildState.record { settings := ({} : Build).settingsDigest } "a.txt"
      (Bytes.ofText "1") := rfl
  rw [honeText, hget]
  by_cases hp : p = "a.txt"
  · simp [hp]
  · simp [hp, SortedMap.get?_empty]

theorem consistent_interrupted : ({} : Build).Consistent ["out"] interrupted oneText := by
  have hat : interrupted.root.at? ["out"] = some (.folder (.file BuildState.fileName
      (Bytes.ofText oneText.toJson) (.file "a.txt" (Bytes.ofText "1") .empty))) := rfl
  have hwf : (Folder.file BuildState.fileName (Bytes.ofText oneText.toJson)
      (.file "a.txt" (Bytes.ofText "1") .empty)).WellFormed :=
    ⟨by decide, by decide, by decide, by decide, trivial⟩
  have hfile (l : Location) (c : Bytes) : interrupted.root.fileAt? (["out"] ++ l) = some c ↔
      l = [BuildState.fileName] ∧ c = Bytes.ofText oneText.toJson ∨
        l = ["a.txt"] ∧ c = Bytes.ofText "1" := by
    rw [Folder.fileAt?_of_kind? (Folder.kind?_append_of_folder hat l), ← Folder.mem_files hwf.distinct]
    simp [Folder.files]
  have hsteps : Path.steps "a.txt" = ["a.txt"] := by decide
  refine ⟨settings_record _ _, ?_, ?_, fun l => ?_, fun p digest hp => ?_⟩
  · exact ⟨_, _, (hfile _ _).2 (.inl ⟨rfl, rfl⟩), Bytes.toText?_ofText _,
      BuildState.ofJson_toJson _⟩
  · cases hget : oneText.files.get? BuildState.fileName with
    | none => rfl
    | some digest => exact absurd (get?_oneText.1 hget).1 (by decide)
  · rw [Option.isSome_iff_exists]
    simp only [hfile, get?_oneText]
    constructor
    · rintro ⟨c, ⟨rfl, -⟩ | ⟨rfl, -⟩⟩
      · exact .inl rfl
      · exact .inr ⟨_, _, ⟨rfl, rfl⟩, hsteps.symm⟩
    · rintro (rfl | ⟨p, digest, ⟨rfl, -⟩, rfl⟩)
      · exact ⟨_, .inl ⟨rfl, rfl⟩⟩
      · exact ⟨_, .inr ⟨hsteps, rfl⟩⟩
  · obtain ⟨rfl, rfl⟩ := get?_oneText.1 hp
    exact ⟨_, Bytes.ofText "1", rfl, rfl, (hfile _ _).2 (.inr ⟨hsteps, rfl⟩)⟩

theorem prepare_interrupted :
    runOn (({} : Build).prepare "out" true) ⟨interrupted, []⟩ = (.ok oneText, ⟨interrupted, []⟩) :=
  prepare_of_read rfl consistent_interrupted.settings

/-- The incremental build of the new input writes the new text before it fails on the class. -/
theorem runOn_interrupted :
    (runOn (({} : Build).directory "in" "out" true) ⟨interrupted, []⟩).1 =
        .error (.badClass "z.class" (.classFile .endOfFile)) ∧
      (runOn (({} : Build).directory "in" "out" true) ⟨interrupted, []⟩).2.disk.root.fileAt?
        ["out", "a.txt"] = some (Bytes.ofText "2") := by
  rw [runOn_directory (by decide +kernel) prepare_interrupted]
  simp only [carryOut, BuildState.changes_eq_merge]
  decide +kernel

theorem wellFormed_interrupted : interrupted.root.WellFormed :=
  ⟨by decide, by decide, ⟨by decide, by decide, by decide, by decide, trivial⟩,
    by decide, by decide, ⟨by decide, by decide, by decide, by decide, trivial⟩, trivial⟩

theorem getFolder_interrupted : interrupted.getFolder "in" =
    .ok (.file "a.txt" (Bytes.ofText "2") (.file "z.class" [0] .empty)) := by
  decide +kernel

theorem resolve_interrupted :
    interrupted.resolve "in" = .ok ["in"] ∧ interrupted.resolve "out" = .ok ["out"] := by
  decide +kernel

/-- The record says that the text is the old one, but the output is the new one. -/
theorem not_consistent_interrupted :
    ({} : Build).Consistent ["out"] interrupted oneText ∧
      (runOn (({} : Build).directory "in" "out" true) ⟨interrupted, []⟩).1 =
        .error (.badClass "z.class" (.classFile .endOfFile)) ∧
      ¬∃ s, ({} : Build).Consistent ["out"]
        (runOn (({} : Build).directory "in" "out" true) ⟨interrupted, []⟩).2.disk s := by
  obtain ⟨hrun, hleft⟩ := runOn_interrupted
  refine ⟨consistent_interrupted, hrun, ?_⟩
  rintro ⟨s, hs⟩
  have hwf := wellFormed_interrupted
  have hinside := getFolder_interrupted
  have hat := (Disk.get_eq_ok (Disk.getFolder_eq_ok.1 hinside)).2
  have ha := applies_of_badClass hwf resolve_interrupted.2 consistent_interrupted hinside
    (runOn_eq_of_fst hrun)
  have hrecord := ha.fileName fun x hx =>
    (consistent_interrupted.changes hwf (hwf.at? hat) (List.mem_filter.1 hx).1).2
  obtain rfl := BuildState.RecordedAt.eq consistent_interrupted.recordedAt hs.recordedAt hrecord
  obtain ⟨contents, out, hdigest, hout, hfile⟩ := hs.recorded "a.txt" _ (get?_oneText.2 ⟨rfl, rfl⟩)
  have hsteps : place ["out"] "a.txt" = ["out", "a.txt"] := by decide
  rw [hsteps, hleft] at hfile
  cases hfile
  have hsame : contents = Bytes.ofText "2" := Except.ok.inj hout
  rw [hsame] at hdigest
  exact absurd hdigest (by decide +kernel)

theorem consistent_of_badClass_iff_interrupted :
    (∃ s, ({} : Build).Consistent ["out"]
        (runOn (({} : Build).directory "in" "out" true) ⟨interrupted, []⟩).2.disk s) ↔
      ∀ x ∈ oneText.changes (({} : Build).record (inputsOf
          (.file "a.txt" (Bytes.ofText "2") (.file "z.class" [0] .empty)))),
        x.1 < "z.class" → Unaffected {} oneText
          (.file "a.txt" (Bytes.ofText "2") (.file "z.class" [0] .empty)) x :=
  (consistent_of_badClass_iff wellFormed_interrupted resolve_interrupted.2 resolve_interrupted.1
    consistent_interrupted getFolder_interrupted (runOn_eq_of_fst runOn_interrupted.1)).2 (by decide)

end Build

end StubLinker
