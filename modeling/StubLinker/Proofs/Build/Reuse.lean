import StubLinker.Proofs.Build.Full

namespace StubLinker

namespace PathFilter

variable {f f' : Option PathFilter}

/-- The filters have the same text, or there is none where the other has no text. -/
def SameText (f f' : Option PathFilter) : Prop :=
  f.map (·.text) = f'.map (·.text) ∨ (f = none ∧ f'.map (·.text) = some "") ∨
    (f.map (·.text) = some "" ∧ f' = none)

theorem sameText_iff :
    SameText f f' ↔ (f.map (·.text)).getD "" = (f'.map (·.text)).getD "" := by
  unfold SameText
  cases f with
  | none =>
    cases f' with
    | none => simp
    | some g' => simp [eq_comm (a := "")]
  | some g => cases f' <;> simp

theorem selects_of_sameText_none (h : SameText f none) (path : String) :
    f.all (·.selects path) = true := by
  rw [Build.selects_of_text (sameText_iff.1 h) path]
  rfl

end PathFilter

namespace Build

variable {b b' : Build} {input output path : String} {change : Change} {w w' : World}
  {summary summary' : Summary} {s : BuildState}

theorem update_counts
    (h : runOn (b.update input output path change summary) w = (.ok summary', w')) :
    summary' = if b.links path then { summary with rewritten := summary.rewritten + 1 }
      else { summary with copied := summary.copied + 1 } := by
  obtain ⟨log, hrun⟩ := runOn_update b input output path change summary w
  rw [hrun] at h
  split at h
  · cases h
  split at h
  · cases h
  split at h
  · cases h
  · cases h
    rfl

theorem counts_of_added {changes : List (String × Change)} (hadded : ∀ x ∈ changes, x.2 = .added)
    (h : runOn (changes.foldlM (b.apply input output) summary) w = (.ok summary', w')) :
    summary'.unchanged = summary.unchanged ∧ summary'.removed = summary.removed := by
  induction changes generalizing summary w with
  | nil =>
    cases h
    exact ⟨rfl, rfl⟩
  | cons x changes ih =>
    obtain ⟨hx, hrest⟩ := List.forall_mem_cons.1 hadded
    obtain ⟨path, change⟩ := x
    cases hx
    rw [List.foldlM_cons] at h
    obtain ⟨s1, w1, hfirst, h⟩ := runOn_bind_eq_ok.1 h
    rw [apply_added] at hfirst
    have hcounts := update_counts hfirst
    obtain ⟨hunchanged, hremoved⟩ := ih hrest h
    rw [hunchanged, hremoved, hcounts]
    split <;> exact ⟨rfl, rfl⟩

theorem full_counts (h : runOn (b.directory input output false) w = (.ok summary, w')) :
    summary.unchanged = 0 ∧ summary.removed = 0 := by
  obtain ⟨old, w1, -, hprepare, hcarry⟩ := directory_eq_ok h
  obtain ⟨w2, inside, w3, w4, -, -, hloop, -⟩ := carryOut_eq_ok hcarry
  have hnone : old = {} := by
    rcases prepare_eq_ok hprepare with ⟨hincremental, -⟩ | ⟨hold, -⟩ | ⟨hold, -⟩
    · cases hincremental
    · exact hold
    · exact hold
  subst hnone
  exact counts_of_added (fun x => BuildState.eq_added_of_mem_changes rfl) hloop

/-- Builds have one text of settings exactly if they agree in both settings and in the text of their
filters. An incremental build goes on from a record of a build with that text. From a record of any
build that does not link alike, it does as a full build does: it leaves no output as it is. -/
theorem settingsText_identifies (b b' : Build) :
    (b.settingsText = b'.settingsText ↔
      b.settings.annotationPackage = b'.settings.annotationPackage ∧
      b.settings.linkFailureClass = b'.settings.linkFailureClass ∧
      PathFilter.SameText b.filter b'.filter) ∧
    (PathFilter.SameText b.filter none → ∀ path, b.filter.all (·.selects path) = true) ∧
    ((b.settingsDigest = b'.settingsDigest → b.settingsText = b'.settingsText) →
      ∀ (input output : String) (w : World) (s : BuildState), s.settings = b.settingsDigest →
        w.disk.read (Path.join output BuildState.fileName) = .ok (Bytes.ofText s.toJson) →
        (b.settingsText = b'.settingsText → b.LinksAlike b' ∧
          runOn (b'.prepare output true) w = (.ok s, w)) ∧
        (b.settingsText ≠ b'.settingsText →
          EndsAlike (runOn (b'.directory input output true) w)
            (runOn (b'.directory input output false) w)) ∧
        ∀ summary w', runOn (b'.directory input output true) w = (.ok summary, w') →
          0 < summary.unchanged → b.LinksAlike b') := by
  refine ⟨?_, PathFilter.selects_of_sameText_none, fun hcollision input output w s hs hread => ?_⟩
  · rw [settingsText_eq_iff, PathFilter.sameText_iff, Settings.eq_iff, and_assoc]
  · have hfull (hne : b.settingsText ≠ b'.settingsText) :
        EndsAlike (runOn (b'.directory input output true) w)
          (runOn (b'.directory input output false) w) :=
      endsAlike_full (BuildState.load_of_read hread) fun h => hne (hcollision (hs.symm.trans h))
    refine ⟨fun htext => ⟨linksAlike_of_settingsText htext, prepare_of_read hread ?_⟩, hfull,
      fun summary w' hrun hunchanged => ?_⟩
    · rw [hs, settingsDigest, settingsDigest, htext]
    · by_cases htext : b.settingsText = b'.settingsText
      · exact linksAlike_of_settingsText htext
      · have hresult := (hfull htext).result
        rw [hrun] at hresult
        obtain ⟨hnone, -⟩ := full_counts (runOn_eq_of_fst hresult.symm)
        omega

section Examples

/-- A build of other settings. -/
def repackaged : Build :=
  { settings := { annotationPackage := "a" } }

/-- A build with a filter that has no text. -/
def unfiltered : Build :=
  { filter := some ⟨"", .empty, Pattern.ofText_empty⟩ }

/-- A filter without text goes on from the record of a build without a filter, other settings do
not. -/
theorem settingsText_identifies_beside :
    ({} : Build).LinksAlike unfiltered ∧
    EndsAlike (runOn (repackaged.directory "in" "out" true) (beside "a.txt" "1"))
      (runOn (repackaged.directory "in" "out" false) (beside "a.txt" "1")) := by
  have hread : (beside "a.txt" "1").disk.read (Path.join "out" BuildState.fileName) =
      .ok (Bytes.ofText (({} : Build).record [("a.txt", Bytes.ofText "1")]).toJson) := rfl
  constructor
  · exact (((settingsText_identifies {} unfiltered).2.2 (fun _ => rfl) "in" "out" _ _
      (settings_record {} _) hread).1 rfl).1
  · have hdigest : ({} : Build).settingsDigest ≠ repackaged.settingsDigest := by decide +kernel
    have htext : ({} : Build).settingsText ≠ repackaged.settingsText := by decide +kernel
    exact ((settingsText_identifies {} repackaged).2.2 (fun h => absurd h hdigest) "in" "out" _ _
      (settings_record {} _) hread).2.1 htext

end Examples

end Build

end StubLinker
