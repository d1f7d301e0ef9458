import StubLinker.Proofs.Build.Fresh

namespace StubLinker

namespace Build

/-- A build that succeeds, with the worlds before and after it. -/
structure Run where
  build : Build
  input : String
  output : String
  incremental : Bool
  before : World
  after : World
  summary : Summary
  succeeds : runOn (build.directory input output incremental) before = (.ok summary, after)

namespace Run

def inputAt (r : Run) : Location :=
  Path.locate r.before.disk.current r.input

def outputAt (r : Run) : Location :=
  Path.locate r.before.disk.current r.output

def inputFile? (r : Run) (l : Location) : Option Bytes :=
  r.before.disk.root.fileAt? (r.inputAt ++ l)

/-- The output is what a full build of the input makes in an empty folder. -/
def Fresh (r : Run) : Prop :=
  ∃ inside out, r.after.disk.root.at? r.inputAt = some (.folder inside) ∧
    r.after.disk.root.at? r.outputAt = some (.folder out) ∧ r.build.Makes inside out

/-- The build reaches its output. -/
def Reaches (r : Run) : Prop :=
  Reached r.before.disk r.inputAt r.outputAt r.output

end Run

/-- The builds into one output, the last one first, and the disk after them. What is not in the output
may change between them. -/
inductive History (lo : Location) : List Run → Disk → Prop where
  | start {d : Disk} (hd : d.root.WellFormed) (hnone : ∀ l, d.root.fileAt? (lo ++ l) = none) :
    History lo [] d
  | edit {runs : List Run} {d d' : Disk} (h : History lo runs d) (hd : d'.root.WellFormed)
    (hlo : d'.root.at? lo = d.root.at? lo) : History lo runs d'
  | build {runs : List Run} (r : Run) (h : History lo runs r.before.disk) (hlo : r.outputAt = lo)
    (hapart : Apart r.inputAt lo) : History lo (r :: runs) r.after.disk

/-- No two settings and no two contents that the builds meet have the same digest. -/
structure CollisionFree (runs : List Run) : Prop where
  settings : ∀ r ∈ runs, ∀ r' ∈ runs, r.build.settingsDigest = r'.build.settingsDigest →
    r.build.settingsText = r'.build.settingsText
  contents : ∀ r ∈ runs, ∀ r' ∈ runs, ∀ l l' c c', r.inputFile? l = some c →
    r'.inputFile? l' = some c' → sha256 c = sha256 c' → c = c'

variable {lo : Location} {r : Run} {runs : List Run} {d d' : Disk}

theorem CollisionFree.tail (h : CollisionFree (r :: runs)) : CollisionFree runs where
  settings := fun s hs t ht => h.settings s (List.mem_cons_of_mem _ hs) t (List.mem_cons_of_mem _ ht)
  contents := fun s hs t ht =>
    h.contents s (List.mem_cons_of_mem _ hs) t (List.mem_cons_of_mem _ ht)

/-- The output holds no file, or it is the one that a build of the history left up to date. -/
def Settled (lo : Location) (runs : List Run) (d : Disk) : Prop :=
  d.root.WellFormed ∧ ((∀ l, d.root.fileAt? (lo ++ l) = none) ∨
    ∃ r ∈ runs, ∃ inside out, inside.WellFormed ∧ d.root.at? lo = some (.folder out) ∧
      r.build.UpToDate inside out ∧ ∀ l, inside.fileAt? l = r.inputFile? l)

theorem Settled.edit (h : Settled lo runs d) (hd : d'.root.WellFormed)
    (hlo : d'.root.at? lo = d.root.at? lo) : Settled lo runs d' := by
  obtain ⟨-, hnone | ⟨r, hr, inside, out, hwf, hat, hup⟩⟩ := h
  · refine ⟨hd, .inl fun l => ?_⟩
    rw [← hnone l, Folder.fileAt?, Folder.fileAt?, Folder.kind?, Folder.kind?, Folder.at?_append,
      Folder.at?_append, hlo]
  · exact ⟨hd, .inr ⟨r, hr, inside, out, hwf, hlo.trans hat, hup⟩⟩

theorem Settled.prior (h : Settled lo runs r.before.disk) (hfree : CollisionFree (r :: runs)) :
    r.build.Prior r.inputAt lo r.before.disk := by
  obtain ⟨-, hnone | ⟨s, hs, inside, out, hwf, hat, hup, hsame⟩⟩ := h
  · exact .inl hnone
  have hmem : s ∈ r :: runs := List.mem_cons_of_mem r hs
  refine .inr ⟨s.build, inside, out, hwf, hat, hup, ?_, fun l c₀ c h₀ h => ?_⟩
  · exact hfree.settings s hmem r List.mem_cons_self
  · rw [hsame] at h₀
    exact hfree.contents s hmem r List.mem_cons_self l l c₀ c h₀ h

/-- A build that reaches its output leaves it fresh, and no other one does. -/
theorem Settled.build (h : Settled lo runs r.before.disk) (hlo : r.outputAt = lo)
    (hapart : Apart r.inputAt lo) (hfree : CollisionFree (r :: runs)) :
    (r.Fresh ↔ r.Reaches) ∧ (r.Reaches → Settled lo (r :: runs) r.after.disk) := by
  have hli : Path.locate r.before.disk.current r.input = r.inputAt := rfl
  obtain ⟨inside, out, hd', hinside, hout, hsame, hup⟩ :=
    upToDate_iff h.1 hlo hli hapart (h.prior hfree) r.succeeds
  have hwf : inside.WellFormed := hd'.at? hinside
  have hreaches : r.build.UpToDate inside out ↔ r.Reaches := by
    rw [hup, Run.Reaches, hlo]
  have hfresh : r.Fresh ↔ r.build.Makes inside out := by
    constructor
    · rintro ⟨inside', out', hinside', hout', hmakes⟩
      rw [hinside] at hinside'
      rw [hlo, hout] at hout'
      cases hinside'
      cases hout'
      exact hmakes
    · intro hmakes
      exact ⟨inside, out, hinside, hlo ▸ hout, hmakes⟩
  refine ⟨hfresh.trans ((makes_iff hwf).trans hreaches), fun hr => ⟨hd', .inr ?_⟩⟩
  exact ⟨r, List.mem_cons_self, inside, out, hwf, hout, hreaches.2 hr, hsame⟩

theorem History.settled (h : History lo runs d) (hfree : CollisionFree runs) :
    ((∀ r ∈ runs, r.Fresh) ↔ ∀ r ∈ runs, r.Reaches) ∧
      ((∀ r ∈ runs, r.Reaches) → Settled lo runs d) := by
  induction h with
  | start hd hnone => exact ⟨by simp, fun _ => ⟨hd, .inl hnone⟩⟩
  | edit h hd hlo ih =>
    obtain ⟨hiff, hsettled⟩ := ih hfree
    exact ⟨hiff, fun hr => (hsettled hr).edit hd hlo⟩
  | build r h hlo hapart ih =>
    obtain ⟨hiff, hsettled⟩ := ih hfree.tail
    rw [List.forall_mem_cons, List.forall_mem_cons]
    refine ⟨⟨?_, ?_⟩, ?_⟩
    · rintro ⟨hfresh, hrest⟩
      have hrest' := hiff.1 hrest
      exact ⟨((hsettled hrest').build hlo hapart hfree).1.1 hfresh, hrest'⟩
    · rintro ⟨hreaches, hrest⟩
      exact ⟨((hsettled hrest).build hlo hapart hfree).1.2 hreaches, hiff.2 hrest⟩
    · rintro ⟨hreaches, hrest⟩
      exact ((hsettled hrest).build hlo hapart hfree).2 hreaches

/-- The builds of a history leave what full builds make in an empty folder just if each of them
reaches the output. -/
theorem fresh_iff_reaches (h : History lo runs d) (hfree : CollisionFree runs) :
    (∀ r ∈ runs, r.Fresh) ↔ ∀ r ∈ runs, r.Reaches :=
  (h.settled hfree).1

theorem Run.reaches (r : Run) (hup : ".." ∉ Path.steps r.output) : r.Reaches := by
  by_cases hhas : r.before.disk.has r.output = true
  · exact .inl hhas
  obtain ⟨old, w1, -, hprepare, hcarry⟩ := directory_eq_ok r.succeeds
  obtain ⟨w2, inside, w3, w4, hmake, -⟩ := carryOut_eq_ok hcarry
  have hne := ne_empty_of_carryOut hcarry
  have hdisk : w1.disk = r.before.disk := by
    rcases prepare_eq_ok hprepare with
      ⟨-, -, -, bytes, text, hread, -⟩ | ⟨-, htrue, -⟩ | ⟨-, -, hdisk⟩
    · exact absurd (Disk.has_of_read hne BuildState.isPlain_fileName hread) hhas
    · exact absurd htrue hhas
    · exact hdisk
  obtain ⟨d2, hmakes, -⟩ := Action.onDisk_eq_ok hmake
  rw [hdisk] at hmakes
  obtain ⟨hgrows, hfolder⟩ := Session.makeFolders_eq_ok hne hmakes
  obtain ⟨l, hresolve, hl⟩ := Disk.hasFolder_iff.1 hfolder
  have hlo : l = r.outputAt := by
    rw [(Disk.resolve_eq_ok hresolve).1, hgrows.current]
    rfl
  refine .inr fun k _ hsome => absurd ?_ hhas
  rw [← hlo] at hsome
  obtain ⟨c, hc⟩ := Option.isSome_iff_exists.1 hsome
  -- only a folder that was there before can have a file below it now
  have hbefore : r.before.disk.root.kind? l = some .folder := by
    rcases hgrows.kind? l with hsame | ⟨hnone, -⟩
    · exact hsame.symm.trans hl
    · have hk := Folder.fileAt?_eq_some.1 hc
      cases k with
      | nil =>
        rw [List.append_nil, hnone] at hk
        cases hk
      | cons n k => exact Folder.kind?_of_append (by rw [hk]; rfl) (List.cons_ne_nil n k)
  exact Disk.has_of_resolve (Disk.resolve_of_folder hup hgrows.current hresolve hbefore)

/-- Builds into one output whose path never leads up leave what full builds make in an empty
folder. -/
theorem History.fresh (h : History lo runs d) (hfree : CollisionFree runs)
    (hup : ∀ r ∈ runs, ".." ∉ Path.steps r.output) : ∀ r ∈ runs, r.Fresh :=
  (h.settled hfree).1.2 fun r hr => r.reaches (hup r hr)

section Examples

/-- The path of the output leads through a folder that a build makes and prunes. -/
def detour : String :=
  "out/x/../../out"

theorem runOn_unbuilt : runOn (({} : Build).directory "in" detour false) unbuilt =
    (.ok { copied := 1 }, beside "a.txt" "1") := by
  decide +kernel

def first : Run :=
  ⟨{}, "in", detour, false, unbuilt, _, _, runOn_unbuilt⟩

theorem runOn_changed : (runOn (({} : Build).directory "in" "out" true) (beside "a.txt" "2")).1 =
    .ok { copied := 1 } := by
  rw [runOn_directory (by decide +kernel) (prepare_beside "a.txt" "2")]
  decide +kernel

/-- A build of a text that has changed since, not by the detour. -/
def changed : Run :=
  ⟨{}, "in", "out", true, beside "a.txt" "2", _, _, runOn_eq_of_fst runOn_changed⟩

theorem runOn_renamed : (runOn (({} : Build).directory "in" detour false) (beside "b.txt" "2")).1 =
    .ok { copied := 1 } := by
  decide +kernel

/-- A full build of a text under another name, by the detour. -/
def renamed : Run :=
  ⟨{}, "in", detour, false, beside "b.txt" "2", _, _, runOn_eq_of_fst runOn_renamed⟩

theorem fileAt?_unbuilt (l : Location) : unbuilt.disk.root.fileAt? (["out"] ++ l) = none := by
  rw [Folder.fileAt?, List.singleton_append, Folder.kind?_eq_none (by decide)]

theorem history_first : History ["out"] [first] first.after.disk :=
  .build first (.start wellFormed_unbuilt fileAt?_unbuilt) rfl ⟨by decide, by decide⟩

theorem history_changed : History ["out"] [changed, first] changed.after.disk :=
  .build changed (.edit history_first (wellFormed_beside (by decide) "2") rfl) rfl
    ⟨by decide, by decide⟩

theorem history_renamed : History ["out"] [renamed, first] renamed.after.disk :=
  .build renamed (.edit history_first (wellFormed_beside (by decide) "2") rfl) rfl
    ⟨by decide, by decide⟩

theorem eq_of_oneFile {name text : String} (hn : Folder.IsPlain name) {l : Location} {c : Bytes}
    (h : (oneFile name text).fileAt? l = some c) : c = Bytes.ofText text := by
  have hwf : (oneFile name text).WellFormed := ⟨hn, by simp [Folder.names], trivial⟩
  have hmem := (Folder.mem_files hwf.distinct).2 h
  exact (Prod.mk.inj (List.mem_singleton.1 hmem)).2

theorem sha256_texts : sha256 (Bytes.ofText "1") ≠ sha256 (Bytes.ofText "2") := by
  decide +kernel

/-- Builds without settings of inputs with one of the two texts meet no collision. -/
theorem collisionFree_of_texts (hbuild : ∀ r ∈ runs, r.build = {})
    (hinput : ∀ r ∈ runs, ∃ name, Folder.IsPlain name ∧
      (r.before.disk.root.at? r.inputAt = some (.folder (oneFile name "1")) ∨
        r.before.disk.root.at? r.inputAt = some (.folder (oneFile name "2")))) :
    CollisionFree runs := by
  have htext : ∀ r ∈ runs, ∀ l c, r.inputFile? l = some c →
      c = Bytes.ofText "1" ∨ c = Bytes.ofText "2" := by
    intro r hr l c hc
    obtain ⟨name, hn, hat | hat⟩ := hinput r hr
    · rw [Run.inputFile?, fileAt?_below hat] at hc
      exact .inl (eq_of_oneFile hn hc)
    · rw [Run.inputFile?, fileAt?_below hat] at hc
      exact .inr (eq_of_oneFile hn hc)
  refine ⟨fun r hr r' hr' _ => by rw [hbuild r hr, hbuild r' hr'], ?_⟩
  intro r hr r' hr' l l' c c' hc hc' hsame
  rcases htext r hr l c hc with rfl | rfl <;> rcases htext r' hr' l' c' hc' with rfl | rfl
  · rfl
  · exact absurd hsame sha256_texts
  · exact absurd hsame.symm sha256_texts
  · rfl

theorem collisionFree_changed : CollisionFree [changed, first] :=
  collisionFree_of_texts (by simp [changed, first]) (by
    simp only [List.forall_mem_cons]
    exact ⟨⟨"a.txt", by decide, .inr rfl⟩, ⟨"a.txt", by decide, .inl rfl⟩, by simp⟩)

theorem collisionFree_renamed : CollisionFree [renamed, first] :=
  collisionFree_of_texts (by simp [renamed, first]) (by
    simp only [List.forall_mem_cons]
    exact ⟨⟨"b.txt", by decide, .inr rfl⟩, ⟨"a.txt", by decide, .inl rfl⟩, by simp⟩)

theorem reaches_first : first.Reaches := by
  refine .inr fun l _ hsome => ?_
  have hnone : first.before.disk.root.fileAt? (first.outputAt ++ l) = none := fileAt?_unbuilt l
  rw [hnone] at hsome
  cases hsome

theorem not_reaches_renamed : ¬renamed.Reaches := by
  rintro (h | h)
  · have hhas : renamed.before.disk.has renamed.output = false := by decide +kernel
    rw [hhas] at h
    cases h
  · have hinput : (renamed.before.disk.root.fileAt? (renamed.inputAt ++ ["a.txt"])).isSome = true :=
      h ["a.txt"] (by decide) rfl
    cases hinput

/-- The first build by the detour and the next one leave what full builds make. -/
theorem fresh_iff_reaches_changed : changed.Fresh ∧ first.Fresh := by
  have hfresh : ∀ r ∈ [changed, first], r.Fresh :=
    (fresh_iff_reaches history_changed collisionFree_changed).2
      (List.forall_mem_cons.2 ⟨.inl rfl, List.forall_mem_cons.2 ⟨reaches_first, by simp⟩⟩)
  exact ⟨hfresh changed (by simp), hfresh first (by simp)⟩

/-- A full build by the detour does not start from an empty output. -/
theorem not_fresh_renamed : History ["out"] [renamed, first] renamed.after.disk ∧
    CollisionFree [renamed, first] ∧ ¬∀ r ∈ [renamed, first], r.Fresh := by
  refine ⟨history_renamed, collisionFree_renamed, fun hfresh => ?_⟩
  have hreaches := (history_renamed.settled collisionFree_renamed).1.1 hfresh
  exact not_reaches_renamed (hreaches renamed List.mem_cons_self)

end Examples

end Build

end StubLinker
