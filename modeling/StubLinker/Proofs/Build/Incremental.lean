import StubLinker.Proofs.Build.Clear
import StubLinker.Proofs.Build.History

namespace StubLinker

namespace Build

variable {b : Build} {w w' w1 w2 w3 w4 : World} {input output : String} {incremental : Bool}
  {summary : Summary} {li lo : Location} {d d₁ d₂ : Disk} {old : BuildState} {inside : Folder}
  {runs : List Run} {log log' : List LogLine}

/-- An output with a record, and with a file for each path in it. -/
structure Backed (lo : Location) (s : BuildState) (d : Disk) : Prop where
  recordedAt : s.RecordedAt d (lo ++ [BuildState.fileName])
  kept : s.Kept lo d

theorem backed_of_prepared (hd : w1.disk.root.WellFormed)
    (hlo : Path.locate w1.disk.current output = lo) (hli : Path.locate w1.disk.current input = li)
    (hapart : Apart li lo) (hkept : old.Kept lo w1.disk)
    (hcarry : runOn (b.carryOut input output old) w1 = (.ok summary, w')) :
    w'.disk.root.WellFormed ∧ ∃ s, Backed lo s w'.disk := by
  obtain ⟨left, inner, d, hleft, -, ha, hclosed⟩ :=
    applies_of_prepared hd hlo hli hapart hkept.plain hcarry
  have hwf : left.WellFormed := hclosed.wellFormed.at? hleft
  have hfile (k : Location) : w'.disk.root.fileAt? (lo ++ k) = inner.fileAt? k := by
    rw [fileAt?_below hclosed.output, Folder.fileAt?_pruned hclosed.entries.distinct]
  refine ⟨hclosed.wellFormed, b.record (inputsOf left), ⟨_, _, ?_, Bytes.toText?_ofText _,
    BuildState.ofJson_toJson _⟩, fun p digest hnew => ?_⟩
  · rw [hfile, hclosed.files, if_pos rfl]
  · obtain ⟨c, hinput⟩ := (exists_get?_record hwf).1 ⟨digest, hnew⟩
    obtain ⟨hne, -⟩ := (mem_inputsOf hwf).1 hinput
    obtain ⟨hfits, hplaced⟩ := ha.isSome hwf hkept hapart.ne_nil hinput
    have hrecord : Path.steps p ≠ [BuildState.fileName] := by
      rw [← BuildState.steps_fileName]
      exact fun heq => hne (Path.steps_injective heq)
    refine ⟨hne, hfits, ?_⟩
    rw [place, hfile, hclosed.files, if_neg hrecord]
    exact hplaced

/-- A build that finds no file in its output, or a record with what it names, leaves such a record. -/
theorem backed_of_directory (hd : w.disk.root.WellFormed)
    (hlo : Path.locate w.disk.current output = lo) (hli : Path.locate w.disk.current input = li)
    (hapart : Apart li lo)
    (hprior : (∀ k, w.disk.root.fileAt? (lo ++ k) = none) ∨ ∃ s, Backed lo s w.disk)
    (hrun : runOn (b.directory input output incremental) w = (.ok summary, w')) :
    w'.disk.root.WellFormed ∧ ∃ s, Backed lo s w'.disk := by
  obtain ⟨old, w1, -, hprepare, hcarry⟩ := directory_eq_ok hrun
  rcases prepare_eq_ok hprepare with
    ⟨-, -, hdisk, bytes, text, hread, htext, hjson⟩ | ⟨rfl, -, hremove⟩ | ⟨rfl, -, hdisk⟩
  · have hfile := Disk.read_eq_ok hread
    rw [Path.locate_join _ BuildState.isPlain_fileName, hlo, BuildState.steps_fileName] at hfile
    rcases hprior with hnone | ⟨s, hs⟩
    · rw [hnone] at hfile
      cases hfile
    obtain rfl := hs.recordedAt.eq ⟨bytes, text, hfile, htext, hjson⟩ rfl
    have hkept := hs.kept
    rw [← hdisk] at hd hlo hli hkept
    exact backed_of_prepared hd hlo hli hapart hkept hcarry
  · obtain ⟨hcurrent, hd1, -, -⟩ := Session.removeTree_eq_ok hd hremove
    rw [← hcurrent] at hlo hli
    exact backed_of_prepared hd1 hlo hli hapart (BuildState.kept_empty lo _) hcarry
  · rw [← hdisk] at hd hlo hli
    exact backed_of_prepared hd hlo hli hapart (BuildState.kept_empty lo _) hcarry

/-- What builds into one output leave: a record with what it names, once there is one of them. -/
theorem History.backed (h : History lo runs d) : d.root.WellFormed ∧
    (runs = [] ∧ (∀ k, d.root.fileAt? (lo ++ k) = none) ∨ ∃ s, Backed lo s d) := by
  induction h with
  | start hd hnone => exact ⟨hd, .inl ⟨rfl, hnone⟩⟩
  | @edit runs d d' h hd hlo ih =>
    have hfile (k : Location) : d'.root.fileAt? (lo ++ k) = d.root.fileAt? (lo ++ k) := by
      rw [Folder.fileAt?, Folder.fileAt?, Folder.kind?, Folder.kind?, Folder.at?_append,
        Folder.at?_append, hlo]
    obtain ⟨-, ⟨hruns, hnone⟩ | ⟨s, hs⟩⟩ := ih
    · exact ⟨hd, .inl ⟨hruns, fun k => (hfile k).trans (hnone k)⟩⟩
    · obtain ⟨bytes, text, hbytes, htext, hjson⟩ := hs.recordedAt
      refine ⟨hd, .inr ⟨s, ⟨bytes, text, (hfile _).trans hbytes, htext, hjson⟩, ?_⟩⟩
      intro p digest hp
      obtain ⟨hne, hfits, hplaced⟩ := hs.kept p digest hp
      refine ⟨hne, hfits, ?_⟩
      rw [place, hfile]
      exact hplaced
  | build r h hlo hapart ih =>
    obtain ⟨hd, hprior⟩ := ih
    have hprior := hprior.imp_left And.right
    obtain ⟨hd', hbacked⟩ := backed_of_directory hd hlo rfl hapart hprior r.succeeds
    exact ⟨hd', .inr hbacked⟩

/-- A build that comes to its end. -/
def Succeeds (b : Build) (input output : String) (incremental : Bool) (w : World) : Prop :=
  ∃ summary w', runOn (b.directory input output incremental) w = (.ok summary, w')

theorem prepare_full (hhas : w.disk.has output = true)
    (h : runOn (b.prepare output false) w = (.ok old, w')) :
    old = {} ∧ runOn (Session.removeTree output) w.disk = (.ok (), w'.disk) := by
  rcases prepare_eq_ok h with ⟨hinc, -⟩ | ⟨hold, -, hremove⟩ | ⟨-, hnot, -⟩
  · cases hinc
  · exact ⟨hold, hremove⟩
  · rw [hhas] at hnot
    cases hnot

theorem prepare_of_other {s : BuildState} (hb : w.disk.resolve output = .ok lo)
    (hs : s.RecordedAt w.disk (lo ++ [BuildState.fileName]))
    (hcheck : Disk.checkPath (Path.join output BuildState.fileName) = .ok ())
    (hother : s.settings ≠ b.settingsDigest)
    (hremove : runOn (Session.removeTree output) w.disk = (.ok (), d₁)) :
    ∃ log, runOn (b.prepare output true) w = (.ok {}, ⟨d₁, log⟩) := by
  have hload : runOn (found output true) w = runOn (BuildState.load output) w := rfl
  obtain ⟨log, hgo⟩ := runOn_goOn b output true s w
  rw [if_neg hother, if_pos (Disk.has_of_resolve hb), hremove] at hgo
  refine ⟨log, ?_⟩
  rw [prepare_eq, runOn_bind, hload, BuildState.load_of_recordedAt hb hs, hcheck]
  exact hgo

/-- What a full build shows that is made in an output once it is emptied: the output can be removed
and made again, and the inputs can be taken into it. -/
structure Rebuilds (b : Build) (input output : String) (li lo : Location)
    (files : List (String × Bytes)) (d d₁ d₂ : Disk) : Prop where
  remove : runOn (Session.removeTree output) d = (.ok (), d₁)
  make : runOn (Session.makeFolders output) d₁ = (.ok (), d₂)
  remade : d.Remade output lo d₂
  inputs : ∃ inside, d₂.getFolder input = .ok inside ∧ inputsOf inside = files
  possible : b.Possible input output files
  ready : b.Ready input output li lo (BuildState.changes {} (b.record files)) d₂

theorem Succeeds.rebuilds (hd : d.root.WellFormed) (hl : d.root.kind? lo = some .folder)
    (hinside : d.getFolder input = .ok inside) (hli : Path.locate d.current input = li)
    (hapart : Apart li lo) (hempty : (d.put lo (.folder .empty)).resolve output = .ok lo)
    (h : b.Succeeds input output false ⟨d.put lo (.folder .empty), log⟩) :
    ∃ d₁ d₂, b.Rebuilds input output li lo (inputsOf inside) d d₁ d₂ := by
  obtain ⟨summary, w', hrun⟩ := h
  obtain ⟨old, w1, -, hprepare, hcarry⟩ := directory_eq_ok hrun
  obtain ⟨w2, inside₂, w3, w4, hmake, hinside₂, hloop, hsave, hprune⟩ := carryOut_eq_ok hcarry
  obtain ⟨rfl, hremove⟩ := prepare_full (Disk.has_of_resolve hempty) hprepare
  dsimp only at hremove
  rw [← Session.runOn_removeTree_put hd hl hempty] at hremove
  obtain ⟨d₂, hmakes, rfl⟩ := Action.onDisk_eq_ok hmake
  have hlocate : Path.locate d.current output = lo := (Disk.resolve_eq_ok hempty).1.symm
  have hre := Session.remade hd (Disk.ne_empty_of_resolve hempty) hlocate hremove hmakes
  have hli2 : Path.locate d₂.current input = li := by rw [hre.current, hli]
  have hat := (Disk.get_eq_ok (Disk.getFolder_eq_ok.1 hinside)).2
  have hat2 := (Disk.get_eq_ok (Disk.getFolder_eq_ok.1 hinside₂)).2
  rw [hli] at hat
  rw [hli2] at hat2
  have hwf2 : inside₂.WellFormed := hre.wellFormed.at? hat2
  have hinputs : inputsOf inside₂ = inputsOf inside := by
    apply inputsOf_congr (hd.at? hat) hwf2
    intro k
    rw [← fileAt?_below hat2, hre.files _ (hapart.not_prefix k), fileAt?_below hat]
  have hpossible := possible_of_loop hre.wellFormed hre.resolve hre.folder hli2 hapart hwf2
    (fileAt?_below hat2) hloop hsave
  have ha := applies_of_loop hre.wellFormed hre.resolve hre.folder hli2 hwf2
    (BuildState.kept_empty lo d₂) hloop
  have hfolders := spellsBelow_of_save ha.wellFormed (ha.toKeeps.resolve hre.resolve hre.folder)
    (ha.folder lo hre.folder) hsave hprune
  have hready := ready_of_loop hre.wellFormed hre.resolve hre.folder hli2 hapart hwf2
    (fileAt?_below hat2) hloop hsave hfolders
  rw [hinputs] at hpossible hready
  exact ⟨w1.disk, d₂, hremove, hmakes, hre, ⟨inside₂, hinside₂, hinputs⟩, hpossible, hready⟩

section Backed

variable (hb : d.resolve output = .ok lo) (hinside : d.getFolder input = .ok inside)
  (hli : Path.locate d.current input = li) (hapart : Apart li lo) (hbacked : Backed lo old d)
  (hre : b.Rebuilds input output li lo (inputsOf inside) d d₁ d₂)

include hb hinside hli hapart hbacked hre

theorem Succeeds.clear (hd : d.root.WellFormed) (hsettings : old.settings = b.settingsDigest)
    (h : b.Succeeds input output true ⟨d, log⟩) : Clear output lo (inputsOf inside) old d := by
  obtain ⟨summary, w', hrun⟩ := h
  obtain ⟨old₁, w1, -, hprepare, hcarry⟩ := directory_eq_ok hrun
  obtain ⟨w2, inside₁, w3, w4, hmake, hinside₁, hloop, hsave, hprune⟩ := carryOut_eq_ok hcarry
  rw [prepare_of_recordedAt hb hbacked.recordedAt hsettings, hre.possible.record.check] at hprepare
  cases hprepare
  have hl := hbacked.recordedAt.folder
  rw [Action.runOn_onDisk,
    Session.makeFolders_of_hasFolder (Disk.hasFolder_iff.2 ⟨lo, hb, hl⟩)] at hmake
  cases hmake
  rw [hinside] at hinside₁
  cases hinside₁
  have hat := (Disk.get_eq_ok (Disk.getFolder_eq_ok.1 hinside)).2
  have ha := applies_of_loop hd hb hl hli (hd.at? hat) hbacked.kept hloop
  have hfolders := spellsBelow_of_save ha.wellFormed (ha.toKeeps.resolve hb hl) (ha.folder lo hl)
    hsave hprune
  exact clear_of_loop hd hb hl hli (hd.at? hat) hbacked.kept hloop hapart hfolders

/-- A build that goes on from a record succeeds if nothing is in its way. -/
theorem Clear.succeeds (hd : d.root.WellFormed)
    (hempty : (d.put lo (.folder .empty)).resolve output = .ok lo)
    (hsettings : old.settings = b.settingsDigest)
    (h : Clear output lo (inputsOf inside) old d) : b.Succeeds input output true ⟨d, log⟩ := by
  obtain ⟨hi, hat⟩ := Disk.get_eq_ok (Disk.getFolder_eq_ok.1 hinside)
  rw [hli] at hi hat
  have hcheck : (runOn (checkOutput input output) ⟨d, log⟩).1 = .ok () := by
    rw [runOn_checkOutput hi hb, if_neg hapart.2]
  have hprepare := prepare_of_recordedAt (w := ⟨d, log⟩) hb hbacked.recordedAt hsettings
  rw [hre.possible.record.check] at hprepare
  have hl := hbacked.recordedAt.folder
  have hmake := Session.makeFolders_of_hasFolder (Disk.hasFolder_iff.2 ⟨lo, hb, hl⟩)
  have hrecord : d.root.kind? (place lo BuildState.fileName) ≠ some .folder := by
    obtain ⟨bytes, text, hbytes, -⟩ := hbacked.recordedAt
    rw [place_fileName, Folder.fileAt?_eq_some.1 hbytes]
    simp
  have hready := h.ready (hd.at? hat) hre.possible hbacked.kept (Disk.checkPath_of_resolve hb)
    (fileAt?_below hat) hrecord
  obtain ⟨summary, w', hrun⟩ := hready.carryOut (w := ⟨d, log⟩) hmake hd hb hl hempty hinside hli
    hapart hre.possible.record
  exact ⟨summary, w', (runOn_directory hcheck hprepare).trans hrun⟩

theorem Backed.succeeds_of_other (hempty : (d.put lo (.folder .empty)).resolve output = .ok lo)
    (hother : old.settings ≠ b.settingsDigest) : b.Succeeds input output true ⟨d, log⟩ := by
  obtain ⟨hi, -⟩ := Disk.get_eq_ok (Disk.getFolder_eq_ok.1 hinside)
  rw [hli] at hi
  have hcheck : (runOn (checkOutput input output) ⟨d, log⟩).1 = .ok () := by
    rw [runOn_checkOutput hi hb, if_neg hapart.2]
  obtain ⟨log₁, hprepare⟩ := prepare_of_other (w := ⟨d, log⟩) hb hbacked.recordedAt
    hre.possible.record.check hother hre.remove
  obtain ⟨inside₂, hinside₂, hinputs⟩ := hre.inputs
  have hremade := hre.remade
  have hli2 : Path.locate d₂.current input = li := by rw [hremade.current, hli]
  have hempty2 := Disk.resolve_put .empty hremade.current hbacked.recordedAt.folder hremade.folder hremade.outer hempty
  have hready := hre.ready
  rw [← hinputs] at hready
  obtain ⟨summary, w', hrun⟩ := hready.carryOut (w := ⟨d₁, log₁⟩) hre.make hremade.wellFormed
    hremade.resolve hremade.folder hempty2 hinside₂ hli2 hapart hre.possible.record
  exact ⟨summary, w', (runOn_directory hcheck hprepare).trans hrun⟩

end Backed

/-- An incremental build after others succeeds just if nothing that they left stands in its way,
provided that a full build can be made in the output once it is emptied. -/
theorem succeeds_iff (h : History lo runs d) (hruns : runs ≠ [])
    (hinside : d.getFolder input = .ok inside) (hapart : Apart (Path.locate d.current input) lo)
    (hempty : (d.put lo (.folder .empty)).resolve output = .ok lo)
    (hfull : b.Succeeds input output false ⟨d.put lo (.folder .empty), log⟩) :
    b.Succeeds input output true ⟨d, log'⟩ ↔
      ∀ old : BuildState, old.RecordedAt d (lo ++ [BuildState.fileName]) →
        old.settings = b.settingsDigest → Clear output lo (inputsOf inside) old d := by
  obtain ⟨hd, ⟨hnone, -⟩ | ⟨old, hbacked⟩⟩ := h.backed
  · exact absurd hnone hruns
  have hl := hbacked.recordedAt.folder
  have hb : d.resolve output = .ok lo :=
    (Disk.keeps_empty rfl hl hl fun _ _ h => h).resolve hempty (Disk.folder_put .empty hl)
  obtain ⟨d₁, d₂, hre⟩ := hfull.rebuilds hd hl hinside rfl hapart hempty
  constructor
  · intro hsucceeds old' hold hsettings
    obtain rfl := hbacked.recordedAt.eq hold rfl
    exact hsucceeds.clear hb hinside rfl hapart hbacked hre hd hsettings
  · intro hclear
    by_cases hsettings : old.settings = b.settingsDigest
    · have hway := hclear old hbacked.recordedAt hsettings
      exact hway.succeeds hb hinside rfl hapart hbacked hre hd hempty hsettings
    · exact hbacked.succeeds_of_other hb hinside rfl hapart hre hempty hsettings

section Examples

/-- A changed text is in nothing's way, and the build that takes it up succeeds. -/
theorem succeeds_iff_beside :
    ({} : Build).Succeeds "in" "out" true ⟨(beside "a.txt" "2").disk, []⟩ := by
  have hfull : ({} : Build).Succeeds "in" "out" false
      ⟨(beside "a.txt" "2").disk.put ["out"] (.folder .empty), []⟩ :=
    ⟨{ copied := 1 }, _, runOn_eq_of_fst (by decide +kernel)⟩
  have hinside : (beside "a.txt" "2").disk.getFolder "in" = .ok (oneFile "a.txt" "2") := by
    decide +kernel
  have hinputs (text : String) :
      inputsOf (oneFile "a.txt" text) = [("a.txt", Bytes.ofText text)] := rfl
  have hd : (beside "a.txt" "2").disk.root.WellFormed := wellFormed_beside (by decide) "2"
  refine (succeeds_iff (.edit history_first hd rfl) (by simp)
    hinside ⟨by decide, by decide⟩ (by decide +kernel) hfull).2 fun old hold _ => ?_
  obtain rfl := recordedAt_beside hold
  rw [hinputs]
  have hlists := Disk.lists_of_at? (l := ["out"]) hd rfl
  refine ⟨fun p c hmem => ?_, fun p c m hmem hm hne hfile => ?_, fun q digest hq hgone => ?_,
    hlists.spellsFolders_iff.1 trivial⟩
  · obtain ⟨rfl, -⟩ := Prod.mk.inj (List.mem_singleton.1 hmem)
    decide +kernel
  · obtain ⟨rfl, -⟩ := Prod.mk.inj (List.mem_singleton.1 hmem)
    have hsteps : Path.steps "a.txt" = [] ++ ["a.txt"] := by decide
    rw [hsteps] at hm hne
    have hnil : m <+: [] := (List.prefix_concat_iff.1 hm).resolve_left hne
    rw [List.prefix_nil.1 hnil] at hfile
    cases hfile
  · have hwf : (oneFile "a.txt" "1").WellFormed := ⟨by decide, by decide, trivial⟩
    obtain ⟨c, hmem⟩ := (exists_get?_record hwf).1 ⟨digest, hq⟩
    rw [hinputs] at hmem
    obtain ⟨rfl, -⟩ := Prod.mk.inj (List.mem_singleton.1 hmem)
    exact absurd ⟨_, List.mem_singleton_self _⟩ hgone

def nested : Folder :=
  .folder "a" (oneFile "b" "1") .empty

/-- An input beside the output of that folder. -/
def regrown (inside : Folder) : World :=
  { disk :=
      { root := .folder "in" inside (.folder "out" (.file BuildState.fileName
          (Bytes.ofText (({} : Build).record (inputsOf nested)).toJson) nested) .empty) } }

theorem runOn_nested :
    runOn (({} : Build).directory "in" "out" false)
      { disk := { root := .folder "in" nested .empty } } = (.ok { copied := 1 }, regrown nested) := by
  decide +kernel

/-- The first build of the folder. -/
def grown : Run :=
  ⟨{}, "in", "out", false, _, _, _, runOn_nested⟩

theorem history_grown : History ["out"] [grown] (regrown (oneFile "a" "2")).disk := by
  have hbefore : grown.before.disk.root.WellFormed :=
    ⟨by decide, by decide, ⟨by decide, by decide, ⟨by decide, by decide, trivial⟩, trivial⟩, trivial⟩
  have hnone (l : Location) : grown.before.disk.root.fileAt? (["out"] ++ l) = none := by
    rw [Folder.fileAt?, List.singleton_append, Folder.kind?_eq_none (by decide)]
  have hafter : (regrown (oneFile "a" "2")).disk.root.WellFormed :=
    ⟨by decide, by decide, ⟨by decide, by decide, trivial⟩, by decide, by decide,
      ⟨by decide, by decide, by decide, by decide, ⟨by decide, by decide, trivial⟩, trivial⟩, trivial⟩
  have hbuild : History ["out"] [grown] grown.after.disk :=
    .build grown (.start hbefore hnone) rfl ⟨by decide, by decide⟩
  exact hbuild.edit hafter rfl

theorem runOn_regrown :
    (runOn (({} : Build).directory "in" "out" true) (regrown (oneFile "a" "2"))).1 =
      .error (.disk .isAFolder) := by
  have hprepare : runOn (({} : Build).prepare "out" true) (regrown (oneFile "a" "2")) =
      (.ok (({} : Build).record (inputsOf nested)), regrown (oneFile "a" "2")) :=
    prepare_of_read rfl (settings_record {} _)
  rw [runOn_directory (by decide +kernel) hprepare]
  simp only [carryOut, BuildState.changes_eq_merge]
  decide +kernel

/-- A text has taken the place of a folder since the build before. A full build can be made in the
output once it is emptied, but the incremental one fails. -/
theorem not_succeeds_regrown :
    History ["out"] [grown] (regrown (oneFile "a" "2")).disk ∧
      (regrown (oneFile "a" "2")).disk.getFolder "in" = .ok (oneFile "a" "2") ∧
      Apart (Path.locate (regrown (oneFile "a" "2")).disk.current "in") ["out"] ∧
      ((regrown (oneFile "a" "2")).disk.put ["out"] (.folder .empty)).resolve "out" =
        .ok ["out"] ∧
      ({} : Build).Succeeds "in" "out" false
        ⟨(regrown (oneFile "a" "2")).disk.put ["out"] (.folder .empty), []⟩ ∧
      ¬({} : Build).Succeeds "in" "out" true (regrown (oneFile "a" "2")) := by
  refine ⟨history_grown, by decide +kernel, ⟨by decide, by decide⟩, by decide +kernel,
    ⟨{ copied := 1 }, _, runOn_eq_of_fst (by decide +kernel)⟩, ?_⟩
  rintro ⟨summary, w', hrun⟩
  have hfails := runOn_regrown
  rw [hrun] at hfails
  cases hfails

end Examples

end Build

end StubLinker
