import StubLinker.Proofs.Disk.Writing

namespace StubLinker

/-- A disk on the way from a tree to another: what the lower one holds is there, and what is there is
in the upper one. -/
structure Disk.Between (lower upper : Folder) (d : Disk) : Prop where
  current : d.current = []
  lower : ∀ k, lower.kind? k = none ∨ d.root.kind? k = lower.kind? k
  upper : ∀ k, d.root.kind? k = none ∨ d.root.kind? k = upper.kind? k

namespace Disk

variable {d d' : Disk} {lower upper : Folder} {l lo k : Location} {base p : String}
  {contents : Bytes}

theorem Between.folder (h : d.Between lower upper) (hk : lower.kind? k = some .folder) :
    d.root.kind? k = some .folder := by
  rcases h.lower k with hnone | heq
  · rw [hk] at hnone
    cases hnone
  · exact heq.trans hk

theorem Between.file (h : d.Between lower upper) (hk : lower.fileAt? k = some contents) :
    d.root.fileAt? k = some contents := by
  rw [Folder.fileAt?_eq_some] at hk ⊢
  rcases h.lower k with hnone | heq
  · rw [hk] at hnone
    cases hnone
  · exact heq.trans hk

theorem Between.writes (h : d.Between lower upper) (hu : upper.fileAt? l = some contents)
    (hw : d.Writes l contents d') : d'.Between lower upper := by
  have hupper (k : Location) :
      d'.root.kind? k = d.root.kind? k ∨ d'.root.kind? k = upper.kind? k := by
    rw [hw.kind?]
    split
    · rename_i hk
      exact .inr (hk ▸ (Folder.fileAt?_eq_some.1 hu).symm)
    split
    · rename_i hne hk
      exact .inr (Folder.kind?_above hu hk hne).symm
    · exact .inl rfl
  refine ⟨hw.current.trans h.current, fun k => ?_, fun k => ?_⟩
  · rcases hupper k with hsame | hnew
    · rw [hsame]
      exact h.lower k
    · rcases h.lower k with hnone | hlower
      · exact .inl hnone
      rcases h.upper k with hnone | hold
      · exact .inl (hlower.symm.trans hnone)
      · exact .inr (hnew.trans (hold.symm.trans hlower))
  · rcases hupper k with hsame | hnew
    · rw [hsame]
      exact h.upper k
    · exact .inr hnew

end Disk

namespace Session

open Disk

variable {d : Disk} {lower upper : Folder} {lo : Location} {base p : String} {contents : Bytes}

theorem writeFile_between (h : d.Between lower upper) (hb : d.resolve base = .ok lo)
    (hlo : d.root.kind? lo = some .folder) (hsp : Spells base p)
    (hu : upper.fileAt? (lo ++ Path.steps p) = some contents) :
    ∃ d', runOn (writeFile (Path.join base p) contents) d = (.ok (), d') ∧
      d'.Between lower upper := by
  have hfree : ∀ m, m <+: Path.steps p → m ≠ Path.steps p → d.root.fileAt? (lo ++ m) = none := by
    intro m hm hne
    have hupper := Folder.kind?_above hu ((List.prefix_append_right_inj lo).2 hm)
      fun heq => hne (List.append_cancel_left heq)
    rcases h.upper (lo ++ m) with hnone | hfolder
    · rw [Folder.fileAt?, hnone]
    · rw [Folder.fileAt?, hfolder, hupper]
  have hplace : d.root.kind? (lo ++ Path.steps p) ≠ some .folder := by
    rcases h.upper (lo ++ Path.steps p) with hnone | hfile
    · simp [hnone]
    · rw [hfile, Folder.fileAt?_eq_some.1 hu]
      simp
  obtain ⟨d', hrun, hw⟩ := writeFile_join contents hb hlo hsp hfree hplace
  exact ⟨d', hrun, h.writes hu hw⟩

end Session

end StubLinker
