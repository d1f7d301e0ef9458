import StubLinker.Proofs.Disk.Session

namespace StubLinker

namespace Path

/-- A path of plain names that can be looked up below a folder with a name of one byte. -/
structure Fits (p : String) : Prop where
  names : ∀ s ∈ steps p, Folder.IsPlain s ∧ s.utf8ByteSize ≤ 255
  nul : Char.ofNat 0 ∉ p.toList
  size : p.utf8ByteSize ≤ 4093

theorem Fits.isPlain {p : String} (h : Fits p) : IsPlain p :=
  fun s hs => (h.names s hs).1

/-- A path goes on from another one, which has two bytes at least if it is not the root. -/
theorem exists_join_eq {base p : String} (hempty : base ≠ "") (hroot : base ≠ "/") (hp : IsPlain p) :
    ∃ front, join base p = front ++ p ∧ 2 ≤ front.utf8ByteSize := by
  have hpos {s : String} (hs : s ≠ "") : 0 < s.utf8ByteSize :=
    Nat.pos_of_ne_zero fun h => hs (String.utf8ByteSize_eq_zero_iff.1 h)
  have hslash : "/".utf8ByteSize = 1 := by decide
  rw [join, hp.not_absolute, if_neg Bool.false_ne_true]
  by_cases hlast : base.toList.getLast? = some '/'
  · refine ⟨base, if_pos (by simp [hlast]), ?_⟩
    obtain ⟨cs, hcs⟩ := List.getLast?_eq_some_iff.1 hlast
    have hbase : base = String.ofList cs ++ "/" := String.toList_injective (by simp [hcs])
    have hfront : String.ofList cs ≠ "" := by
      intro h
      rw [h, String.empty_append] at hbase
      exact hroot hbase
    have hsize := hpos hfront
    rw [hbase, String.utf8ByteSize_append, hslash]
    omega
  · refine ⟨base ++ "/", if_neg (by simp [hlast, hempty]), ?_⟩
    have hsize := hpos hempty
    rw [String.utf8ByteSize_append, hslash]
    omega

end Path

namespace Disk

variable {d d' : Disk} {base p path a b n root : String} {l l' lo : Location} {names : List String}
  {contents : Bytes}

theorem checkPath_eq_ok :
    checkPath path = .ok () ↔ Char.ofNat 0 ∉ path.toList ∧ path ≠ "" ∧ path.utf8ByteSize ≤ 4095 := by
  unfold checkPath
  by_cases hnul : path.toList.contains (Char.ofNat 0) = true
  · rw [if_pos hnul]
    rw [List.contains_iff_mem] at hnul
    exact iff_of_false (by rintro ⟨⟩) fun h => h.1 hnul
  have hnul' : Char.ofNat 0 ∉ path.toList := by rwa [List.contains_iff_mem] at hnul
  rw [if_neg hnul]
  by_cases hempty : path = ""
  · rw [if_pos (by simpa using hempty)]
    exact iff_of_false (by rintro ⟨⟩) fun h => h.2.1 hempty
  rw [if_neg (by simpa using hempty)]
  by_cases hsize : 4095 < path.utf8ByteSize
  · rw [if_pos hsize]
    exact iff_of_false (by rintro ⟨⟩) fun h => by omega
  · rw [if_neg hsize]
    exact iff_of_true rfl ⟨hnul', hempty, by omega⟩

theorem checkPath_of_append (ha : a ≠ "") (h : checkPath (a ++ b) = .ok ()) :
    checkPath a = .ok () := by
  rw [checkPath_eq_ok] at h ⊢
  obtain ⟨hnul, -, hsize⟩ := h
  rw [String.utf8ByteSize_append] at hsize
  rw [String.toList_append, List.mem_append, not_or] at hnul
  exact ⟨hnul.1, ha, by omega⟩

theorem resolve_of_join (hbase : base ≠ "") (hp : Path.IsPlain p)
    (h : d.resolve (Path.join base p) = .ok l) :
    ∃ lo, d.resolve base = .ok lo ∧ d.root.kind? lo = some .folder := by
  obtain ⟨front, hjoin, hsteps, habs⟩ := Path.steps_join base hp
  obtain ⟨u, hcheck, h⟩ := Except.bind_eq_ok.1 h
  rw [hjoin, start_of_isAbsolute d habs, List.foldlM_append] at h
  obtain ⟨lo, hfront, h⟩ := Except.bind_eq_ok.1 h
  have hfolder := ((foldlM_step_eq_ok h).2 (Path.steps_ne_nil p)).1
  have hbaseCheck : checkPath base = .ok () := by
    rw [Path.join, hp.not_absolute, if_neg Bool.false_ne_true] at hcheck
    split at hcheck
    · exact checkPath_of_append hbase hcheck
    · rw [String.append_assoc] at hcheck
      exact checkPath_of_append hbase hcheck
  refine ⟨lo, ?_, hfolder⟩
  rw [resolve, hbaseCheck, Except.ok_bind]
  rcases hsteps with hsteps | hsteps
  · rw [hsteps]
    exact hfront
  · rw [hsteps, List.foldlM_append, hfront, Except.ok_bind]
    exact foldlM_step_blank hfolder 1

theorem has_of_read (hbase : base ≠ "") (hp : Path.IsPlain p)
    (h : d.read (Path.join base p) = .ok contents) : d.has base = true := by
  obtain ⟨e, hget, -⟩ := Except.bind_eq_ok.1 h
  obtain ⟨l, hresolve, -⟩ := resolve_of_join hbase hp (get_eq_ok hget).1
  exact has_of_resolve hresolve

theorem size_of_foldlM_step (hn : ∀ s ∈ names, Folder.IsPlain s)
    (h : names.foldlM d.step l = .ok l') : ∀ s ∈ names, s.utf8ByteSize ≤ 255 := by
  induction names generalizing l with
  | nil => exact fun s hs => absurd hs List.not_mem_nil
  | cons s names ih =>
    obtain ⟨hs, hn⟩ := List.forall_mem_cons.1 hn
    rw [List.foldlM_cons] at h
    obtain ⟨m, hstep, h⟩ := Except.bind_eq_ok.1 h
    refine List.forall_mem_cons.2 ⟨?_, ih hn h⟩
    rw [step_plain (step_eq_ok hstep).2.1 hs] at hstep
    split at hstep
    · cases hstep
    · omega

theorem fits_of_moveIn (hb : d.resolve base = .ok lo) (hlo : lo ≠ []) (hp : Path.IsPlain p)
    (h : d.moveIn (Path.join base p) contents = .ok d') : Path.Fits p := by
  obtain ⟨names, name, hs, hnames, hname⟩ := exists_last_name hp
  obtain ⟨s, hspot, h⟩ := Except.bind_eq_ok.1 h
  rw [spot_join (.inl hb) hp hs] at hspot
  obtain ⟨u, hcheck, hspot⟩ := Except.bind_eq_ok.1 hspot
  obtain ⟨l, hfold, hspot⟩ := Except.bind_eq_ok.1 hspot
  obtain ⟨l', -, hspot⟩ := Except.bind_eq_ok.1 hspot
  cases hspot
  obtain ⟨hempty, hdot, hup, -⟩ := hname
  rw [if_neg (by simp [Spot.isSpecial, hempty, hdot, hup])] at h
  obtain ⟨u, hsize, -⟩ := Except.bind_eq_ok.1 h
  have hbase := ne_empty_of_resolve hb
  have hroot : base ≠ "/" := by
    rintro rfl
    exact hlo (resolve_eq_ok hb).1
  obtain ⟨front, hjoin, hfront⟩ := Path.exists_join_eq hbase hroot hp
  rw [hjoin, checkPath_eq_ok, String.toList_append, List.mem_append, not_or,
    String.utf8ByteSize_append] at hcheck
  refine ⟨fun t ht => ⟨hp t ht, ?_⟩, hcheck.1.2, by omega⟩
  rw [hs] at ht
  rcases List.mem_append.1 ht with ht | ht
  · exact size_of_foldlM_step hnames hfold t ht
  · rw [List.mem_singleton.1 ht]
    exact checkName_eq_ok.1 hsize

/-- A path continued by plain names that can be looked up. -/
structure Spells (base p : String) : Prop where
  names : ∀ s ∈ Path.steps p, Folder.IsPlain s ∧ s.utf8ByteSize ≤ 255
  check : checkPath (Path.join base p) = .ok ()

theorem Spells.isPlain (h : Spells base p) : Path.IsPlain p :=
  fun s hs => (h.names s hs).1

theorem spells_of_size (hbase : checkPath base = .ok ()) (h : Path.Fits p)
    (hsize : (Path.join base p).utf8ByteSize ≤ 4095) : Spells base p := by
  refine ⟨h.names, checkPath_eq_ok.2 ⟨?_, Path.join_ne_empty base h.isPlain, hsize⟩⟩
  have hnul := (checkPath_eq_ok.1 hbase).1
  have hsep : Char.ofNat 0 ∉ "/".toList := by decide
  rw [Path.join, h.isPlain.not_absolute, if_neg Bool.false_ne_true]
  split
  · rw [String.toList_append, List.mem_append, not_or]
    exact ⟨hnul, h.nul⟩
  · simp only [String.toList_append, List.mem_append, not_or]
    exact ⟨⟨hnul, hsep⟩, h.nul⟩

/-- A path that fits can be looked up below a folder with a name of one byte. -/
theorem spells_of_fits (hroot : Folder.IsPlain root) (hone : root.utf8ByteSize = 1)
    (hnul : Char.ofNat 0 ∉ root.toList) (h : Path.Fits p) : Spells root p := by
  refine ⟨h.names, ?_⟩
  rw [Path.join_name hroot h.isPlain, String.intercalate_cons_of_ne_nil (Path.steps_ne_nil p),
    Path.intercalate_steps, checkPath_eq_ok]
  have hslash : "/".utf8ByteSize = 1 := by decide
  refine ⟨?_, ?_, ?_⟩
  · have hsep : Char.ofNat 0 ∉ "/".toList := by decide
    simp only [String.toList_append, List.mem_append, not_or]
    exact ⟨⟨hnul, hsep⟩, h.nul⟩
  · intro hempty
    have hsize := congrArg String.utf8ByteSize hempty
    rw [String.utf8ByteSize_append, String.utf8ByteSize_append, hone] at hsize
    have hzero : "".utf8ByteSize = 0 := by decide
    omega
  · have hsize := h.size
    rw [String.utf8ByteSize_append, String.utf8ByteSize_append, hone, hslash]
    omega

end Disk

namespace Session

variable {d d' : Disk} {base p : String} {lo : Location} {contents : Bytes}

theorem fits_of_writeFile (hb : d.resolve base = .ok lo) (hfolder : d.root.kind? lo = some .folder)
    (hlo : lo ≠ []) (hp : Path.IsPlain p)
    (h : runOn (writeFile (Path.join base p) contents) d = (.ok (), d')) : Path.Fits p := by
  obtain ⟨u, d1, hmake, h⟩ := runOn_bind_eq_ok.1 h
  have hgrows := grows_makeFolders (Path.folder (Path.join base p)) d
  rw [hmake] at hgrows
  rw [runOn_change] at h
  cases hm : d1.moveIn (Path.join base p) contents with
  | error e =>
    rw [hm] at h
    cases h
  | ok made => exact Disk.fits_of_moveIn (hgrows.keeps.resolve hb hfolder) hlo hp hm

end Session

end StubLinker
