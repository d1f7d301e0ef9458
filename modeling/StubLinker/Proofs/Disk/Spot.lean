import StubLinker.Proofs.Disk.Resolve

namespace StubLinker

namespace Disk

variable {d : Disk} {path base p name : String} {l l' lo : Location}
  {names front blank : List String} {s : Spot}

theorem exists_last_step (names : List String) :
    (∀ s ∈ names, s = "") ∨
      ∃ front name blank, names = front ++ name :: blank ∧ name ≠ "" ∧ ∀ s ∈ blank, s = "" := by
  induction names with
  | nil => exact .inl (by simp)
  | cons s names ih =>
    rcases ih with hblank | ⟨front, name, blank, rfl, hname, hblank⟩
    · by_cases hs : s = ""
      · exact .inl (List.forall_mem_cons.2 ⟨hs, hblank⟩)
      · exact .inr ⟨[], s, names, rfl, hs, hblank⟩
    · exact .inr ⟨s :: front, name, blank, rfl, hname, hblank⟩

theorem spot_eq_of_blank (d : Disk) (h : ∀ s ∈ Path.steps path, s = "") :
    d.spot path = checkPath path >>= fun _ => .ok ⟨[], "", true⟩ := by
  have hdrop : (Path.steps path).reverse.dropWhile (· == "") = [] := by
    rw [← List.append_nil (Path.steps path).reverse, List.dropWhile_append_of_pos]
    · rfl
    · intro s hs
      rw [h s (List.mem_reverse.1 hs)]
      rfl
  simp only [spot, hdrop]
  rfl

theorem spot_eq (d : Disk) (h : Path.steps path = front ++ name :: blank) (hn : name ≠ "")
    (hb : ∀ s ∈ blank, s = "") :
    d.spot path = checkPath path >>= fun _ => front.foldlM d.step (d.start path) >>= fun l =>
      d.step l "" >>= fun l' => .ok ⟨l', name, !blank.isEmpty⟩ := by
  have hback : (Path.steps path).reverse = blank.reverse ++ name :: front.reverse := by
    rw [h]
    simp
  have hdrop : (Path.steps path).reverse.dropWhile (· == "") = name :: front.reverse := by
    rw [hback, List.dropWhile_append_of_pos, List.dropWhile_cons_of_neg]
    · simpa using hn
    · intro s hs
      rw [hb s (List.mem_reverse.1 hs)]
      rfl
  have hslash : decide ((Path.steps path).reverse.head? = some "") = !blank.isEmpty := by
    rw [hback]
    rcases List.eq_nil_or_concat blank with rfl | ⟨init, last, rfl⟩
    · simpa using hn
    · rw [List.concat_eq_append] at hb ⊢
      rw [hb last (by simp)]
      simp
  simp only [spot, hdrop, List.reverse_reverse, hslash]
  rfl

theorem spot_name (h : Path.steps path = front ++ name :: blank) (hn : name ≠ "")
    (hb : ∀ s ∈ blank, s = "") (hs : d.spot path = .ok s) : s.name = name := by
  rw [spot_eq d h hn hb] at hs
  obtain ⟨u, -, hs⟩ := Except.bind_eq_ok.1 hs
  obtain ⟨l, -, hs⟩ := Except.bind_eq_ok.1 hs
  obtain ⟨l', -, hs⟩ := Except.bind_eq_ok.1 hs
  cases hs
  rfl

theorem foldl_walk_blank (n : Nat) (l : Location) :
    (List.replicate n "").foldl Path.walk l = l := by
  induction n with
  | zero => rfl
  | succ n ih => exact ih

theorem spot_eq_ok (h : d.spot path = .ok s) (hspecial : s.isSpecial = false) :
    ∃ front blank, Path.steps path = front ++ s.name :: blank ∧ (∀ b ∈ blank, b = "") ∧
      Folder.IsPlain s.name ∧ front.foldlM d.step (d.start path) = .ok s.folder ∧
      d.root.kind? s.folder = some .folder := by
  rcases exists_last_step (Path.steps path) with hblank | ⟨front, name, blank, hs, hn, hb⟩
  · rw [spot_eq_of_blank d hblank] at h
    obtain ⟨u, -, h⟩ := Except.bind_eq_ok.1 h
    cases h
    cases hspecial
  · rw [spot_eq d hs hn hb] at h
    obtain ⟨u, -, h⟩ := Except.bind_eq_ok.1 h
    obtain ⟨l, hl, h⟩ := Except.bind_eq_ok.1 h
    obtain ⟨l', hl', h⟩ := Except.bind_eq_ok.1 h
    cases h
    obtain ⟨rfl, hfolder, -⟩ := step_eq_ok hl'
    simp only [Spot.isSpecial, Bool.or_eq_false_iff, decide_eq_false_iff_not] at hspecial
    obtain ⟨⟨-, hdot⟩, hup⟩ := hspecial
    have hmem : name ∈ Path.steps path := by
      rw [hs]
      simp
    exact ⟨front, blank, hs, hb, ⟨hn, hdot, hup, Path.not_mem_of_mem_steps hmem⟩, hl, hfolder⟩

theorem spot_location (h : d.spot path = .ok s) (hspecial : s.isSpecial = false) :
    s.location = Path.locate d.current path := by
  obtain ⟨front, blank, hs, hb, hplain, hfront, -⟩ := spot_eq_ok h hspecial
  obtain ⟨hfolder, -⟩ := foldlM_step_eq_ok hfront
  rw [Path.locate, hs, List.foldl_append, List.foldl_cons, List.eq_replicate_of_mem hb,
    foldl_walk_blank, Path.walk_plain hplain, Spot.location, hfolder]
  rfl

/-- A path that is continued from a location: it leads there, or it is empty and the location is the
current folder. -/
def StartsAt (d : Disk) (base : String) (lo : Location) : Prop :=
  d.resolve base = .ok lo ∨ base = "" ∧ d.current = lo

theorem StartsAt.locate (h : d.StartsAt base lo) : Path.locate d.current base = lo := by
  rcases h with h | ⟨rfl, rfl⟩
  · exact (resolve_eq_ok h).1.symm
  · rfl

theorem StartsAt.of_keeps {d' : Disk} (h : d.StartsAt base lo)
    (hlo : base ≠ "" → d.root.kind? lo = some .folder) (hkeeps : d.Keeps d') :
    d'.StartsAt base lo := by
  rcases h with h | ⟨rfl, rfl⟩
  · exact .inl (hkeeps.resolve h (hlo (ne_empty_of_resolve h)))
  · exact .inr ⟨rfl, hkeeps.current⟩

/-- The steps of a path continued by plain names start from where the path is continued. -/
theorem foldlM_step_join (hb : d.StartsAt base lo) (hp : Path.IsPlain p) :
    ∃ front, Path.steps (Path.join base p) = front ++ Path.steps p ∧
      front.foldlM d.step (d.start (Path.join base p)) = .ok lo := by
  rcases hb with hb | ⟨rfl, rfl⟩
  · obtain ⟨front, hjoin, hbase, habs⟩ := Path.steps_join base hp
    refine ⟨front, hjoin, ?_⟩
    obtain ⟨u, -, hb⟩ := Except.bind_eq_ok.1 hb
    rw [start_of_isAbsolute d habs]
    rcases hbase with hbase | hbase
    · rw [← hbase]
      exact hb
    · rw [hbase, List.foldlM_append] at hb
      obtain ⟨l, hl, hb⟩ := Except.bind_eq_ok.1 hb
      rw [List.foldlM_cons] at hb
      obtain ⟨l', hstep, hb⟩ := Except.bind_eq_ok.1 hb
      cases hb
      obtain ⟨rfl, -⟩ := step_eq_ok hstep
      exact hl
  · have hjoin : Path.join "" p = p := by
      rw [Path.join, hp.not_absolute, if_neg Bool.false_ne_true, if_pos (by simp), String.empty_append]
    have hstart : d.start p = d.current := by
      rw [start, hp.not_absolute, if_neg Bool.false_ne_true]
    exact ⟨[], by rw [hjoin]; rfl, by rw [hjoin, hstart]; rfl⟩

theorem resolve_join (hb : d.resolve base = .ok lo) (hp : Path.IsPlain p) :
    d.resolve (Path.join base p) =
      checkPath (Path.join base p) >>= fun _ => (Path.steps p).foldlM d.step lo := by
  obtain ⟨front, hjoin, hfront⟩ := foldlM_step_join (.inl hb) hp
  rw [resolve, hjoin, List.foldlM_append, hfront]
  rfl

theorem spot_join (hb : d.StartsAt base lo) (hp : Path.IsPlain p)
    (hs : Path.steps p = names ++ [name]) :
    d.spot (Path.join base p) = checkPath (Path.join base p) >>= fun _ =>
      names.foldlM d.step lo >>= fun l => d.step l "" >>= fun l' => .ok ⟨l', name, false⟩ := by
  obtain ⟨front, hjoin, hfront⟩ := foldlM_step_join hb hp
  have hname : Folder.IsPlain name := hp name (by rw [hs]; simp)
  rw [hs, ← List.append_assoc] at hjoin
  rw [spot_eq d hjoin hname.1 (by simp), List.foldlM_append, hfront]
  rfl

theorem exists_last_name (hp : Path.IsPlain p) :
    ∃ names name, Path.steps p = names ++ [name] ∧ (∀ s ∈ names, Folder.IsPlain s) ∧
      Folder.IsPlain name := by
  rcases List.eq_nil_or_concat (Path.steps p) with hnil | ⟨names, name, hs⟩
  · exact absurd hnil (Path.steps_ne_nil p)
  · rw [List.concat_eq_append] at hs
    unfold Path.IsPlain at hp
    rw [hs] at hp
    exact ⟨names, name, hs, fun s h => hp s (by simp [h]), hp name (by simp)⟩

theorem step_stay (h : d.root.kind? l = some .folder) : d.step l "" = .ok l := by
  rw [step_eq, h]
  rfl

theorem step_stay_notFound (h : d.step l "" = .error .notFound) : d.root.kind? l = none := by
  rw [step_eq] at h
  cases hk : d.root.kind? l with
  | none => rfl
  | some k =>
    rw [hk] at h
    cases k <;> cases h

theorem step_plain (h : d.root.kind? l = some .folder) (hn : Folder.IsPlain name) :
    d.step l name =
      if 255 < name.utf8ByteSize then .error .nameTooLong
      else if (d.root.kind? (l ++ [name])).isSome then .ok (l ++ [name]) else .error .notFound := by
  obtain ⟨hempty, hdot, hup, -⟩ := hn
  rw [step_eq, h]
  simp [hempty, hdot, hup]

theorem foldlM_step_blank (h : d.root.kind? l = some .folder) (n : Nat) :
    (List.replicate n "").foldlM d.step l = .ok l := by
  induction n with
  | zero => rfl
  | succ n ih =>
    rw [List.replicate_succ, List.foldlM_cons, step_stay h]
    exact ih

theorem resolve_eq_spot (hcheck : checkPath path = .ok ())
    (hs : Path.steps path = front ++ name :: blank) (hb : ∀ b ∈ blank, b = "")
    (hfront : front.foldlM d.step (d.start path) = .ok l) (hl : d.root.kind? l = some .folder)
    (hn : Folder.IsPlain name) (hsize : name.utf8ByteSize ≤ 255)
    (hname : d.root.kind? (l ++ [name]) = some .folder) : d.resolve path = .ok (l ++ [name]) := by
  have hstep : d.step l name = .ok (l ++ [name]) := by
    rw [step_plain hl hn, if_neg (by omega), if_pos (by rw [hname]; rfl)]
  rw [resolve, hcheck, Except.ok_bind, hs, List.foldlM_append, hfront, Except.ok_bind,
    List.foldlM_cons, hstep, List.eq_replicate_of_mem hb]
  exact foldlM_step_blank hname _

theorem foldlM_step_plain (hl : d.root.kind? l = some .folder)
    (hsome : (d.root.kind? (l ++ names)).isSome = true)
    (hn : ∀ s ∈ names, Folder.IsPlain s ∧ s.utf8ByteSize ≤ 255) :
    names.foldlM d.step l = .ok (l ++ names) := by
  induction names generalizing l with
  | nil =>
    rw [List.append_nil]
    rfl
  | cons s names ih =>
    obtain ⟨⟨hs, hsize⟩, hn⟩ := List.forall_mem_cons.1 hn
    rw [List.append_cons] at hsome ⊢
    have hnext := Folder.isSome_kind?_of_append hsome
    rw [List.foldlM_cons, step_plain hl hs, if_neg (by omega), if_pos hnext, Except.ok_bind]
    cases names with
    | nil =>
      rw [List.append_nil]
      rfl
    | cons t names =>
      exact ih (Folder.kind?_of_append hsome (List.cons_ne_nil t names)) hsome hn

theorem foldlM_step_notFound (hn : ∀ s ∈ names, Folder.IsPlain s)
    (h : names.foldlM d.step l = .error .notFound) : d.root.kind? (l ++ names) = none := by
  induction names generalizing l with
  | nil => cases h
  | cons s names ih =>
    obtain ⟨hs, hn⟩ := List.forall_mem_cons.1 hn
    rw [← List.singleton_append, ← List.append_assoc]
    rw [List.foldlM_cons, Except.bind_eq_error] at h
    rcases h with h | ⟨m, hm, h⟩
    · refine Option.not_isSome_iff_eq_none.1 fun hsome => ?_
      have hfolder : d.root.kind? l = some .folder := by
        rw [List.append_assoc] at hsome
        exact Folder.kind?_of_append hsome (by simp)
      have hnext := Folder.isSome_kind?_of_append hsome
      rw [step_plain hfolder hs, if_pos hnext] at h
      split at h <;> cases h
    · obtain ⟨rfl, -⟩ := step_eq_ok hm
      rw [Path.walk_plain hs] at h
      exact ih hn h

end Disk

end StubLinker
