import Mathlib.Data.List.Perm.Basic
import StubLinker.Proofs.Except
import StubLinker.Proofs.Report.Grouped
import StubLinker.Report.Scan

namespace StubLinker

namespace Report

/-- The bytes of a class, with the name of the place that they are from. -/
abbrev ClassData := String × Bytes

section Gathering

variable {α β : Type} {f : α → Option (List ClassData)} {as bs : List α} {xs ys : List ClassData}

/-- What all elements of a row hold, if each of them can be read. -/
def gather (f : α → Option (List ClassData)) : List α → Option (List ClassData)
  | [] => some []
  | a :: as => do return (← f a) ++ (← gather f as)

theorem gather_cons {a : α} (ha : f a = some xs) (has : gather f as = some ys) :
    gather f (a :: as) = some (xs ++ ys) := by
  rw [gather, ha, has]
  rfl

theorem gather_cons_eq_some {a : α} {zs : List ClassData} :
    gather f (a :: as) = some zs ↔
      ∃ xs ys, f a = some xs ∧ gather f as = some ys ∧ xs ++ ys = zs := by
  simp [gather, Option.bind_eq_some_iff]

theorem gather_append (has : gather f as = some xs) (hbs : gather f bs = some ys) :
    gather f (as ++ bs) = some (xs ++ ys) := by
  induction as generalizing xs with
  | nil =>
    cases has
    exact hbs
  | cons a as ih =>
    obtain ⟨front, back, ha, hback, rfl⟩ := gather_cons_eq_some.1 has
    rw [List.append_assoc]
    exact gather_cons ha (ih hback)

theorem gather_map (g : β → α) (l : List β) : gather f (l.map g) = gather (fun b => f (g b)) l := by
  induction l with
  | nil => rfl
  | cons b l ih => rw [List.map_cons, gather, gather, ih]

theorem gather_perm (hp : as.Perm bs) (h : gather f as = some xs) :
    ∃ ys, gather f bs = some ys ∧ xs.Perm ys := by
  induction hp generalizing xs with
  | nil => exact ⟨xs, h, .refl xs⟩
  | cons a _ ih =>
    obtain ⟨front, back, ha, has, rfl⟩ := gather_cons_eq_some.1 h
    obtain ⟨ys, hbs, hback⟩ := ih has
    exact ⟨front ++ ys, gather_cons ha hbs, hback.append_left front⟩
  | swap a b as =>
    obtain ⟨front, others, hb, hothers, rfl⟩ := gather_cons_eq_some.1 h
    obtain ⟨middle, back, ha, has, rfl⟩ := gather_cons_eq_some.1 hothers
    refine ⟨middle ++ (front ++ back), gather_cons ha (gather_cons hb has), ?_⟩
    rw [← List.append_assoc, ← List.append_assoc]
    exact List.perm_append_comm.append_right back
  | trans _ _ ih ih' =>
    obtain ⟨ys, hbs, hp⟩ := ih h
    obtain ⟨zs, hcs, hp'⟩ := ih' hbs
    exact ⟨zs, hcs, hp.trans hp'⟩

end Gathering

/-- The class data of an entry of an archive, which counts if it is named as a class. -/
def entryData (path : String) (e : ArchiveEntry) : Option (List ClassData) :=
  if ".class".toList.isSuffixOf e.name.toList then
    e.contents.toOption.map fun bytes => [(s!"{path}!{e.name}", bytes)]
  else some []

def archiveData (path : String) (bytes : Bytes) : Option (List ClassData) := do
  gather (entryData path) (← (Archive.read bytes).toOption)

/-- The class data of a file in a folder, which counts if it is named as a class or an archive. -/
def fileData (path : String) (contents : Bytes) : Option (List ClassData) :=
  if isArchive path then archiveData path contents
  else if isClass path then some [(path, contents)]
  else some []

def folderData (path : String) (f : Folder) : Option (List ClassData) :=
  gather (fun file => fileData (file.1.foldl Path.join path) file.2) f.files

/-- The class data of an input. A file that is given itself is an archive or a class. -/
def inputData (d : Disk) (path : String) : Option (List ClassData) :=
  match d.get path with
  | .ok (.folder inside) => folderData path inside
  | .ok (.file contents) =>
    if isArchive path then archiveData path contents else some [(path, contents)]
  | .error _ => none

def scanned (d : Disk) (inputs : List String) : Option (List ClassData) :=
  gather (inputData d) inputs

section Steps

variable {α : Type} {g g' : Report → Except ReportError Report} {r r' : Report}
  {data data' both : Option (List ClassData)} {cs cs' : List ClassData}
  {stubs stubs' : List StubSummary} {found found' : List (List StubSummary)}

/-- Inspecting class data succeeds and finds stubs in each. -/
def Inspects (cs : List ClassData) (found : List (List StubSummary)) : Prop :=
  cs.map (fun c => ClassFile.summaries {} c.2) = found.map .ok

def Gives (g : Report → Except ReportError Report) (stubs : List StubSummary) : Prop :=
  ∀ r, g r = .ok (stubs.foldl add r)

/-- If the step ever succeeds, class data can be read and inspected, and the step always adds what is
found in it. -/
def Takes (g : Report → Except ReportError Report) (data : Option (List ClassData)) : Prop :=
  ∀ r r', g r = .ok r' → ∃ cs found, data = some cs ∧ Inspects cs found ∧ Gives g found.flatten

theorem Inspects.append (h : Inspects cs found) (h' : Inspects cs' found') :
    Inspects (cs ++ cs') (found ++ found') := by
  rw [Inspects, List.map_append, List.map_append, h, h']

theorem Inspects.perm (h : Inspects cs found) (h' : Inspects cs' found') (hp : cs.Perm cs') :
    found.Perm found' := by
  have hmap := hp.map fun c => ClassFile.summaries {} c.2
  rw [h, h'] at hmap
  exact (List.map_perm_map_iff fun _ _ heq => Except.ok.inj heq).1 hmap

theorem Gives.bind (h : Gives g stubs) (h' : Gives g' stubs') :
    Gives (fun r => g r >>= g') (stubs ++ stubs') := by
  intro r
  show (g r >>= g') = _
  rw [h r, Except.ok_bind, h', List.foldl_append]

theorem takes_ok : Takes .ok (some []) := by
  intro r r' _
  exact ⟨[], [], rfl, rfl, fun _ => rfl⟩

theorem takes_error (e : ReportError) : Takes (fun _ => .error e) data := by
  intro r r' h
  cases h

theorem Takes.bind (h : Takes g data) (h' : Takes g' data')
    (hboth : ∀ cs cs', data = some cs → data' = some cs' → both = some (cs ++ cs')) :
    Takes (fun r => g r >>= g') both := by
  intro r r' hok
  obtain ⟨between, hg, hg'⟩ := Except.bind_eq_ok.1 hok
  obtain ⟨cs, found, hdata, hcs, hgives⟩ := h r between hg
  obtain ⟨cs', found', hdata', hcs', hgives'⟩ := h' between r' hg'
  refine ⟨cs ++ cs', found ++ found', hboth cs cs' hdata hdata', hcs.append hcs', ?_⟩
  rw [List.flatten_append]
  exact hgives.bind hgives'

theorem Takes.foldlM {f : Report → α → Except ReportError Report}
    {held : α → Option (List ClassData)} {as : List α}
    (h : ∀ a ∈ as, Takes (fun r => f r a) (held a)) :
    Takes (fun r => as.foldlM f r) (gather held as) := by
  induction as with
  | nil => exact takes_ok
  | cons a as ih =>
    obtain ⟨ha, has⟩ := List.forall_mem_cons.1 h
    simp only [List.foldlM_cons]
    exact ha.bind (ih has) fun cs cs' => gather_cons

theorem gives_of_foldlM {f : Report → α → Except ReportError Report}
    {held : α → Option (List ClassData)} {as : List α}
    (h : ∀ a ∈ as, Takes (fun r => f r a) (held a)) (hok : as.foldlM f r = .ok r') :
    ∀ a ∈ as, ∃ stubs, Gives (fun r => f r a) stubs := by
  induction as generalizing r with
  | nil => exact fun a ha => absurd ha List.not_mem_nil
  | cons a as ih =>
    obtain ⟨ha, has⟩ := List.forall_mem_cons.1 h
    rw [List.foldlM_cons] at hok
    obtain ⟨between, hfirst, hrest⟩ := Except.bind_eq_ok.1 hok
    obtain ⟨-, found, -, -, hgives⟩ := ha r between hfirst
    exact List.forall_mem_cons.2 ⟨⟨found.flatten, hgives⟩, ih has hrest⟩

theorem gives_foldlM {f : Report → α → Except ReportError Report} {as : List α}
    (h : ∀ a ∈ as, ∃ stubs, Gives (fun r => f r a) stubs) :
    ∃ stubs, Gives (fun r => as.foldlM f r) stubs := by
  induction as with
  | nil => exact ⟨[], fun _ => rfl⟩
  | cons a as ih =>
    obtain ⟨⟨stubs, ha⟩, has⟩ := List.forall_mem_cons.1 h
    obtain ⟨stubs', hrest⟩ := ih has
    simp only [List.foldlM_cons]
    exact ⟨stubs ++ stubs', ha.bind hrest⟩

end Steps

theorem takes_addClass (origin : String) (bytes : Bytes) :
    Takes (addClass origin bytes) (some [(origin, bytes)]) := by
  intro r r' h
  rw [addClass] at h
  split at h
  · rename_i stubs hstubs
    refine ⟨_, [stubs], rfl, ?_, fun r => ?_⟩
    · simp [Inspects, hstubs]
    · rw [addClass, hstubs, List.flatten_singleton]
  · cases h

theorem takes_addEntry (path : String) (indexed : ArchiveEntry × Nat) :
    Takes (fun r => r.addEntry path indexed) (entryData path indexed.1) := by
  obtain ⟨e, index⟩ := indexed
  unfold addEntry entryData
  by_cases hclass : ".class".toList.isSuffixOf e.name.toList = true
  · simp only [hclass, if_true]
    cases e.contents with
    | ok bytes => exact takes_addClass _ bytes
    | error cause => cases hcause : cause.isInContents <;> simp only [hcause] <;> exact takes_error _
  · simp only [hclass]
    cases e.contents with
    | ok bytes => exact takes_ok
    | error cause =>
      cases hcause : cause.isInContents <;> simp only [hcause]
      · exact takes_error _
      · exact takes_ok

theorem takes_addArchive (path : String) (bytes : Bytes) :
    Takes (addArchive path bytes) (archiveData path bytes) := by
  unfold addArchive archiveData
  cases Archive.read bytes with
  | error e => exact takes_error _
  | ok entries =>
    have hstep : ∀ indexed ∈ entries.zip (List.range entries.length),
        Takes (fun r => r.addEntry path indexed) (entryData path indexed.1) :=
      fun indexed _ => takes_addEntry path indexed
    have hloop := Takes.foldlM hstep
    rw [← gather_map Prod.fst, List.map_fst_zip (by simp)] at hloop
    exact hloop

/-- Adds the stubs of a file in a folder, if it is named as a class or an archive. -/
def addFile (path : String) (contents : Bytes) (r : Report) : Except ReportError Report :=
  if isArchive path then r.addArchive path contents
  else if isClass path then r.addClass path contents
  else .ok r

theorem takes_addFile (path : String) (contents : Bytes) :
    Takes (addFile path contents) (fileData path contents) := by
  unfold addFile fileData
  by_cases harchive : isArchive path = true
  · simp only [harchive, if_true]
    exact takes_addArchive path contents
  by_cases hclass : isClass path = true
  · simp only [harchive, hclass, if_true]
    exact takes_addClass path contents
  · simp only [harchive, hclass]
    exact takes_ok

theorem addFolder_file (path name : String) (contents : Bytes) (rest : Folder) :
    addFolder path (.file name contents rest) =
      fun r => addFile (Path.join path name) contents r >>= addFolder path rest := by
  funext r
  rw [addFolder, addFile]
  split
  · rfl
  split
  · rfl
  · rfl

theorem takes_addFolder (path : String) (f : Folder) :
    Takes (addFolder path f) (folderData path f) := by
  induction f generalizing path with
  | empty => exact takes_ok
  | file name contents rest ih =>
    rw [addFolder_file]
    apply (takes_addFile (Path.join path name) contents).bind (ih path)
    intro cs cs' hfile hrest
    exact gather_cons hfile hrest
  | folder name inside rest ihInside ihRest =>
    refine (ihInside (Path.join path name)).bind (ihRest path) ?_
    intro cs cs' hinside hrest
    rw [folderData, Folder.files]
    refine gather_append ?_ hrest
    rw [gather_map]
    exact hinside

theorem takes_addInput (d : Disk) (path : String) :
    Takes (fun r => r.addInput d path) (inputData d path) := by
  unfold addInput inputData
  rcases d.get path with e | contents | inside
  · cases isArchive path <;> exact takes_error _
  · cases isArchive path
    · exact takes_addClass path contents
    · exact takes_addArchive path contents
  · exact takes_addFolder path inside

end Report

end StubLinker
