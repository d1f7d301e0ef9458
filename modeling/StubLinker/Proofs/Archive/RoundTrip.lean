import StubLinker.Proofs.Archive.Entry

namespace StubLinker

namespace Keyed

variable {κ α : Type} [BEq κ] {key : κ} {value : α} {pairs found : List (κ × α)}

theorem mem_put {k : κ} (h : k ∈ (put key value pairs).map (·.1)) :
    k = key ∨ k ∈ pairs.map (·.1) := by
  induction pairs with
  | nil => exact .inl (List.mem_singleton.1 h)
  | cons p pairs ih =>
    obtain ⟨k', v⟩ := p
    rw [put] at h
    split at h
    · exact .inr h
    · rcases List.mem_cons.1 h with rfl | h
      · exact .inr List.mem_cons_self
      · exact (ih h).imp_right (List.mem_cons_of_mem _)

variable [LawfulBEq κ]

theorem put_of_not_mem (h : key ∉ pairs.map (·.1)) :
    put key value pairs = pairs ++ [(key, value)] := by
  induction pairs with
  | nil => rfl
  | cons p pairs ih =>
    obtain ⟨k, v⟩ := p
    rw [List.map_cons, List.mem_cons, not_or] at h
    rw [put, if_neg (by simpa using Ne.symm h.1), ih h.2]
    rfl

theorem nodup_put (h : (pairs.map (·.1)).Nodup) : ((put key value pairs).map (·.1)).Nodup := by
  induction pairs with
  | nil => simp [put]
  | cons p pairs ih =>
    obtain ⟨k, v⟩ := p
    rw [List.map_cons, List.nodup_cons] at h
    rw [put]
    split
    · rw [List.map_cons, List.nodup_cons]
      exact h
    · rename_i hne
      rw [List.map_cons, List.nodup_cons]
      refine ⟨fun hmem => ?_, ih h.2⟩
      rcases mem_put hmem with heq | hmem
      · exact hne (beq_iff_eq.2 heq)
      · exact h.1 hmem

theorem foldl_put_of_nodup (found : List (κ × α)) (h : ((found ++ pairs).map (·.1)).Nodup) :
    pairs.foldl (fun found p => put p.1 p.2 found) found = found ++ pairs := by
  induction pairs generalizing found with
  | nil => simp
  | cons p pairs ih =>
    have hnew : p.1 ∉ found.map (·.1) := by
      rw [List.map_append, List.map_cons] at h
      exact fun hmem => (List.nodup_append.1 h).2.2 _ hmem _ List.mem_cons_self rfl
    rw [List.append_cons] at h
    rw [List.foldl_cons, put_of_not_mem hnew, ih _ h, List.append_assoc, List.singleton_append]

theorem ofPairs_of_nodup (h : (pairs.map (·.1)).Nodup) : ofPairs pairs = pairs :=
  foldl_put_of_nodup [] h

theorem nodup_foldl_put (h : (found.map (·.1)).Nodup) :
    ((pairs.foldl (fun found p => put p.1 p.2 found) found).map (·.1)).Nodup := by
  induction pairs generalizing found with
  | nil => exact h
  | cons p pairs ih => exact ih (nodup_put h)

theorem nodup_ofPairs (pairs : List (κ × α)) : ((ofPairs pairs).map (·.1)).Nodup :=
  nodup_foldl_put List.nodup_nil

end Keyed

namespace Archive

variable {mark as bs archive rest : Bytes} {position p offset start : Nat} {found later : List Nat}
  {entries : List (String × Bytes)} {fault : Option ArchiveError}

section Marks

theorem marksFrom_found (mark : Bytes) (position : Nat) (found : List Nat) (bs : Bytes) :
    marksFrom mark position found bs = marksFrom mark position [] bs ++ found := by
  induction bs generalizing position found with
  | nil => rfl
  | cons b bs ih =>
    rw [marksFrom, marksFrom, ih]
    rw [ih (position + 1) (if mark.isPrefixOf (b :: bs) = true then [position] else [])]
    split <;> simp

theorem le_of_mem_marksFrom (h : p ∈ marksFrom mark position [] bs) : position ≤ p := by
  induction bs generalizing position with
  | nil => cases h
  | cons b bs ih =>
    rw [marksFrom, marksFrom_found, List.mem_append] at h
    rcases h with h | h
    · have hnext := ih h
      omega
    · split at h
      · rw [List.mem_singleton.1 h]
      · cases h

theorem marksFrom_append (mark : Bytes) (position : Nat) (as bs : Bytes) :
    ∃ earlier, marksFrom mark position [] (as ++ bs) =
      marksFrom mark (position + as.length) [] bs ++ earlier := by
  induction as generalizing position with
  | nil => exact ⟨[], by simp⟩
  | cons a as ih =>
    obtain ⟨earlier, hearlier⟩ := ih (position + 1)
    rw [List.cons_append, marksFrom, marksFrom_found, hearlier, List.append_assoc, List.length_cons,
      Nat.add_right_comm, Nat.add_assoc]
    exact ⟨_, rfl⟩

theorem marksFrom_of_isPrefixOf (h : mark.isPrefixOf bs = true) (hne : bs ≠ []) (position : Nat) :
    ∃ later, marksFrom mark position [] bs = later ++ [position] ∧ ∀ p ∈ later, position < p := by
  cases bs with
  | nil => exact absurd rfl hne
  | cons b bs =>
    rw [marksFrom, if_pos h, marksFrom_found]
    exact ⟨_, rfl, fun p hp => le_of_mem_marksFrom hp⟩

end Marks

section Directory

/-- The entries one after the other. -/
def body (entries : List (String × Bytes)) : Bytes :=
  entries.flatMap fun e => writeEntry (Bytes.ofText e.1) e.2

/-- What the directory says of entries of which the first starts at an offset. -/
def recordsOf (offset : Nat) : List (String × Bytes) → List Record
  | [] => []
  | (name, contents) :: rest =>
    let bytes := Bytes.ofText name
    recordOf offset bytes contents ::
      recordsOf (offset + (writeEntry bytes contents).length) rest

theorem length_writeEntry (name contents : Bytes) :
    (writeEntry name contents).length = 30 + name.length + contents.length := by
  simp [writeEntry, length_entryMark, length_header]
  omega

theorem map_name_recordsOf (offset : Nat) (entries : List (String × Bytes)) :
    (recordsOf offset entries).map (·.name) = entries.map (·.1) := by
  induction entries generalizing offset with
  | nil => rfl
  | cons e entries ih =>
    obtain ⟨name, contents⟩ := e
    rw [recordsOf, List.map_cons, List.map_cons, ih, name_recordOf, textOf_ofText]

theorem body_cons (name : String) (contents : Bytes) (entries : List (String × Bytes)) :
    body ((name, contents) :: entries) = writeEntry (Bytes.ofText name) contents ++ body entries :=
  List.flatMap_cons

theorem readAll_succ {base n : Nat} {r : Record} {others : List Record}
    (hread : Record.read bs = some (r, rest)) (hbefore : base + r.offset < start)
    (hothers : Record.readAll base start n rest = some others) :
    Record.readAll base start (n + 1) bs = some (r :: others) := by
  rw [Record.readAll, hread, Option.bind_eq_bind, Option.bind_some]
  dsimp only
  rw [if_neg (by omega), hothers]
  rfl

theorem readAll_writeDirectory (hnames : ∀ e ∈ entries, e.1.utf8ByteSize < 65536)
    (hstart : offset + (body entries).length ≤ start) (hlimit : start < 4294967296) (rest : Bytes) :
    Record.readAll 0 start entries.length ((writeDirectory offset entries).flatten ++ rest) =
      some (recordsOf offset entries) := by
  induction entries generalizing offset with
  | nil => rfl
  | cons e entries ih =>
    obtain ⟨name, contents⟩ := e
    obtain ⟨hname, hnames⟩ := List.forall_mem_cons.1 hnames
    have hname : (Bytes.ofText name).length < 65536 := by rwa [Bytes.length_ofText]
    have hlength := length_writeEntry (Bytes.ofText name) contents
    rw [body_cons, List.length_append] at hstart
    rw [writeDirectory, List.flatten_cons, List.append_assoc]
    refine readAll_succ (read_writeRecord hname (by omega) (by omega) _) ?_ (ih hnames (by omega))
    rw [offset_recordOf]
    omega

theorem map_contentsOf (hnames : ∀ e ∈ entries, e.1.utf8ByteSize < 65536) (front rest : Bytes) :
    (recordsOf front.length entries).map (fun r =>
      (⟨r.name, contentsOf r ((front ++ (body entries ++ rest)).drop r.offset)⟩ : ArchiveEntry)) =
        entries.map fun e => ⟨e.1, .ok e.2⟩ := by
  induction entries generalizing front with
  | nil => rfl
  | cons e entries ih =>
    obtain ⟨name, contents⟩ := e
    obtain ⟨hname, hnames⟩ := List.forall_mem_cons.1 hnames
    have hname : (Bytes.ofText name).length < 65536 := by rwa [Bytes.length_ofText]
    have hrest := ih hnames (front ++ writeEntry (Bytes.ofText name) contents)
    rw [List.length_append, List.append_assoc] at hrest
    rw [body_cons, List.append_assoc, recordsOf, List.map_cons, hrest, List.map_cons]
    rw [offset_recordOf, List.drop_left, contentsOf_writeEntry hname, name_recordOf, textOf_ofText]

end Directory

section End

def endRecord (count directoryLength bodyLength : Nat) : Bytes :=
  endMark ++ toLittleEndian 0 2 ++ toLittleEndian 0 2 ++ toLittleEndian count 2 ++
    toLittleEndian count 2 ++ toLittleEndian directoryLength 4 ++ toLittleEndian bodyLength 4 ++
    toLittleEndian 0 2

theorem length_endMark : endMark.length = 4 := by
  decide

theorem length_endRecord (count directoryLength bodyLength : Nat) :
    (endRecord count directoryLength bodyLength).length = 22 := by
  simp [endRecord, length_endMark]

/-- What the end record says: the archive has one part, how many entries it has, where the directory
starts, and that no comment follows. -/
theorem field_endRecord {count bodyLength : Nat} (directoryLength : Nat) (hcount : count < 65535)
    (hbody : bodyLength < 4294967295) :
    let r := endRecord count directoryLength bodyLength
    field r 4 2 = 0 ∧ field r 6 2 = 0 ∧ field r 8 2 = count ∧ field r 10 2 = count ∧
      field r 16 4 = bodyLength ∧ field r 20 2 = 0 := by
  have hcount' : count < 256 ^ 2 := by omega
  have hbody' : bodyLength < 256 ^ 4 := by omega
  simp [endRecord, field_append, length_endMark, field_first, field_first hcount',
    field_first hbody', field_last]

def directory (entries : List (String × Bytes)) : Bytes :=
  (writeDirectory 0 entries).flatten

theorem write_eq (entries : List (String × Bytes)) :
    write entries = body entries ++ (directory entries ++
      endRecord entries.length (directory entries).length (body entries).length) := by
  simp [write, body, directory, endRecord]

theorem read_cutEnd (h : archive.length < p + 22) :
    DirectoryEnd.read archive p = .error .cutEnd := by
  have hsplit : split? 22 (archive.drop p) = none := by
    rw [split?, if_neg]
    rw [List.length_take, List.length_drop]
    omega
  rw [DirectoryEnd.read, hsplit]
  rfl

theorem search_cutEnd (fault : Option ArchiveError) (hlater : ∀ p ∈ later, archive.length < p + 22)
    (positions : List Nat) :
    ∃ fault', search archive fault (later ++ positions) = search archive fault' positions := by
  induction later generalizing fault with
  | nil => exact ⟨fault, rfl⟩
  | cons p later ih =>
    obtain ⟨hp, hlater⟩ := List.forall_mem_cons.1 hlater
    rw [List.cons_append, search, read_cutEnd hp]
    exact ih _ hlater

theorem directory_ne_nil (hne : entries ≠ []) :
    directoryMark.isPrefixOf (directory entries) = true ∧ directory entries ≠ [] := by
  cases entries with
  | nil => exact absurd rfl hne
  | cons e entries =>
    obtain ⟨name, contents⟩ := e
    have hmark : directoryMark.isPrefixOf (directory ((name, contents) :: entries)) = true := by
      simp [directory, writeDirectory, writeRecord]
    refine ⟨hmark, fun hnil => ?_⟩
    rw [hnil] at hmark
    cases hmark

theorem marksBetween_directory (hne : entries ≠ []) : ∃ others,
    marksBetween directoryMark (body entries).length
      ((body entries).length + (directory entries).length) (write entries) =
        (body entries).length :: others := by
  obtain ⟨hmark, hnil⟩ := directory_ne_nil hne
  obtain ⟨later, hlater, -⟩ := marksFrom_of_isPrefixOf hmark hnil (body entries).length
  have hbetween : ((write entries).take ((body entries).length + (directory entries).length)).drop
      (body entries).length = directory entries := by
    rw [write_eq, ← List.append_assoc, ← List.length_append, List.take_left, List.drop_left]
  rw [marksBetween, hbetween, hlater, List.reverse_append]
  exact ⟨_, rfl⟩

theorem ofPlain_endRecord (hcount : entries.length < 65535)
    (hbody : (body entries).length < 4294967295) :
    DirectoryEnd.ofPlain (write entries)
      (endRecord entries.length (directory entries).length (body entries).length)
      ((body entries).length + (directory entries).length) =
        .ok ⟨0, (body entries).length, entries.length, true⟩ := by
  obtain ⟨hdisk, hdisk', hhere, hall, hoffset, -⟩ :=
    field_endRecord (directory entries).length hcount hbody
  simp only [DirectoryEnd.ofPlain, hdisk, hdisk', hhere, hall, hoffset]
  by_cases hne : entries = []
  · subst hne
    rfl
  · obtain ⟨others, hmarks⟩ := marksBetween_directory hne
    have hpos := List.length_pos_iff.2 (directory_ne_nil hne).2
    have hlength : ¬entries.length = 0 := by simpa using hne
    rw [if_neg hlength, if_neg (by omega), hmarks]
    simp
    rfl

theorem read_endRecord (hcount : entries.length < 65535)
    (hbody : (body entries).length < 4294967295) :
    DirectoryEnd.read (write entries) ((body entries).length + (directory entries).length) =
      .ok ⟨0, (body entries).length, entries.length, true⟩ := by
  have hplain := ofPlain_endRecord hcount hbody
  have hdrop : (write entries).drop ((body entries).length + (directory entries).length) =
      endRecord entries.length (directory entries).length (body entries).length := by
    rw [write_eq, ← List.append_assoc, ← List.length_append, List.drop_left]
  obtain ⟨-, -, -, hall, hoffset, hcomment⟩ :=
    field_endRecord (directory entries).length hcount hbody
  generalize hrecord : endRecord entries.length (directory entries).length (body entries).length =
    record at hplain hdrop hall hoffset hcomment
  have hsplit : split? 22 record = some (record, []) := by
    have hlength := length_endRecord entries.length (directory entries).length (body entries).length
    rw [hrecord] at hlength
    have happend := split?_append record []
    rwa [hlength, List.append_nil] at happend
  have hlimited : (decide (entries.length = 0xFFFF) ||
      decide ((body entries).length = 0xFFFFFFFF)) = false := by
    rw [Bool.or_eq_false_iff, decide_eq_false_iff_not, decide_eq_false_iff_not]
    omega
  rw [DirectoryEnd.read, hdrop, hsplit]
  simp only [hcomment, split?_zero, hall, hoffset, hlimited]
  exact hplain

end End

/-- What the plain format can hold: names shorter than 64 KiB, fewer than 65535 entries, and less than
4 GiB. -/
structure Fits (entries : List (String × Bytes)) : Prop where
  names : ∀ e ∈ entries, e.1.utf8ByteSize < 65536
  count : entries.length < 65535
  length : (write entries).length < 4294967295

theorem entriesOf_write (hdistinct : (entries.map (·.1)).Nodup) (h : Fits entries) :
    entriesOf (write entries) ⟨0, (body entries).length, entries.length, true⟩ =
      some (entries.map fun e => ⟨e.1, .ok e.2⟩) := by
  have hlength := h.length
  rw [write_eq, List.length_append, List.length_append, length_endRecord] at hlength
  have hrecords : Record.readAll 0 (body entries).length entries.length
      ((write entries).drop (body entries).length) = some (recordsOf 0 entries) := by
    rw [write_eq, List.drop_left]
    exact readAll_writeDirectory h.names (by omega) (by omega) _
  have hcontents := map_contentsOf h.names []
    (directory entries ++ endRecord entries.length (directory entries).length (body entries).length)
  rw [List.nil_append, ← write_eq, List.length_nil] at hcontents
  have hrecord : Keyed.ofPairs ((recordsOf 0 entries).map fun r => (r.name, r)) =
      (recordsOf 0 entries).map fun r => (r.name, r) := by
    apply Keyed.ofPairs_of_nodup
    rw [List.map_map]
    exact (map_name_recordsOf 0 entries).symm ▸ hdistinct
  simp only [entriesOf, DirectoryEnd.start, Nat.zero_add, hrecords, Option.bind_eq_bind,
    Option.bind_some, hrecord, List.map_map]
  exact congrArg some hcontents

/-- An archive that is written is read as the entries that it was written from. -/
theorem read_write (hdistinct : (entries.map (·.1)).Nodup) (h : Fits entries) :
    read (write entries) = .ok (entries.map fun e => ⟨e.1, .ok e.2⟩) := by
  have hlength := h.length
  rw [write_eq, List.length_append, List.length_append, length_endRecord] at hlength
  have hend := read_endRecord h.count (by omega)
  have hmark : endMark.isPrefixOf (endRecord entries.length (directory entries).length
      (body entries).length) = true := by
    simp [endRecord]
  have hne : endRecord entries.length (directory entries).length (body entries).length ≠ [] := by
    rw [← List.length_pos_iff, length_endRecord]
    decide
  obtain ⟨earlier, hmarks⟩ := marksFrom_append endMark 0 (body entries ++ directory entries)
    (endRecord entries.length (directory entries).length (body entries).length)
  rw [List.append_assoc, ← write_eq, Nat.zero_add, List.length_append] at hmarks
  obtain ⟨later, hlast, hbehind⟩ := marksFrom_of_isPrefixOf hmark hne
    ((body entries).length + (directory entries).length)
  -- what looks like a mark behind the end record has no room for one
  have hcut : ∀ p ∈ later, (write entries).length < p + 22 := by
    intro p hp
    have hp := hbehind p hp
    rw [write_eq, List.length_append, List.length_append, length_endRecord]
    omega
  obtain ⟨fault, hsearch⟩ := search_cutEnd none hcut
    (((body entries).length + (directory entries).length) :: earlier)
  rw [read, hmarks, hlast, List.append_assoc, List.singleton_append, hsearch, search, hend]
  dsimp only
  rw [entriesOf_write hdistinct h]

section Distinct

variable {found : DirectoryEnd} {es : List ArchiveEntry} {positions : List Nat}

theorem nodup_of_entriesOf (h : entriesOf archive found = some es) : (es.map (·.name)).Nodup := by
  rw [entriesOf] at h
  split at h
  · cases h
  · obtain ⟨records, -, h⟩ := Option.bind_eq_some_iff.1 h
    cases h
    rw [List.map_map]
    exact Keyed.nodup_ofPairs _

theorem nodup_of_search (h : search archive fault positions = .ok es) :
    (es.map (·.name)).Nodup := by
  induction positions generalizing fault with
  | nil => cases h
  | cons position rest ih =>
    rw [search] at h
    split at h
    · exact ih h
    · exact ih h
    · exact ih h
    · split at h
      · rename_i hfound
        cases h
        exact nodup_of_entriesOf hfound
      · exact ih h

theorem nodup_of_read (h : read bs = .ok es) : (es.map (·.name)).Nodup :=
  nodup_of_search h

end Distinct

end Archive

end StubLinker
