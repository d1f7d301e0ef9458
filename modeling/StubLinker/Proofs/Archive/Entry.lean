import StubLinker.Archive.Basic
import StubLinker.Archive.Writer
import StubLinker.Proofs.Except
import StubLinker.Proofs.Text.Lenient

namespace StubLinker.Archive

variable {name contents rest : Bytes} {offset n w : Nat}

@[simp] theorem length_toLittleEndian (n w : Nat) : (toLittleEndian n w).length = w := by
  induction w generalizing n with
  | zero => rfl
  | succ w ih => simp [toLittleEndian, ih]

theorem littleEndian_toLittleEndian (n w : Nat) :
    littleEndian (toLittleEndian n w) = n % 256 ^ w := by
  induction w generalizing n with
  | zero =>
    rw [Nat.pow_zero, Nat.mod_one]
    rfl
  | succ w ih =>
    have hbyte : n.toUInt8.toNat = n % 256 := rfl
    have hrest : (toLittleEndian (n / 256) w).foldr (fun b n => b.toNat + 256 * n) 0 =
        n / 256 % 256 ^ w := ih (n / 256)
    rw [toLittleEndian, littleEndian, List.foldr_cons, hrest, hbyte, Nat.pow_succ', Nat.mod_mul]

theorem littleEndian_eq (h : n < 256 ^ w) : littleEndian (toLittleEndian n w) = n := by
  rw [littleEndian_toLittleEndian, Nat.mod_eq_of_lt h]

theorem field_append (as bs : Bytes) (h : as.length ≤ n) :
    field (as ++ bs) n w = field bs (n - as.length) w := by
  rw [field, field, List.drop_append, List.drop_of_length_le h, List.nil_append]

theorem field_first (h : n < 256 ^ w) (bs : Bytes) : field (toLittleEndian n w ++ bs) 0 w = n := by
  rw [field, List.drop_zero, List.take_left' (length_toLittleEndian n w), littleEndian_eq h]

theorem field_last (h : n < 256 ^ w) : field (toLittleEndian n w) 0 w = n := by
  rw [← List.append_nil (toLittleEndian n w), field_first h]

theorem split?_append (as bs : Bytes) : split? as.length (as ++ bs) = some (as, bs) := by
  simp [split?]

theorem split?_zero (bs : Bytes) : split? 0 bs = some ([], bs) :=
  split?_append [] bs

theorem length_directoryMark : directoryMark.length = 4 := by
  decide

def recordHead (offset : Nat) (name contents : Bytes) : Bytes :=
  directoryMark ++ toLittleEndian 20 2 ++ header name contents ++ toLittleEndian 0 2 ++
    toLittleEndian 0 2 ++ toLittleEndian 0 2 ++ toLittleEndian 0 4 ++ toLittleEndian offset 4

theorem writeRecord_eq (offset : Nat) (name contents : Bytes) :
    writeRecord offset name contents = recordHead offset name contents ++ name :=
  rfl

theorem length_recordHead (offset : Nat) (name contents : Bytes) :
    (recordHead offset name contents).length = 46 := by
  simp [recordHead, header, length_directoryMark]

def isUnicode (name : Bytes) : Bool :=
  !name.all (· < 128)

def recordOf (offset : Nat) (name contents : Bytes) : Record where
  name := textOf (isUnicode name) name
  nameBytes := name
  comment := textOf (isUnicode name) []
  isEncrypted := false
  method := 0
  checksum := (crc32 contents).toNat
  packedSize := contents.length
  size := contents.length
  offset := offset

theorem name_recordOf : (recordOf offset name contents).name = textOf (isUnicode name) name :=
  rfl

theorem offset_recordOf : (recordOf offset name contents).offset = offset :=
  rfl

theorem read_writeRecord (hname : name.length < 65536) (hcontents : contents.length < 4294967296)
    (hoffset : offset < 4294967296) (rest : Bytes) :
    Record.read (writeRecord offset name contents ++ rest) =
      some (recordOf offset name contents, rest) := by
  have hmarks : field (recordHead offset name contents) 8 2 = if isUnicode name then 2048 else 0 := by
    have hbound : (if name.all (· < 128) then 0 else 2048) < 256 ^ 2 := by split <;> decide
    simp (disch := decide) only [recordHead, header, List.append_assoc, field_append,
      length_directoryMark, length_toLittleEndian]
    rw [field_first hbound, isUnicode]
    cases name.all (· < 128) <;> rfl
  have hmethod : field (recordHead offset name contents) 10 2 = 0 := by
    simp [recordHead, header, field_append, length_directoryMark, field_first]
  have hchecksum : field (recordHead offset name contents) 16 4 = (crc32 contents).toNat := by
    simp [recordHead, header, field_append, length_directoryMark, field_first,
      (crc32 contents).toNat_lt]
  have hpacked : field (recordHead offset name contents) 20 4 = contents.length := by
    simp [recordHead, header, field_append, length_directoryMark, field_first, hcontents]
  have hsize : field (recordHead offset name contents) 24 4 = contents.length := by
    simp [recordHead, header, field_append, length_directoryMark, field_first, hcontents]
  have hnameField : field (recordHead offset name contents) 28 2 = name.length := by
    simp [recordHead, header, field_append, length_directoryMark, field_first, hname]
  have hextra : field (recordHead offset name contents) 30 2 = 0 := by
    simp [recordHead, header, field_append, length_directoryMark, field_first]
  have hcomment : field (recordHead offset name contents) 32 2 = 0 := by
    simp [recordHead, header, field_append, length_directoryMark, field_first]
  have hoffsetField : field (recordHead offset name contents) 42 4 = offset := by
    simp [recordHead, header, field_append, length_directoryMark, field_last, hoffset]
  have hbit : (if isUnicode name then 2048 else 0).testBit 11 = isUnicode name := by
    cases isUnicode name <;> decide
  have hplain : (if isUnicode name then 2048 else 0).testBit 0 = false := by
    cases isUnicode name <;> decide
  have hhead := split?_append (recordHead offset name contents) (name ++ rest)
  rw [length_recordHead] at hhead
  have hmark : directoryMark.isPrefixOf (recordHead offset name contents) = true := by
    simp [recordHead]
  rw [Record.read, writeRecord_eq, List.append_assoc, hhead]
  simp only [Option.bind_eq_bind, Option.bind_some, hmark, hnameField, split?_append, hextra,
    hcomment, split?_zero, hmarks, hbit, hplain, hmethod, hchecksum, hpacked, hsize, hoffsetField]
  rfl

theorem length_entryMark : entryMark.length = 4 := by
  decide

theorem length_header (name contents : Bytes) : (header name contents).length = 26 := by
  simp [header]

theorem contentsOf_writeEntry (hname : name.length < 65536) (offset : Nat) (rest : Bytes) :
    contentsOf (recordOf offset name contents) (writeEntry name contents ++ rest) =
      .ok contents := by
  have hnameField : field (writeEntry name contents ++ rest) 26 2 = name.length := by
    simp [writeEntry, header, field_append, length_entryMark, field_first, hname]
  have hextra : field (writeEntry name contents ++ rest) 28 2 = 0 := by
    simp [writeEntry, header, field_append, length_entryMark, field_first]
  have hmark : entryMark.isPrefixOf (writeEntry name contents ++ rest) = true := by
    simp [writeEntry]
  have hdata : (writeEntry name contents ++ rest).drop (30 + name.length + 0) = contents ++ rest := by
    have hlength : (entryMark ++ header name contents ++ name).length = 30 + name.length + 0 := by
      simp [length_entryMark, length_header]
      omega
    rw [writeEntry, List.append_assoc _ contents rest, ← hlength, List.drop_left]
  simp only [contentsOf, recordOf, hmark, hnameField, hextra, hdata]
  simp [Method.ofNumber?, Method.unpack, Except.ok_bind]
  rfl

theorem encode_of_ascii {c : Char} (h : (String.utf8EncodeChar c).all (· < 128) = true) :
    c.toNat < 128 ∧ String.utf8EncodeChar c = [UInt8.ofNat c.toNat] := by
  obtain ⟨b, hb⟩ := Option.isSome_iff_exists.1
    (List.isSome_head?.2 (String.utf8EncodeChar_ne_nil (c := c)))
  have hlt : b < 128 := by simpa using List.all_eq_true.1 h b (List.mem_of_mem_head? hb)
  have hsmall : b.toNat < 128 := hlt
  have hc : c.toNat < 128 := by
    rcases Bytes.letter_head hb with rfl | ⟨hlarge, -⟩
    · rw [Bytes.toNat_letter]
      exact hsmall
    · omega
  refine ⟨hc, ?_⟩
  rw [String.utf8EncodeChar.eq_1, show c.val.toNat = c.toNat from rfl, if_pos (by omega)]

theorem textOf_ofText (s : String) : textOf (isUnicode (Bytes.ofText s)) (Bytes.ofText s) = s := by
  cases hunicode : isUnicode (Bytes.ofText s) with
  | true => exact Text.lenient_ofText s
  | false =>
    have hascii : (s.toList.flatMap String.utf8EncodeChar).all (· < 128) = true := by
      rw [← Bytes.ofText_eq]
      simpa [isUnicode] using hunicode
    have hchars (cs : List Char) (h : (cs.flatMap String.utf8EncodeChar).all (· < 128) = true) :
        ((cs.flatMap String.utf8EncodeChar).map fun b =>
          if b < 128 then Char.ofNat b.toNat else upperCharacters.getD (b.toNat - 128) '?') = cs := by
      induction cs with
      | nil => rfl
      | cons c cs ih =>
        rw [List.flatMap_cons, List.all_append, Bool.and_eq_true] at h
        obtain ⟨hc, hbytes⟩ := encode_of_ascii h.1
        have hbyte : (UInt8.ofNat c.toNat).toNat = c.toNat := Text.toNat_ofNat (by omega)
        have hlt : UInt8.ofNat c.toNat < 128 := (Text.ofNat_lt (by omega)).2 hc
        rw [List.flatMap_cons, hbytes, List.map_append, ih h.2, List.map_singleton, if_pos hlt,
          hbyte, Char.ofNat_toNat]
        rfl
    rw [textOf, if_neg Bool.false_ne_true, Bytes.ofText_eq, hchars s.toList hascii,
      String.ofList_toList]

end StubLinker.Archive
