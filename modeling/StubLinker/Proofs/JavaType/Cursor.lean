import StubLinker.Bytes
import StubLinker.Proofs.JavaType.Grammar

namespace StubLinker

namespace Text

/-- The characters from a byte offset on; none if no character starts there and the text does not end
there. -/
def dropBytes : Nat → List Char → Option (List Char)
  | 0, cs => some cs
  | _ + 1, [] => none
  | n + 1, c :: cs => if c.utf8Size ≤ n + 1 then dropBytes (n + 1 - c.utf8Size) cs else none

/-- The characters up to a byte offset; none if the offset is not between two characters. -/
def takeBytes : Nat → List Char → Option (List Char)
  | 0, _ => some []
  | _ + 1, [] => none
  | n + 1, c :: cs =>
    if c.utf8Size ≤ n + 1 then (takeBytes (n + 1 - c.utf8Size) cs).map (c :: ·) else none

/-- The text between two byte offsets; none if they are in the wrong order or one of them is not
between two characters. -/
def slice? (s : String) (start stop : Nat) : Option String :=
  if stop < start then none
  else
    match dropBytes start s.toList with
    | none => none
    | some cs => (takeBytes (stop - start) cs).map String.ofList

def find? (c : Char) : List Char → Option Nat
  | [] => none
  | d :: cs => if d = c then some 0 else (find? c cs).map (d.utf8Size + ·)

@[simp] theorem utf8Length_nil : utf8Length [] = 0 :=
  rfl

@[simp] theorem utf8Length_cons (c : Char) (cs : List Char) :
    utf8Length (c :: cs) = c.utf8Size + utf8Length cs :=
  rfl

@[simp] theorem utf8Length_append (front back : List Char) :
    utf8Length (front ++ back) = utf8Length front + utf8Length back := by
  induction front with
  | nil => simp
  | cons c front ih => simp [ih, Nat.add_assoc]

theorem utf8ByteSize_ofList (cs : List Char) : (String.ofList cs).utf8ByteSize = utf8Length cs := by
  induction cs with
  | nil => rfl
  | cons c cs ih =>
    rw [String.ofList_cons, String.utf8ByteSize_append, String.utf8ByteSize_singleton, ih,
      utf8Length_cons]

theorem utf8ByteSize_eq (s : String) : s.utf8ByteSize = utf8Length s.toList := by
  rw [← utf8ByteSize_ofList, String.ofList_toList]

theorem stop_eq {s : String} {front back : List Char} (hs : s.toList = front ++ back) :
    s.utf8ByteSize - utf8Length back = utf8Length front := by
  rw [utf8ByteSize_eq, hs, utf8Length_append, Nat.add_sub_cancel]

/-- The offset behind what was read is the end of the text just if no character is left. -/
theorem stop_eq_iff {s : String} (hs : s.toList ≠ []) (rest : List Char) :
    s.utf8ByteSize - utf8Length rest = s.utf8ByteSize ↔ rest = [] := by
  have hsize : 0 < s.utf8ByteSize := by
    obtain ⟨c, cs, hcs⟩ := List.exists_cons_of_ne_nil hs
    have hc := c.utf8Size_pos
    rw [utf8ByteSize_eq, hcs, utf8Length_cons]
    omega
  cases rest with
  | nil => simp
  | cons c rest =>
    have hc := c.utf8Size_pos
    rw [utf8Length_cons]
    simp only [reduceCtorEq, iff_false]
    omega

theorem utf8Length_cons_eq_succ (c : Char) (front : List Char) :
    ∃ n, utf8Length (c :: front) = n + 1 ∧ c.utf8Size ≤ n + 1 ∧
      n + 1 - c.utf8Size = utf8Length front := by
  obtain ⟨n, hn⟩ := Nat.exists_eq_add_one.2 c.utf8Size_pos
  refine ⟨n + utf8Length front, ?_, ?_, ?_⟩
  · rw [utf8Length_cons, hn]
    omega
  · omega
  · omega

theorem dropBytes_append (front back : List Char) :
    dropBytes (utf8Length front) (front ++ back) = some back := by
  induction front with
  | nil => cases back <;> rfl
  | cons c front ih =>
    obtain ⟨n, hsize, hle, hrest⟩ := utf8Length_cons_eq_succ c front
    rw [hsize, List.cons_append, dropBytes, if_pos hle, hrest, ih]

theorem takeBytes_append (front back : List Char) :
    takeBytes (utf8Length front) (front ++ back) = some front := by
  induction front with
  | nil => cases back <;> rfl
  | cons c front ih =>
    obtain ⟨n, hsize, hle, hrest⟩ := utf8Length_cons_eq_succ c front
    rw [hsize, List.cons_append, takeBytes, if_pos hle, hrest, ih]
    rfl

theorem slice?_append (front name back : List Char) {s : String}
    (hs : s.toList = front ++ (name ++ back)) :
    slice? s (utf8Length front) (utf8Length front + utf8Length name) = some (String.ofList name) := by
  have hlt : ¬utf8Length front + utf8Length name < utf8Length front := by omega
  rw [slice?, if_neg hlt, hs, dropBytes_append]
  dsimp only
  rw [Nat.add_sub_cancel_left, takeBytes_append]
  rfl

theorem find?_eq (c : Char) (cs : List Char) :
    find? c cs = match cs.dropWhile (· != c) with
      | [] => none
      | _ :: _ => some (utf8Length (cs.takeWhile (· != c))) := by
  induction cs with
  | nil => rfl
  | cons d cs ih =>
    by_cases hd : d = c
    · simp [find?, hd]
    · simp only [find?, if_neg hd, ih, bne_iff_ne.2 hd, List.dropWhile_cons_of_pos,
        List.takeWhile_cons_of_pos]
      cases cs.dropWhile (· != c) <;> rfl

/-- The characters from an offset on are what follows a text of that size. -/
theorem dropBytes_eq_some {n : Nat} {cs back : List Char} (h : dropBytes n cs = some back) :
    ∃ front, cs = front ++ back ∧ utf8Length front = n := by
  induction cs generalizing n with
  | nil =>
    cases n with
    | zero =>
      cases h
      exact ⟨[], rfl, rfl⟩
    | succ n => cases h
  | cons c cs ih =>
    cases n with
    | zero =>
      cases h
      exact ⟨[], rfl, rfl⟩
    | succ n =>
      rw [dropBytes] at h
      split at h
      · rename_i hle
        obtain ⟨front, rfl, hfront⟩ := ih h
        refine ⟨c :: front, rfl, ?_⟩
        rw [utf8Length_cons, hfront]
        omega
      · cases h

/-- A text can be cut at the boundaries of its characters, and nowhere else. -/
theorem isSome_dropBytes {s : String} {n : Nat} :
    (dropBytes n s.toList).isSome ↔ (⟨n⟩ : String.Pos.Raw).IsValid s := by
  rw [String.Pos.Raw.isValid_iff_exists_append, Option.isSome_iff_exists]
  constructor
  · rintro ⟨back, h⟩
    obtain ⟨front, hs, rfl⟩ := dropBytes_eq_some h
    refine ⟨String.ofList front, String.ofList back, ?_, ?_⟩
    · rw [← String.ofList_append, ← hs, String.ofList_toList]
    · rw [← utf8ByteSize_ofList]
      rfl
  · rintro ⟨front, back, rfl, h⟩
    obtain rfl : n = front.utf8ByteSize := congrArg String.Pos.Raw.byteIdx h
    rw [String.toList_append, utf8ByteSize_eq]
    exact ⟨back.toList, dropBytes_append _ _⟩

end Text

namespace Bytes

open Text

def letter (b : UInt8) : Char :=
  Char.ofNat b.toNat

theorem ofText_eq (s : String) : ofText s = s.toList.flatMap String.utf8EncodeChar := by
  rw [ofText, ← String.utf8Encode_toList, List.utf8Encode]
  simp

theorem length_flatMap_utf8EncodeChar (cs : List Char) :
    (cs.flatMap String.utf8EncodeChar).length = utf8Length cs := by
  induction cs with
  | nil => rfl
  | cons c cs ih => simp [ih]

theorem length_ofText (s : String) : (ofText s).length = s.utf8ByteSize := by
  rw [ofText_eq, length_flatMap_utf8EncodeChar, utf8ByteSize_eq]

theorem getElem?_ofText {s : String} {front back : List Char} {c : Char}
    (hs : s.toList = front ++ c :: back) :
    (ofText s)[utf8Length front]? = (String.utf8EncodeChar c).head? := by
  have hlength := length_flatMap_utf8EncodeChar front
  have hpos := List.length_pos_iff.2 (String.utf8EncodeChar_ne_nil (c := c))
  rw [ofText_eq, hs, List.flatMap_append, List.getElem?_append_right (by omega), hlength,
    Nat.sub_self, List.flatMap_cons, List.getElem?_append_left hpos, List.head?_eq_getElem?]

theorem exists_head {s : String} {front back : List Char} {c : Char}
    (hs : s.toList = front ++ c :: back) :
    ∃ b, (ofText s)[utf8Length front]? = some b ∧ (String.utf8EncodeChar c).head? = some b := by
  obtain ⟨b, hb⟩ := Option.isSome_iff_exists.1
    (List.isSome_head?.2 (String.utf8EncodeChar_ne_nil (c := c)))
  exact ⟨b, (getElem?_ofText hs).trans hb, hb⟩

theorem getElem?_ofText_end (s : String) : (ofText s)[utf8Length s.toList]? = none := by
  rw [List.getElem?_eq_none_iff, length_ofText, utf8ByteSize_eq]

/-- The first byte of a character is the character itself if it is an ASCII one, and else no ASCII
character. -/
theorem letter_head {c : Char} {b : UInt8} (h : (String.utf8EncodeChar c).head? = some b) :
    letter b = c ∨ 128 ≤ b.toNat ∧ 128 ≤ c.toNat := by
  rw [String.utf8EncodeChar, show c.val.toNat = c.toNat from rfl] at h
  by_cases hc : c.toNat ≤ 0x7f
  · left
    simp only [hc, ↓reduceIte, List.head?_cons, Option.some.injEq] at h
    subst h
    simp [letter, Nat.mod_eq_of_lt (by omega : c.toNat < 256)]
  · right
    refine ⟨?_, by omega⟩
    simp only [hc, ↓reduceIte] at h
    split at h
    · cases h
      simp
      omega
    split at h
    · cases h
      simp
      omega
    · cases h
      simp
      omega

theorem toNat_letter (b : UInt8) : (letter b).toNat = b.toNat := by
  have hb := b.toNat_lt
  have hvalid : b.toNat.isValidChar := .inl (by omega)
  rw [letter, Char.ofNat, dif_pos hvalid]
  rfl

theorem letter_eq_iff {c a : Char} {b : UInt8} (h : (String.utf8EncodeChar c).head? = some b)
    (ha : a.toNat < 128) : letter b = a ↔ c = a := by
  rcases letter_head h with hb | ⟨hb, hc⟩
  · rw [hb]
  · constructor
    · rintro rfl
      rw [toNat_letter] at ha
      omega
    · rintro rfl
      omega

end Bytes

namespace Primitive

theorem ofLetter?_of_le {c : Char} (h : 128 ≤ c.toNat) : ofLetter? c = none := by
  cases hc : ofLetter? c with
  | none => rfl
  | some p =>
    rw [JavaType.eq_letter hc] at h
    cases p <;> exact absurd h (by decide)

theorem ofLetter?_letter_head {c : Char} {b : UInt8}
    (h : (String.utf8EncodeChar c).head? = some b) :
    ofLetter? (Bytes.letter b) = ofLetter? c := by
  rcases Bytes.letter_head h with hb | ⟨hb, hc⟩
  · rw [hb]
  · rw [← Bytes.toNat_letter] at hb
    rw [ofLetter?_of_le hb, ofLetter?_of_le hc]

end Primitive

namespace JavaType

open Text Bytes

/-- Reads a class name from a byte offset on, up to the next `;`. -/
def readClassAt (s : String) (start : Nat) : Option (Except DescriptorError (JavaType × Nat)) :=
  match dropBytes start s.toList with
  | none => none
  | some cs =>
    match find? ';' cs with
    | none => some (.error (.unterminated s))
    | some i =>
      match slice? s start (start + i) with
      | none => none
      | some name =>
        some (if ClassName.isValid name then .ok (.object name, start + i + 1)
          else .error (.invalidClassName name))

/-- Reads one type from a byte offset on, with the offset behind it. -/
def readAt (s : String) (offset : Nat) : Option (Except DescriptorError (JavaType × Nat)) :=
  match _h : (ofText s)[offset]? with
  | none => some (.error (.unterminated s))
  | some tag =>
    if letter tag = 'V' then some (.ok (.void, offset + 1))
    else if letter tag = 'L' then readClassAt s (offset + 1)
    else if letter tag = '[' then
      match readAt s (offset + 1) with
      | none => none
      | some (.error e) => some (.error e)
      | some (.ok (component, stop)) =>
        if component = .void then some (.error (.misplacedVoid s))
        else some (.ok (.array component, stop))
    else
      match Primitive.ofLetter? (letter tag) with
      | some p => some (.ok (.primitive p, offset + 1))
      | none =>
        match dropBytes offset s.toList with
        | none => none
        | some cs => some (.error (.unexpectedCharacter s offset (cs.head?.getD '?')))
termination_by (ofText s).length - offset
decreasing_by
  have hlt := (List.getElem?_eq_some_iff.1 _h).1
  omega

/-- A reading of a text, with the offset behind what was read in place of the characters left. -/
def atOffsets {α : Type} (s : String) (r : Except DescriptorError (α × List Char)) :
    Except DescriptorError (α × Nat) :=
  r.map fun r => (r.1, s.utf8ByteSize - utf8Length r.2)

theorem readClassAt_eq {s : String} {front cs : List Char} (hs : s.toList = front ++ cs) :
    readClassAt s (utf8Length front) = some (atOffsets s (readClass s cs)) := by
  have hcs : cs.takeWhile (· != ';') ++ cs.dropWhile (· != ';') = cs :=
    List.takeWhile_append_dropWhile
  have hcut : dropBytes (utf8Length front) s.toList = some cs := by rw [hs, dropBytes_append]
  unfold readClassAt readClass
  rw [hcut]
  dsimp only
  rw [find?_eq]
  cases hd : cs.dropWhile (· != ';') with
  | nil => rfl
  | cons d rest =>
    have hd' : d = ';' := by
      have hhead := List.head?_dropWhile_not (· != ';') cs
      rw [hd] at hhead
      simpa using hhead
    rw [hd] at hcs
    have hwhole : s.toList = front ++ (cs.takeWhile (· != ';') ++ d :: rest) := by rw [hs, hcs]
    -- both readers go on behind the semicolon
    have hstop : utf8Length front + utf8Length (cs.takeWhile (· != ';')) + 1 =
        s.utf8ByteSize - utf8Length rest := by
      rw [utf8ByteSize_eq, hwhole, utf8Length_append, utf8Length_append, utf8Length_cons, hd',
        show (';').utf8Size = 1 from rfl]
      omega
    dsimp only
    rw [slice?_append front _ _ hwhole]
    dsimp only
    rw [hstop]
    split <;> rfl

/-- No cut is missed: wherever a character starts, reading by offsets is reading by characters. -/
theorem readAt_eq {s : String} {front cs : List Char} (hs : s.toList = front ++ cs) :
    readAt s (utf8Length front) = some (atOffsets s (read s cs)) := by
  induction cs generalizing front with
  | nil =>
    have hnone := getElem?_ofText_end s
    rw [hs, List.append_nil] at hnone
    rw [readAt, hnone]
    rfl
  | cons c cs ih =>
    have hnext : s.toList = (front ++ [c]) ++ cs := by rw [hs, List.append_cons]
    have hsize : s.utf8ByteSize = utf8Length front + (c.utf8Size + utf8Length cs) := by
      rw [utf8ByteSize_eq, hs, utf8Length_append, utf8Length_cons]
    obtain ⟨tag, hbyte, htag⟩ := exists_head hs
    have hstep : c.utf8Size = 1 → utf8Length (front ++ [c]) = utf8Length front + 1 := by
      intro hc
      rw [utf8Length_append, utf8Length_cons, hc, utf8Length_nil]
    have hstop : c.utf8Size = 1 → utf8Length front + 1 = s.utf8ByteSize - utf8Length cs := by
      intro hc
      omega
    rw [readAt, hbyte, read]
    dsimp only
    -- no other character starts with the byte of one of these letters
    simp only [letter_eq_iff htag (a := 'V') (by decide), letter_eq_iff htag (a := 'L') (by decide),
      letter_eq_iff htag (a := '[') (by decide), Primitive.ofLetter?_letter_head htag]
    split_ifs with hV hL hA
    · rw [hstop (by rw [hV]; rfl)]
      rfl
    · rw [← hstep (by rw [hL]; rfl), readClassAt_eq hnext]
    · rw [← hstep (by rw [hA]; rfl), ih hnext]
      cases read s cs with
      | error e => rfl
      | ok r =>
        dsimp only [atOffsets, Except.map]
        split_ifs <;> rfl
    · cases hp : Primitive.ofLetter? c with
      | some p =>
        rw [hstop (by rw [eq_letter hp]; cases p <;> rfl)]
        rfl
      | none =>
        rw [hs, dropBytes_append]
        dsimp only [atOffsets, Except.map]
        rw [show utf8Length front = s.utf8ByteSize - utf8Length (c :: cs) by
          rw [utf8Length_cons]; omega]
        rfl

theorem lt_of_readClassAt {s : String} {start stop : Nat} {t : JavaType}
    (h : readClassAt s start = some (.ok (t, stop))) : start < stop := by
  unfold readClassAt at h
  split at h
  · cases h
  split at h
  · cases h
  split at h
  · cases h
  · split at h
    · cases h
      omega
    · cases h

/-- Reading by offsets goes on from its offset, which is one of the text. -/
theorem lt_of_readAt {s : String} {offset stop : Nat} {t : JavaType}
    (h : readAt s offset = some (.ok (t, stop))) : offset < stop ∧ offset < (ofText s).length := by
  fun_induction readAt s offset generalizing t with
  | case1 => cases h
  | case2 offset tag htag =>
    cases h
    exact ⟨Nat.lt_succ_self _, (List.getElem?_eq_some_iff.1 htag).1⟩
  | case3 offset tag htag =>
    exact ⟨Nat.lt_of_succ_lt (lt_of_readClassAt h), (List.getElem?_eq_some_iff.1 htag).1⟩
  | case4 => cases h
  | case5 => cases h
  | case6 => cases h
  | case7 offset tag htag hV hL hA component stop' hr hv ih =>
    cases h
    exact ⟨Nat.lt_of_succ_lt (ih hr).1, (List.getElem?_eq_some_iff.1 htag).1⟩
  | case8 offset tag htag =>
    cases h
    exact ⟨Nat.lt_succ_self _, (List.getElem?_eq_some_iff.1 htag).1⟩
  | case9 => cases h
  | case10 => cases h

/-- The type whose descriptor is the whole text, read by offsets. -/
def ofDescriptorAt (s : String) : Option (Except DescriptorError JavaType) :=
  if s.isEmpty then some (.error .empty)
  else
    match readAt s 0 with
    | none => none
    | some (.error e) => some (.error e)
    | some (.ok (t, stop)) =>
      if stop ≠ s.utf8ByteSize then some (.error (.trailing s)) else some (.ok t)

theorem ofDescriptorAt_eq (s : String) : ofDescriptorAt s = some (ofDescriptor s) := by
  rw [ofDescriptorAt, ofDescriptor]
  split_ifs with hempty
  · rfl
  · have hs : s.toList ≠ [] := by
      intro h
      exact hempty (String.isEmpty_iff.2 (String.toList_injective h))
    rw [show (0 : Nat) = utf8Length [] from rfl, readAt_eq (List.nil_append s.toList).symm]
    cases read s s.toList with
    | error e => rfl
    | ok r =>
      obtain ⟨t, rest⟩ := r
      dsimp only [atOffsets, Except.map]
      simp only [ne_eq, stop_eq_iff hs]
      cases rest <;> rfl

end JavaType

namespace MethodDescriptor

open Text

/-- Reads parameter types from a byte offset on up to the closing parenthesis. -/
def readParametersAt (s : String) (offset : Nat) :
    Option (Except DescriptorError (List JavaType × Nat)) :=
  match (Bytes.ofText s)[offset]? with
  | none => some (.error (.unterminated s))
  | some tag =>
    if Bytes.letter tag = ')' then some (.ok ([], offset + 1))
    else
      match _h : JavaType.readAt s offset with
      | none => none
      | some (.error e) => some (.error e)
      | some (.ok (t, stop)) =>
        if t = .void then some (.error (.misplacedVoid s))
        else
          match readParametersAt s stop with
          | none => none
          | some (.error e) => some (.error e)
          | some (.ok (ts, stop')) => some (.ok (t :: ts, stop'))
termination_by (Bytes.ofText s).length - offset
decreasing_by
  have hlt := JavaType.lt_of_readAt _h
  omega

/-- The method descriptor that is the whole text, read by offsets. -/
def ofTextAt (s : String) : Option (Except DescriptorError MethodDescriptor) :=
  if (Bytes.ofText s).head?.map Bytes.letter ≠ some '(' then
    some (.error (.unexpectedCharacter s 0 (s.toList.head?.getD '?')))
  else
    match readParametersAt s 1 with
    | none => none
    | some (.error e) => some (.error e)
    | some (.ok (parameters, offset)) =>
      match JavaType.readAt s offset with
      | none => none
      | some (.error e) => some (.error e)
      | some (.ok (returns, stop)) =>
        if stop ≠ s.utf8ByteSize then some (.error (.trailing s))
        else some (.ok ⟨parameters, returns⟩)

theorem readParameters_cons {whole : String} {c : Char} {cs : List Char} (hc : c ≠ ')') :
    readParameters whole (c :: cs) = match JavaType.read whole (c :: cs) with
      | .error e => .error e
      | .ok (t, rest) =>
        if t = .void then .error (.misplacedVoid whole)
        else (readParameters whole rest).map fun r => (t :: r.1, r.2) := by
  rw [readParameters, if_neg hc]
  split
  · rename_i hr
    rw [hr]
  · rename_i t rest hr
    rw [hr]
    dsimp only
    split_ifs
    · rfl
    · cases readParameters whole rest <;> rfl

theorem readParametersAt_cons {s : String} {offset : Nat} {tag : UInt8}
    (htag : (Bytes.ofText s)[offset]? = some tag) (hc : Bytes.letter tag ≠ ')') :
    readParametersAt s offset = match JavaType.readAt s offset with
      | none => none
      | some (.error e) => some (.error e)
      | some (.ok (t, stop)) =>
        if t = .void then some (.error (.misplacedVoid s))
        else (readParametersAt s stop).map (·.map fun r => (t :: r.1, r.2)) := by
  rw [readParametersAt, htag]
  dsimp only
  rw [if_neg hc]
  split
  · rename_i hr
    rw [hr]
  · rename_i hr
    rw [hr]
  · rename_i t stop hr
    rw [hr]
    dsimp only
    split_ifs
    · rfl
    · rcases readParametersAt s stop with _ | _ | _ <;> rfl

theorem readParametersAt_eq {s : String} {front cs : List Char} (hs : s.toList = front ++ cs) :
    readParametersAt s (utf8Length front) = some (JavaType.atOffsets s (readParameters s cs)) := by
  -- by recursion on what is left: one parameter takes several characters
  match cs, hs with
  | [], hs =>
    have hnone := Bytes.getElem?_ofText_end s
    rw [hs, List.append_nil] at hnone
    rw [readParametersAt, hnone, readParameters]
    rfl
  | c :: cs, hs =>
    obtain ⟨tag, hbyte, htag⟩ := Bytes.exists_head hs
    by_cases hc : c = ')'
    · have hsize : s.utf8ByteSize = utf8Length front + (c.utf8Size + utf8Length cs) := by
        rw [utf8ByteSize_eq, hs, utf8Length_append, utf8Length_cons]
      have hstop : utf8Length front + 1 = s.utf8ByteSize - utf8Length cs := by
        rw [hsize, hc, show (')').utf8Size = 1 from rfl]
        omega
      rw [readParametersAt, hbyte, readParameters, if_pos hc]
      dsimp only
      rw [if_pos ((Bytes.letter_eq_iff htag (by decide)).2 hc), hstop]
      rfl
    · have htag' : Bytes.letter tag ≠ ')' := mt (Bytes.letter_eq_iff htag (by decide)).1 hc
      rw [readParametersAt_cons hbyte htag', readParameters_cons hc, JavaType.readAt_eq hs]
      cases hr : JavaType.read s (c :: cs) with
      | error e => rfl
      | ok r =>
        obtain ⟨t, rest⟩ := r
        have hrest : s.toList = (front ++ t.descriptorChars) ++ rest := by
          rw [hs, JavaType.eq_of_read hr, List.append_assoc]
        dsimp only [JavaType.atOffsets, Except.map]
        rw [stop_eq hrest, readParametersAt_eq hrest]
        split_ifs
        · rfl
        · cases readParameters s rest <;> rfl
termination_by cs.length
decreasing_by exact JavaType.read_length hr

theorem ofText_of_open {s : String} {cs : List Char} (hs : s.toList = '(' :: cs) :
    ofText s = match readParameters s cs with
      | .error e => .error e
      | .ok (parameters, rest) =>
        match JavaType.read s rest with
        | .error e => .error e
        | .ok (returns, []) => .ok ⟨parameters, returns⟩
        | .ok (_, _ :: _) => .error (.trailing s) := by
  unfold ofText
  split
  · rename_i rest hopen
    obtain rfl : rest = cs := (List.cons.inj (hopen.symm.trans hs)).2
    rfl
  · rename_i hopen
    exact absurd hs (hopen cs)

theorem ofText_of_not_open {s : String} (hs : s.toList.head? ≠ some '(') :
    ofText s = .error (.unexpectedCharacter s 0 (s.toList.head?.getD '?')) := by
  unfold ofText
  split
  · rename_i hopen
    rw [hopen] at hs
    exact absurd rfl hs
  · rfl

theorem ofTextAt_eq (s : String) : ofTextAt s = some (ofText s) := by
  have hbytes : (Bytes.ofText s).head?.map Bytes.letter = some '(' ↔ s.toList.head? = some '(' := by
    cases hs : s.toList with
    | nil => simp [Bytes.ofText_eq, hs]
    | cons c cs =>
      obtain ⟨tag, hbyte, htag⟩ := Bytes.exists_head ((List.nil_append _).trans hs.symm).symm
      rw [utf8Length_nil, ← List.head?_eq_getElem?] at hbyte
      rw [hbyte, Option.map_some, Option.some.injEq, Bytes.letter_eq_iff htag (by decide),
        List.head?_cons, Option.some.injEq]
  by_cases hopen : s.toList.head? = some '('
  · obtain ⟨cs, hs⟩ := List.head?_eq_some_iff.1 hopen
    have hne : s.toList ≠ [] := by simp [hs]
    have hstart : s.toList = ['('] ++ cs := hs
    rw [ofTextAt, if_neg (not_not.2 (hbytes.2 hopen)), ofText_of_open hs,
      show (1 : Nat) = utf8Length ['('] from rfl, readParametersAt_eq hstart]
    cases hp : readParameters s cs with
    | error e => rfl
    | ok r =>
      obtain ⟨ts, rest⟩ := r
      have hrest : s.toList = ('(' :: (ts.flatMap JavaType.descriptorChars ++ [')'])) ++ rest := by
        rw [hs, eq_of_readParameters hp]
        simp
      dsimp only [JavaType.atOffsets, Except.map]
      rw [stop_eq hrest, JavaType.readAt_eq hrest]
      cases JavaType.read s rest with
      | error e => rfl
      | ok r =>
        obtain ⟨returns, left⟩ := r
        dsimp only [JavaType.atOffsets, Except.map]
        simp only [ne_eq, stop_eq_iff hne]
        cases left <;> rfl
  · rw [ofTextAt, if_pos (mt hbytes.1 hopen), ofText_of_not_open hopen]

end MethodDescriptor
end StubLinker
