import StubLinker.Proofs.JavaType.Cursor

namespace StubLinker

open Text

/-- The reader is right to blame a character of a text: it is the one at the byte offset, some text
that is accepted goes on from what stands before it, and every text that goes on with it is refused
with the same offset and the same character. -/
def Blames {α : Type} (reader : String → Except DescriptorError α) (s : String) (offset : Nat)
    (found : Char) : Prop :=
  (⟨offset⟩ : String.Pos.Raw).IsValid s ∧
    ∃ front back : String, s = front ++ (String.singleton found ++ back) ∧
      front.utf8ByteSize = offset ∧
      (∃ rest accepted, reader (front ++ rest) = .ok accepted) ∧
      ∀ rest : String, reader (front ++ (String.singleton found ++ rest)) =
        .error (.unexpectedCharacter (front ++ (String.singleton found ++ rest)) offset found)

theorem blames_of_chars {α : Type} {reader : String → Except DescriptorError α} {s : String}
    {front back : List Char} {found : Char} (more : List Char) (accepted : α)
    (hs : s.toList = front ++ found :: back)
    (hviable : reader (String.ofList (front ++ more)) = .ok accepted)
    (hblame : ∀ (t : String) (rest : List Char), t.toList = front ++ found :: rest →
      reader t = .error (.unexpectedCharacter t (utf8Length front) found)) :
    Blames reader s (utf8Length front) found := by
  have hfront : (String.ofList front).utf8ByteSize = utf8Length front := utf8ByteSize_ofList front
  refine ⟨?_, String.ofList front, String.ofList back, ?_, hfront,
    ⟨String.ofList more, accepted, ?_⟩, ?_⟩
  · rw [← isSome_dropBytes, hs, dropBytes_append]
    rfl
  · apply String.toList_injective
    simp [hs]
  · rw [← String.ofList_append, hviable]
  · intro rest
    exact hblame _ rest.toList (by simp)

namespace JavaType

def StartsNone (c : Char) : Prop :=
  c ≠ 'V' ∧ c ≠ 'L' ∧ c ≠ '[' ∧ Primitive.ofLetter? c = none

theorem readClass_ne_unexpected {whole d : String} {cs : List Char} {offset : Nat} {found : Char} :
    readClass whole cs ≠ .error (.unexpectedCharacter d offset found) := by
  unfold readClass
  dsimp only
  split
  · simp
  · split <;> simp

theorem read_brackets {found : Char} (h : StartsNone found) (whole : String) (n : Nat)
    (back : List Char) : read whole (List.replicate n '[' ++ found :: back) =
      .error (.unexpectedCharacter whole (whole.utf8ByteSize - utf8Length (found :: back)) found) := by
  obtain ⟨hV, hL, hA, hp⟩ := h
  induction n with
  | zero => simp [read, hV, hL, hA, hp]
  | succ n ih =>
    rw [List.replicate_succ, List.cons_append, read, ih]
    rfl

/-- A type cannot be read on at a character just if only opening brackets stand before it and no type
starts with it. -/
theorem read_eq_unexpected_iff {whole d : String} {cs : List Char} {offset : Nat} {found : Char} :
    read whole cs = .error (.unexpectedCharacter d offset found) ↔
      d = whole ∧ StartsNone found ∧ ∃ n back, cs = List.replicate n '[' ++ found :: back ∧
        offset = whole.utf8ByteSize - utf8Length (found :: back) := by
  constructor
  · intro h
    induction cs with
    | nil => cases h
    | cons c cs ih =>
      rw [read] at h
      split_ifs at h with hV hL hA
      · exact absurd h readClass_ne_unexpected
      · cases hr : read whole cs with
        | error e =>
          rw [hr] at h
          cases h
          obtain ⟨hd, hfound, n, back, hcs, hoffset⟩ := ih hr
          exact ⟨hd, hfound, n + 1, back, by rw [hA, hcs]; rfl, hoffset⟩
        | ok r =>
          rw [hr] at h
          dsimp only at h
          split_ifs at h
          cases h
      · cases hp : Primitive.ofLetter? c with
        | some p =>
          rw [hp] at h
          cases h
        | none =>
          rw [hp] at h
          cases h
          exact ⟨rfl, ⟨hV, hL, hA, hp⟩, 0, cs, rfl, rfl⟩
  · rintro ⟨rfl, hfound, n, back, rfl, rfl⟩
    exact read_brackets hfound d n back

theorem exists_brackets (n : Nat) :
    ∃ t : JavaType, (t.Denotable ∧ t ≠ void) ∧ t.descriptorChars = List.replicate n '[' ++ ['I'] := by
  induction n with
  | zero => exact ⟨.primitive .int, ⟨.primitive .int, nofun⟩, rfl⟩
  | succ n ih =>
    obtain ⟨t, ⟨ht, hv⟩, hchars⟩ := ih
    refine ⟨.array t, ⟨.array ht hv, nofun⟩, ?_⟩
    rw [descriptorChars, hchars, List.replicate_succ, List.cons_append]

theorem ofDescriptor_of_ne {s : String} (hs : s.toList ≠ []) :
    ofDescriptor s = match read s s.toList with
      | .error e => .error e
      | .ok (t, []) => .ok t
      | .ok (_, _ :: _) => .error (.trailing s) := by
  unfold ofDescriptor
  split
  · rename_i hempty
    exact absurd (by rw [String.isEmpty_iff.1 hempty]; rfl) hs
  · rfl

/-- A descriptor that is refused for a character is refused at the first one that no descriptor can
have there. -/
theorem blames_of_ofDescriptor {s d : String} {offset : Nat} {found : Char}
    (h : ofDescriptor s = .error (.unexpectedCharacter d offset found)) :
    d = s ∧ Blames ofDescriptor s offset found := by
  have hr : read s s.toList = .error (.unexpectedCharacter d offset found) := by
    unfold ofDescriptor at h
    split at h
    · cases h
    split at h
    · cases h
      assumption
    · cases h
    · cases h
  obtain ⟨hd, hfound, n, back, hs, hoffset⟩ := read_eq_unexpected_iff.1 hr
  rw [stop_eq hs] at hoffset
  subst hoffset
  obtain ⟨t, ⟨ht, -⟩, hchars⟩ := exists_brackets n
  refine ⟨hd, blames_of_chars ['I'] t hs ?_ ?_⟩
  · exact denotes_iff.2 ⟨ht, by rw [descriptor, hchars]⟩
  · intro u rest hu
    have hread := read_brackets hfound u n rest
    rw [← hu, stop_eq hu] at hread
    rw [ofDescriptor_of_ne (by simp [hu]), hread]

end JavaType

namespace MethodDescriptor

open JavaType (StartsNone)

theorem readParameters_brackets {found : Char} (h : StartsNone found) (whole : String) {n : Nat}
    (hn : n = 0 → found ≠ ')') (back : List Char) :
    readParameters whole (List.replicate n '[' ++ found :: back) =
      .error (.unexpectedCharacter whole (whole.utf8ByteSize - utf8Length (found :: back)) found) := by
  have hread := JavaType.read_brackets h whole n back
  cases n with
  | zero =>
    rw [List.replicate_zero, List.nil_append] at hread ⊢
    rw [readParameters_cons (hn rfl), hread]
  | succ n =>
    rw [List.replicate_succ, List.cons_append] at hread ⊢
    rw [readParameters_cons (by decide), hread]

/-- The parameters cannot be read on at a character just if some whole parameters and after them only
opening brackets stand before it, and neither a type starts with it nor does it end the parameters. -/
theorem readParameters_eq_unexpected_iff {whole d : String} {cs : List Char} {offset : Nat}
    {found : Char} : readParameters whole cs = .error (.unexpectedCharacter d offset found) ↔
      d = whole ∧ StartsNone found ∧ ∃ (ts : List JavaType) (n : Nat) (back : List Char),
        (∀ t ∈ ts, t.Denotable ∧ t ≠ .void) ∧ (n = 0 → found ≠ ')') ∧
        cs = ts.flatMap JavaType.descriptorChars ++ (List.replicate n '[' ++ found :: back) ∧
        offset = whole.utf8ByteSize - utf8Length (found :: back) := by
  constructor
  · intro h
    -- on the recursion of the reader, which takes a whole parameter at a time
    induction cs using readParameters.induct whole with
    | case1 =>
      rw [readParameters] at h
      cases h
    | case2 tail =>
      rw [readParameters, if_pos rfl] at h
      cases h
    | case3 c tail hc e hr =>
      rw [readParameters_cons hc, hr] at h
      cases h
      obtain ⟨hd, hfound, n, back, hcs, hoffset⟩ := JavaType.read_eq_unexpected_iff.1 hr
      refine ⟨hd, hfound, [], n, back, by simp, ?_, hcs, hoffset⟩
      rintro rfl
      cases hcs
      exact hc
    | case4 c tail hc left hr =>
      rw [readParameters_cons hc, hr] at h
      cases h
    | case5 c tail hc t left hr hv e he ih =>
      rw [readParameters_cons hc, hr] at h
      dsimp only at h
      rw [if_neg hv, he] at h
      cases h
      obtain ⟨hd, hfound, ts, n, back, hts, hn, hleft, hoffset⟩ := ih he
      obtain ⟨ht, hcs⟩ := JavaType.read_eq_ok_iff.1 hr
      refine ⟨hd, hfound, t :: ts, n, back, List.forall_mem_cons.2 ⟨⟨ht, hv⟩, hts⟩, hn, ?_, hoffset⟩
      rw [hcs, hleft, List.flatMap_cons, List.append_assoc]
    | case6 c tail hc t left hr hv us rest' hus ih =>
      rw [readParameters_cons hc, hr] at h
      dsimp only at h
      rw [if_neg hv, hus] at h
      cases h
  · rintro ⟨rfl, hfound, ts, n, back, hts, hn, rfl, rfl⟩
    rw [readParameters_append _ hts, readParameters_brackets hfound _ hn]
    rfl

theorem blames_in_parameters {s : String} {ts : List JavaType} {n : Nat} {found : Char}
    {back : List Char} (hts : ∀ t ∈ ts, t.Denotable ∧ t ≠ .void) (hfound : StartsNone found)
    (hn : n = 0 → found ≠ ')')
    (hs : s.toList = '(' :: (ts.flatMap JavaType.descriptorChars ++ List.replicate n '[') ++
      found :: back) :
    Blames ofText s
      (utf8Length ('(' :: (ts.flatMap JavaType.descriptorChars ++ List.replicate n '['))) found := by
  obtain ⟨t, ht, hchars⟩ := JavaType.exists_brackets n
  refine blames_of_chars ['I', ')', 'V'] ⟨ts ++ [t], .void⟩ hs ?_ ?_
  · refine denotes_iff.2 ⟨⟨List.forall_mem_append.2 ⟨hts, by simpa using ht⟩, .void⟩, ?_⟩
    apply String.toList_injective
    simp [toList_display, hchars, JavaType.descriptorChars]
  · intro t rest ht
    have hopen : t.toList = '(' :: (ts.flatMap JavaType.descriptorChars ++
        (List.replicate n '[' ++ found :: rest)) := by simp [ht]
    have hread := readParameters_brackets hfound t hn rest
    rw [stop_eq ht] at hread
    rw [ofText_of_open hopen, readParameters_append t hts, hread]
    rfl

theorem blames_in_returns {s : String} {ts : List JavaType} {n : Nat} {found : Char}
    {back : List Char} (hts : ∀ t ∈ ts, t.Denotable ∧ t ≠ .void) (hfound : StartsNone found)
    (hs : s.toList = '(' :: (ts.flatMap JavaType.descriptorChars ++ ')' :: List.replicate n '[') ++
      found :: back) :
    Blames ofText s
      (utf8Length ('(' :: (ts.flatMap JavaType.descriptorChars ++ ')' :: List.replicate n '[')))
      found := by
  obtain ⟨t, ⟨ht, -⟩, hchars⟩ := JavaType.exists_brackets n
  refine blames_of_chars ['I'] ⟨ts, t⟩ hs ?_ ?_
  · refine denotes_iff.2 ⟨⟨hts, ht⟩, ?_⟩
    apply String.toList_injective
    simp [toList_display, hchars]
  · intro t rest ht
    have hopen : t.toList = '(' :: (ts.flatMap JavaType.descriptorChars ++
        ')' :: (List.replicate n '[' ++ found :: rest)) := by simp [ht]
    have hread := JavaType.read_brackets hfound t n rest
    rw [stop_eq ht] at hread
    rw [ofText_of_open hopen, readParameters_descriptorChars t hts]
    dsimp only
    rw [hread]

theorem blames_at_start {s : String} {found : Char} {back : List Char} (hfound : found ≠ '(')
    (hs : s.toList = found :: back) : Blames ofText s 0 found := by
  have hs' : s.toList = [] ++ found :: back := hs
  refine blames_of_chars ['(', ')', 'V'] ⟨[], .void⟩ hs' ?_ ?_
  · exact denotes_iff.2 ⟨⟨nofun, .void⟩, rfl⟩
  · intro t rest ht
    have hne : t.toList.head? ≠ some '(' := by simpa [ht] using hfound
    rw [ofText_of_not_open hne, ht]
    rfl

/-- A method descriptor that is refused for a character is refused at the first one that no method
descriptor can have there: at its start, among the parameters or in the return type. -/
theorem blames_of_ofText {s d : String} {offset : Nat} {found : Char} (hne : s ≠ "")
    (h : ofText s = .error (.unexpectedCharacter d offset found)) :
    d = s ∧ Blames ofText s offset found := by
  -- among the parameters, in the return type, or at the very start
  by_cases hopen : s.toList.head? = some '('
  · obtain ⟨cs, hs⟩ := List.head?_eq_some_iff.1 hopen
    rw [ofText_of_open hs] at h
    cases hp : readParameters s cs with
    | error e =>
      rw [hp] at h
      cases h
      obtain ⟨hd, hfound, ts, n, back, hts, hn, hcs, hoffset⟩ := readParameters_eq_unexpected_iff.1 hp
      have hfront : s.toList = '(' :: (ts.flatMap JavaType.descriptorChars ++ List.replicate n '[') ++
          found :: back := by simp [hs, hcs]
      rw [hoffset, stop_eq hfront]
      exact ⟨hd, blames_in_parameters hts hfound hn hfront⟩
    | ok r =>
      obtain ⟨ts, rest⟩ := r
      have hts : ∀ t ∈ ts, t.Denotable ∧ t ≠ .void := by
        intro t ht
        obtain ⟨hwell, hv⟩ := readParameters_wellFormed hp t ht
        exact ⟨JavaType.wellFormed_iff.1 hwell, hv⟩
      rw [hp] at h
      dsimp only at h
      cases hr : JavaType.read s rest with
      | error e =>
        rw [hr] at h
        cases h
        obtain ⟨hd, hfound, n, back, hrest, hoffset⟩ := JavaType.read_eq_unexpected_iff.1 hr
        have hfront : s.toList = '(' :: (ts.flatMap JavaType.descriptorChars ++
            ')' :: List.replicate n '[') ++ found :: back := by
          simp [hs, eq_of_readParameters hp, hrest]
        rw [hoffset, stop_eq hfront]
        exact ⟨hd, blames_in_returns hts hfound hfront⟩
      | ok r =>
        obtain ⟨returns, left⟩ := r
        rw [hr] at h
        cases left <;> cases h
  · rw [ofText_of_not_open hopen] at h
    cases hs : s.toList with
    | nil => exact absurd (String.toList_injective hs) hne
    | cons c cs =>
      rw [hs] at h hopen
      cases h
      exact ⟨rfl, blames_at_start (by simpa using hopen) hs⟩

end MethodDescriptor

/-- No cut of a descriptor is missed, of a type or of a method, and the character that is blamed is
the first impossible one. -/
theorem refusals_blame_first_impossible {s : String} (hs : s ≠ "") :
    JavaType.ofDescriptorAt s = some (JavaType.ofDescriptor s) ∧
      MethodDescriptor.ofTextAt s = some (MethodDescriptor.ofText s) ∧
      (∀ d offset found,
        JavaType.ofDescriptor s = .error (.unexpectedCharacter d offset found) →
          d = s ∧ Blames JavaType.ofDescriptor s offset found) ∧
      (∀ d offset found,
        MethodDescriptor.ofText s = .error (.unexpectedCharacter d offset found) →
          d = s ∧ Blames MethodDescriptor.ofText s offset found) :=
  ⟨JavaType.ofDescriptorAt_eq s, MethodDescriptor.ofTextAt_eq s,
    fun _ _ _ h => JavaType.blames_of_ofDescriptor h,
    fun _ _ _ h => MethodDescriptor.blames_of_ofText hs h⟩

/-- A character of two bytes behind a bracket, and one in a list of parameters behind a class. -/
theorem refusals_blame_two_byte_characters :
    Blames JavaType.ofDescriptor "[[é;" 2 'é' ∧
      Blames MethodDescriptor.ofText "(Lé;é)V" 5 'é' :=
  ⟨((refusals_blame_first_impossible (s := "[[é;") (by decide)).2.2.1 "[[é;" 2 'é'
      (by decide +kernel)).2,
    ((refusals_blame_first_impossible (s := "(Lé;é)V") (by decide)).2.2.2 "(Lé;é)V" 5 'é'
      (by decide +kernel)).2⟩

end StubLinker
