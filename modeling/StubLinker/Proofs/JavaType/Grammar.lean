import Mathlib.Data.Set.Function
import StubLinker.Proofs.JavaType.WellFormed

namespace StubLinker

namespace ClassName

/-- A segment has a character at least, and among its characters neither a separator nor punctuation
of descriptors nor white space. -/
def IsSegment (cs : List Char) : Prop :=
  cs ≠ [] ∧ ∀ c ∈ cs, c ∉ ['.', '/', ';', '[', '<', '>'] ∧ Text.isBlank c = false

/-- Segments with a single `.` or `/` between them. -/
inductive IsName : List Char → Prop where
  | segment {cs : List Char} (h : IsSegment cs) : IsName cs
  | more {cs rest : List Char} {separator : Char} (h : IsSegment cs)
      (hs : separator = '.' ∨ separator = '/') (hr : IsName rest) : IsName (cs ++ separator :: rest)

theorem isSeparator_iff {c : Char} : isSeparator c = true ↔ c = '.' ∨ c = '/' := by
  simp [isSeparator]

theorem isSegmentChar_iff {c : Char} : isSegmentChar c = true ↔
    c ∉ ['.', '/', ';', '[', '<', '>'] ∧ Text.isBlank c = false := by
  simp [isSegmentChar, isSeparator]
  tauto

theorem IsSegment.forall_isSegmentChar {cs : List Char} (h : IsSegment cs) :
    ∀ c ∈ cs, isSegmentChar c = true :=
  fun c hc => isSegmentChar_iff.2 (h.2 c hc)

theorem isSegment_singleton {c : Char} (h : isSegmentChar c = true) : IsSegment [c] := by
  refine ⟨List.cons_ne_nil c [], ?_⟩
  intro d hd
  rw [List.mem_singleton.1 hd]
  exact isSegmentChar_iff.1 h

theorem IsSegment.concat {cs : List Char} {c : Char} (h : IsSegment cs)
    (hc : isSegmentChar c = true) : IsSegment (cs ++ [c]) := by
  refine ⟨by simp, ?_⟩
  intro d hd
  rcases List.mem_append.1 hd with hd | hd
  · exact h.2 d hd
  · exact (isSegment_singleton hc).2 d hd

theorem not_isSeparator {c : Char} (h : isSegmentChar c = true) : isSeparator c = false := by
  simp only [ClassName.isSegmentChar, Bool.and_eq_true, Bool.not_eq_true'] at h
  exact h.1.1

theorem completes_append {front : List Char} (h : ∀ c ∈ front, isSegmentChar c = true)
    (back : List Char) : completes false (front ++ back) = completes false back := by
  induction front with
  | nil => rfl
  | cons c front ih =>
    obtain ⟨hc, hfront⟩ := List.forall_mem_cons.1 h
    rw [List.cons_append, completes, not_isSeparator hc, if_neg Bool.false_ne_true, hc, ih hfront]
    rfl

theorem IsSegment.completes_append {cs : List Char} (h : IsSegment cs) (back : List Char) :
    completes true (cs ++ back) = completes false back := by
  cases cs with
  | nil => exact absurd rfl h.1
  | cons c cs =>
    obtain ⟨hc, hcs⟩ := List.forall_mem_cons.1 h.forall_isSegmentChar
    rw [List.cons_append, completes, not_isSeparator hc, if_neg Bool.false_ne_true, hc,
      ClassName.completes_append hcs]
    rfl

theorem IsName.completes {cs : List Char} (h : IsName cs) : completes true cs = true := by
  induction h with
  | segment h =>
    have hc := h.completes_append []
    rw [List.append_nil] at hc
    exact hc
  | more h hs _ ih =>
    rw [h.completes_append, ClassName.completes, if_pos (isSeparator_iff.2 hs), ih]
    rfl

/-- What completes a name is a name; what goes on with one is, behind any segment. -/
theorem isName_of_completes (cs : List Char) :
    (completes true cs = true → IsName cs) ∧
      (completes false cs = true → ∀ front, IsSegment front → IsName (front ++ cs)) := by
  induction cs with
  | nil =>
    constructor
    · intro h
      cases h
    · intro _ front hfront
      rw [List.append_nil]
      exact .segment hfront
  | cons c cs ih =>
    by_cases hs : isSeparator c = true
    · constructor
      · intro h
        rw [completes, if_pos hs] at h
        cases h
      · intro h front hfront
        rw [completes, if_pos hs] at h
        exact .more hfront (isSeparator_iff.1 hs) (ih.1 h)
    · constructor
      · intro h
        rw [completes, if_neg hs, Bool.and_eq_true] at h
        exact ih.2 h.2 [c] (isSegment_singleton h.1)
      · intro h front hfront
        rw [completes, if_neg hs, Bool.and_eq_true] at h
        rw [List.append_cons]
        exact ih.2 h.2 (front ++ [c]) (hfront.concat h.1)

theorem isValid_iff {name : String} : isValid name = true ↔ IsName name.toList :=
  ⟨(isName_of_completes name.toList).1, IsName.completes⟩

end ClassName

namespace JavaType

/-- The types that a descriptor can denote. -/
inductive Denotable : JavaType → Prop where
  | void : Denotable void
  | primitive (p : Primitive) : Denotable (primitive p)
  | object {name : String} (h : ClassName.IsName name.toList) : Denotable (object name)
  | array {component : JavaType} (h : Denotable component) (hv : component ≠ .void) :
      Denotable (array component)

theorem wellFormed_iff {t : JavaType} : t.WellFormed ↔ t.Denotable := by
  constructor
  · intro h
    induction t with
    | void => exact .void
    | primitive p => exact .primitive p
    | object name => exact .object (ClassName.isValid_iff.1 h)
    | array component ih => exact .array (ih h.1) h.2
  · intro h
    induction h with
    | void => trivial
    | primitive p => trivial
    | object h => exact ClassName.isValid_iff.2 h
    | array _ hv ih => exact ⟨ih, hv⟩

theorem eq_letter {c : Char} {p : Primitive} (h : Primitive.ofLetter? c = some p) :
    c = p.letter := by
  unfold Primitive.ofLetter? at h
  split at h <;> cases h <;> rfl

theorem eq_of_readClass {whole : String} {cs rest : List Char} {t : JavaType}
    (h : readClass whole cs = .ok (t, rest)) : 'L' :: cs = t.descriptorChars ++ rest := by
  have hcs : cs.takeWhile (· != ';') ++ cs.dropWhile (· != ';') = cs := List.takeWhile_append_dropWhile
  unfold readClass at h
  cases hd : cs.dropWhile (· != ';') with
  | nil =>
    rw [hd] at h
    cases h
  | cons c tail =>
    have hc : c = ';' := by
      have hhead := List.head?_dropWhile_not (· != ';') cs
      rw [hd] at hhead
      simpa using hhead
    rw [hd] at h hcs
    dsimp only at h
    split at h
    · cases h
      subst hc
      rw [descriptorChars, String.toList_ofList, List.cons_append, List.append_assoc,
        List.singleton_append, hcs]
    · cases h

theorem eq_of_read {whole : String} {cs rest : List Char} {t : JavaType}
    (h : read whole cs = .ok (t, rest)) : cs = t.descriptorChars ++ rest := by
  induction cs generalizing t rest with
  | nil => cases h
  | cons c cs ih =>
    unfold read at h
    split at h
    · rename_i hc
      cases h
      rw [hc]
      rfl
    split at h
    · rename_i hc
      rw [hc]
      exact eq_of_readClass h
    split at h
    · rename_i hc
      split at h
      · cases h
      · rename_i hr
        split at h
        · cases h
        · cases h
          rw [hc, ih hr]
          rfl
    · split at h
      · rename_i p hp
        cases h
        rw [eq_letter hp]
        rfl
      · cases h

theorem read_eq_ok_iff {whole : String} {cs rest : List Char} {t : JavaType} :
    read whole cs = .ok (t, rest) ↔ t.Denotable ∧ cs = t.descriptorChars ++ rest := by
  constructor
  · intro h
    exact ⟨wellFormed_iff.1 (wellFormed_of_read h), eq_of_read h⟩
  · rintro ⟨h, rfl⟩
    exact read_descriptorChars whole (wellFormed_iff.2 h) rest

theorem denotes_iff {s : String} {t : JavaType} :
    ofDescriptor s = .ok t ↔ t.Denotable ∧ t.descriptor = s := by
  constructor
  · intro h
    refine ⟨wellFormed_iff.1 (wellFormed_of_ofDescriptor h), ?_⟩
    unfold ofDescriptor at h
    split at h
    · cases h
    split at h
    · cases h
    · rename_i hr
      cases h
      apply String.toList_injective
      rw [toList_descriptor, eq_of_read hr, List.append_nil]
    · cases h
  · rintro ⟨h, rfl⟩
    exact ofDescriptor_descriptor (wellFormed_iff.2 h)

end JavaType

namespace MethodDescriptor

/-- The method types that a descriptor can denote: no parameter is `void`. -/
structure Denotable (d : MethodDescriptor) : Prop where
  parameters : ∀ t ∈ d.parameters, t.Denotable ∧ t ≠ .void
  returns : d.returns.Denotable

theorem toList_display (d : MethodDescriptor) : d.display.toList =
    '(' :: (d.parameters.flatMap JavaType.descriptorChars ++ ')' :: d.returns.descriptorChars) :=
  String.toList_ofList

theorem readParameters_of_read {whole : String} {cs rest : List Char} {t : JavaType}
    (h : JavaType.read whole cs = .ok (t, rest)) (hv : t ≠ .void) :
    readParameters whole cs = (readParameters whole rest).map fun r => (t :: r.1, r.2) := by
  cases cs with
  | nil => cases h
  | cons c cs =>
    have hc : c ≠ ')' := by
      rintro rfl
      cases h
    rw [readParameters, if_neg hc]
    split
    · rename_i hr
      rw [h] at hr
      cases hr
    · rename_i hr
      rw [h] at hr
      cases hr
      rw [if_neg hv]
      cases readParameters whole rest <;> rfl

theorem readParameters_append (whole : String) {ts : List JavaType}
    (h : ∀ t ∈ ts, t.Denotable ∧ t ≠ .void) (rest : List Char) :
    readParameters whole (ts.flatMap JavaType.descriptorChars ++ rest) =
      (readParameters whole rest).map fun r => (ts ++ r.1, r.2) := by
  induction ts with
  | nil =>
    rw [List.flatMap_nil, List.nil_append]
    cases readParameters whole rest <;> rfl
  | cons t ts ih =>
    obtain ⟨⟨ht, hv⟩, hts⟩ := List.forall_mem_cons.1 h
    rw [List.flatMap_cons, List.append_assoc,
      readParameters_of_read (JavaType.read_eq_ok_iff.2 ⟨ht, rfl⟩) hv, ih hts]
    cases readParameters whole rest <;> rfl

theorem readParameters_descriptorChars (whole : String) {ts : List JavaType}
    (h : ∀ t ∈ ts, t.Denotable ∧ t ≠ .void) (rest : List Char) :
    readParameters whole (ts.flatMap JavaType.descriptorChars ++ ')' :: rest) = .ok (ts, rest) := by
  have hclose : readParameters whole (')' :: rest) = .ok ([], rest) := by
    rw [readParameters, if_pos rfl]
  rw [readParameters_append whole h, hclose, Except.map, List.append_nil]

theorem eq_of_readParameters {whole : String} {cs rest : List Char} {ts : List JavaType}
    (h : readParameters whole cs = .ok (ts, rest)) :
    cs = ts.flatMap JavaType.descriptorChars ++ ')' :: rest := by
  induction cs using readParameters.induct whole generalizing ts rest with
  | case1 => simp [readParameters] at h
  | case2 tail =>
    rw [readParameters, if_pos rfl] at h
    cases h
    rfl
  | case3 => grind [readParameters]
  | case4 => grind [readParameters]
  | case5 => grind [readParameters]
  | case6 c tail hc t left hr hv us rest' hus ih =>
    rw [readParameters_of_read hr hv, hus] at h
    cases h
    rw [JavaType.eq_of_read hr, ih hus, List.flatMap_cons, List.append_assoc]

theorem denotes_iff {s : String} {d : MethodDescriptor} :
    ofText s = .ok d ↔ d.Denotable ∧ d.display = s := by
  constructor
  · intro h
    obtain ⟨hparameters, hreturns⟩ := wellFormed_of_ofText h
    refine ⟨⟨?_, JavaType.wellFormed_iff.1 hreturns⟩, ?_⟩
    · intro t ht
      exact ⟨JavaType.wellFormed_iff.1 (hparameters t ht).1, (hparameters t ht).2⟩
    · apply String.toList_injective
      unfold ofText at h
      split at h
      · rename_i cs hs
        split at h
        · cases h
        · rename_i hp
          split at h
          · cases h
          · rename_i hr
            cases h
            rw [toList_display, hs, eq_of_readParameters hp, JavaType.eq_of_read hr, List.append_nil]
          · cases h
      · cases h
  · rintro ⟨h, rfl⟩
    have hp := readParameters_descriptorChars d.display h.parameters d.returns.descriptorChars
    have hr : JavaType.read d.display d.returns.descriptorChars = .ok (d.returns, []) :=
      JavaType.read_eq_ok_iff.2 ⟨h.returns, (List.append_nil _).symm⟩
    simp only [ofText, toList_display, hp, hr]

/-- Reading undoes printing, and no text is read but the printed ones: of types and of method
descriptors alike, what can be denoted stands for the accepted texts one to one. -/
theorem readers_invert_printers :
    (∀ s t, JavaType.ofDescriptor s = .ok t ↔ t.Denotable ∧ t.descriptor = s) ∧
      (∀ s d, ofText s = .ok d ↔ d.Denotable ∧ d.display = s) ∧
      Set.BijOn JavaType.descriptor {t | t.Denotable} {s | ∃ t, JavaType.ofDescriptor s = .ok t} ∧
      Set.BijOn display {d | d.Denotable} {s | ∃ d, ofText s = .ok d} := by
  refine ⟨fun s t => JavaType.denotes_iff, fun s d => denotes_iff, ⟨?_, ?_, ?_⟩, ⟨?_, ?_, ?_⟩⟩
  · intro t ht
    exact ⟨t, JavaType.denotes_iff.2 ⟨ht, rfl⟩⟩
  · intro t ht u hu htu
    have hread := JavaType.denotes_iff.2 ⟨ht, htu⟩
    exact Except.ok.inj (hread.symm.trans (JavaType.denotes_iff.2 ⟨hu, rfl⟩))
  · rintro s ⟨t, hs⟩
    exact ⟨t, JavaType.denotes_iff.1 hs⟩
  · intro d hd
    exact ⟨d, denotes_iff.2 ⟨hd, rfl⟩⟩
  · intro d hd e he hde
    have hread := denotes_iff.2 ⟨hd, hde⟩
    exact Except.ok.inj (hread.symm.trans (denotes_iff.2 ⟨he, rfl⟩))
  · rintro s ⟨d, hs⟩
    exact ⟨d, denotes_iff.1 hs⟩

end MethodDescriptor

end StubLinker
