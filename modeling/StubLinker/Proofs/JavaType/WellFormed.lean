import StubLinker.JavaType.Descriptor

namespace StubLinker

namespace ClassName

theorem completes_internal (cs : List Char) (fresh : Bool) :
    completes fresh (cs.map fun c => if c == '.' then '/' else c) = completes fresh cs := by
  induction cs generalizing fresh with
  | nil => rfl
  | cons c cs ih =>
    simp only [beq_iff_eq] at ih
    by_cases hc : c = '.'
    · subst hc
      simp [completes, isSeparator, ih]
    · simp [completes, hc, ih]

theorem isValid_internal (name : String) : isValid (internal name) = isValid name := by
  simp only [isValid, internal, Text.toList_replaceIf, completes_internal]

theorem isSegmentChar_of_completes {cs : List Char} {fresh : Bool} (h : completes fresh cs = true)
    {c : Char} (hc : c ∈ cs) : isSeparator c = true ∨ isSegmentChar c = true := by
  induction cs generalizing fresh with
  | nil => cases hc
  | cons d cs ih =>
    rw [completes] at h
    by_cases hd : isSeparator d = true
    · simp only [hd, ↓reduceIte, Bool.and_eq_true] at h
      rcases List.mem_cons.1 hc with rfl | hc
      · exact .inl hd
      · exact ih h.2 hc
    · simp only [hd, Bool.false_eq_true, ↓reduceIte, Bool.and_eq_true] at h
      rcases List.mem_cons.1 hc with rfl | hc
      · exact .inr h.1
      · exact ih h.2 hc

theorem not_punctuation_of_isValid {name : String} (h : isValid name = true) {c : Char}
    (hc : c ∈ name.toList) : c ≠ ';' ∧ c ≠ '[' := by
  rcases isSegmentChar_of_completes h hc with hs | hs
  · constructor <;> rintro rfl <;> exact absurd hs (by decide)
  · constructor <;> rintro rfl <;> exact absurd hs (by decide)

end ClassName

namespace JavaType

/-- The types that can be written: class names are valid, and arrays hold values. -/
def WellFormed : JavaType → Prop
  | void => True
  | primitive _ => True
  | object name => ClassName.isValid name = true
  | array component => component.WellFormed ∧ component ≠ void

theorem wellFormed_of_readClass {whole : String} {cs rest : List Char} {t : JavaType}
    (h : readClass whole cs = .ok (t, rest)) : t.WellFormed := by
  unfold readClass at h
  cases hd : cs.dropWhile (· != ';') with
  | nil => simp [hd] at h
  | cons c tail =>
    simp only [hd] at h
    split at h
    · rename_i hv
      cases h
      exact hv
    · cases h

theorem wellFormed_of_read {whole : String} {cs rest : List Char} {t : JavaType}
    (h : read whole cs = .ok (t, rest)) : t.WellFormed := by
  induction cs generalizing t rest with
  | nil => cases h
  | cons c cs ih =>
    unfold read at h
    split at h
    · cases h
      trivial
    split at h
    · exact wellFormed_of_readClass h
    split at h
    · split at h
      · cases h
      · rename_i hr
        split at h
        · cases h
        · rename_i hv
          cases h
          exact ⟨ih hr, hv⟩
    · split at h
      · cases h
        trivial
      · cases h

theorem wellFormed_of_ofDescriptor {s : String} {t : JavaType} (h : ofDescriptor s = .ok t) :
    t.WellFormed := by
  unfold ofDescriptor at h
  split at h
  · cases h
  · split at h
    · cases h
    · rename_i hr
      cases h
      exact wellFormed_of_read hr
    · cases h

theorem wellFormed_of_ofSource {s : String} {t : JavaType} (h : ofSource s = .ok t) :
    t.WellFormed := by
  unfold ofSource at h
  dsimp only at h
  split at h
  · cases h
  split at h
  · cases h
    trivial
  split at h
  · cases h
    trivial
  split at h
  · exact wellFormed_of_ofDescriptor h
  split at h
  · rename_i hv
    cases h
    exact (ClassName.isValid_internal _).trans hv
  · cases h

theorem readClass_name (whole : String) {name : String} (h : ClassName.isValid name = true)
    (rest : List Char) : readClass whole (name.toList ++ ';' :: rest) = .ok (.object name, rest) := by
  have hne : ∀ c ∈ name.toList, (c != ';') = true := fun c hc => by
    simpa using (ClassName.not_punctuation_of_isValid h hc).1
  have htake : (name.toList ++ ';' :: rest).takeWhile (· != ';') = name.toList := by
    rw [List.takeWhile_append_of_pos hne]
    simp
  have hdrop : (name.toList ++ ';' :: rest).dropWhile (· != ';') = ';' :: rest := by
    rw [List.dropWhile_append_of_pos hne]
    simp
  simp only [readClass, htake, hdrop, String.ofList_toList, h, ↓reduceIte]

theorem read_descriptorChars (whole : String) {t : JavaType} (h : t.WellFormed)
    (rest : List Char) : read whole (t.descriptorChars ++ rest) = .ok (t, rest) := by
  induction t with
  | void => rfl
  | primitive p => cases p <;> rfl
  | object name =>
    rw [descriptorChars, List.cons_append, List.append_assoc, List.singleton_append, read]
    simpa using readClass_name whole h rest
  | array component ih =>
    obtain ⟨hc, hv⟩ := h
    rw [descriptorChars, List.cons_append, read]
    simp [ih hc, hv]

theorem ofDescriptor_descriptor {t : JavaType} (h : t.WellFormed) :
    ofDescriptor t.descriptor = .ok t := by
  have hne : t.descriptor.isEmpty = false := by
    rw [Bool.eq_false_iff]
    intro he
    have hc := congrArg String.toList (String.isEmpty_iff.1 he)
    exact t.descriptorChars_ne_nil (by simpa using hc)
  have hr := read_descriptorChars t.descriptor h []
  rw [List.append_nil] at hr
  simp [ofDescriptor, hne, hr]

end JavaType

namespace MethodDescriptor

theorem readParameters_wellFormed {whole : String} {cs rest : List Char} {ts : List JavaType}
    (h : readParameters whole cs = .ok (ts, rest)) :
    ∀ t ∈ ts, t.WellFormed ∧ t ≠ .void := by
  induction cs using readParameters.induct whole generalizing ts rest with
  | case1 => simp [readParameters] at h
  | case2 tail =>
    rw [readParameters] at h
    simp only [↓reduceIte, Except.ok.injEq, Prod.mk.injEq] at h
    rw [← h.1]
    intro t ht
    cases ht
  | case3 => grind [readParameters]
  | case4 => grind [readParameters]
  | case5 => grind [readParameters]
  | case6 => grind [readParameters, JavaType.wellFormed_of_read]

/-- The parts of a method descriptor that was read are well formed, and no parameter is `void`. -/
theorem wellFormed_of_ofText {s : String} {d : MethodDescriptor} (h : ofText s = .ok d) :
    (∀ t ∈ d.parameters, t.WellFormed ∧ t ≠ .void) ∧ d.returns.WellFormed := by
  unfold ofText at h
  split at h
  · split at h
    · cases h
    · rename_i hp
      split at h
      · cases h
      · rename_i hr
        cases h
        exact ⟨readParameters_wellFormed hp, JavaType.wellFormed_of_read hr⟩
      · cases h
  · cases h

end MethodDescriptor

end StubLinker
