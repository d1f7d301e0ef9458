import StubLinker.Proofs.JavaType.Grammar

namespace StubLinker

namespace Text

/-- Every character of the text is white space. -/
def AllBlank (s : String) : Prop :=
  ∀ c ∈ s.toList, isBlank c = true

theorem dropWhile_of_not_blank {cs : List Char} (h : ∀ c ∈ cs, isBlank c = false) :
    cs.dropWhile isBlank = cs := by
  cases cs with
  | nil => rfl
  | cons c cs => rw [List.dropWhile_cons_of_neg (by simp [h c])]

/-- Trimming leaves what stands between two runs of white space, if it has none itself. -/
theorem trimBlank_append {front s back : String} (hfront : AllBlank front)
    (hs : ∀ c ∈ s.toList, isBlank c = false) (hback : AllBlank back) :
    trimBlank (front ++ s ++ back) = s := by
  have hback' : ∀ c ∈ back.toList.reverse, isBlank c = true :=
    fun c hc => hback c (List.mem_reverse.1 hc)
  have hs' : ∀ c ∈ s.toList.reverse, isBlank c = false := fun c hc => hs c (List.mem_reverse.1 hc)
  have hend : ((s.toList ++ back.toList).dropWhile isBlank).reverse.dropWhile isBlank =
      s.toList.reverse := by
    cases hchars : s.toList with
    | nil =>
      have hall : (back.toList ++ []).dropWhile isBlank = [] := List.dropWhile_append_of_pos hback
      rw [List.append_nil] at hall
      rw [List.nil_append, hall]
      rfl
    | cons c cs =>
      rw [hchars] at hs hs'
      rw [List.cons_append, List.dropWhile_cons_of_neg (by simp [hs c]), ← List.cons_append,
        List.reverse_append, List.dropWhile_append_of_pos hback', dropWhile_of_not_blank hs']
  rw [trimBlank, String.toList_append, String.toList_append, List.append_assoc,
    List.dropWhile_append_of_pos hfront, hend, List.reverse_reverse, String.ofList_toList]

end Text

namespace ClassName

theorem internal_source {name : String} (h : '.' ∉ name.toList) : internal (source name) = name := by
  apply String.toList_injective
  rw [internal, source, Text.toList_replaceIf, Text.toList_replaceIf, List.map_map]
  have hid : ∀ c ∈ name.toList, ((fun x => if x == '.' then '/' else x) ∘
      fun x => if x == '/' then '.' else x) c = id c := by
    intro c hc
    have hdot : c ≠ '.' := fun hc' => h (hc' ▸ hc)
    by_cases hslash : c = '/' <;> simp [hslash, hdot]
  rw [List.map_congr_left hid, List.map_id]

theorem isValid_source {name : String} (h : '.' ∉ name.toList) :
    isValid (source name) = isValid name := by
  rw [← isValid_internal, internal_source h]

theorem source_eq_self {name : String} (h : '.' ∉ (source name).toList) : source name = name := by
  apply String.toList_injective
  rw [source, Text.toList_replaceIf] at h ⊢
  have hid : ∀ c ∈ name.toList, (if c == '/' then '.' else c) = id c := by
    intro c hc
    rw [if_neg]
    · rfl
    · intro hslash
      exact h (List.mem_map.2 ⟨c, hc, if_pos hslash⟩)
  rw [List.map_congr_left hid, List.map_id]

theorem not_mem_internal (name : String) : '.' ∉ (internal name).toList := by
  rw [internal, Text.toList_replaceIf, List.mem_map]
  rintro ⟨c, -, hc⟩
  by_cases h : c = '.' <;> simp [h] at hc

theorem source_not_blank {name : String} (h : ∀ c ∈ name.toList, Text.isBlank c = false) :
    ∀ c ∈ (source name).toList, Text.isBlank c = false := by
  rw [source, Text.toList_replaceIf, List.forall_mem_map]
  intro c hc
  split
  · decide
  · exact h c hc

theorem IsName.not_blank {cs : List Char} (h : IsName cs) : ∀ c ∈ cs, Text.isBlank c = false := by
  induction h with
  | segment h => exact fun c hc => (h.2 c hc).2
  | more h hs _ ih =>
    rw [List.forall_mem_append, List.forall_mem_cons]
    refine ⟨fun c hc => (h.2 c hc).2, ?_, ih⟩
    rcases hs with rfl | rfl <;> decide

end ClassName

namespace JavaType

/-- The class names of the type have only `/` between their segments. -/
def Slashed : JavaType → Prop
  | object name => '.' ∉ name.toList
  | array component => component.Slashed
  | _ => True

/-- The words that source text keeps for types that are no classes. -/
def keywords : List String :=
  "void" :: Primitive.all.map Primitive.keyword

/-- The type's binary name: a keyword, a dotted class name, or an array's descriptor with dots. -/
def binaryName : JavaType → String
  | void => "void"
  | primitive p => p.keyword
  | object name => ClassName.source name
  | array component => ClassName.source (array component).descriptor

theorem slashed_iff {t : JavaType} : t.Slashed ↔ '.' ∉ t.descriptorChars := by
  induction t with
  | void => simp [Slashed, descriptorChars]
  | primitive p => cases p <;> simp [Slashed, descriptorChars, Primitive.letter]
  | object name => simp [Slashed, descriptorChars]
  | array component ih => simp [Slashed, descriptorChars, ih]

theorem not_blank_of_all {cs : List Char} (h : (cs.all fun c => !Text.isBlank c) = true) :
    ∀ c ∈ cs, Text.isBlank c = false := by
  simpa using h

theorem Denotable.not_blank {t : JavaType} (h : t.Denotable) :
    ∀ c ∈ t.descriptorChars, Text.isBlank c = false := by
  induction h with
  | void => exact not_blank_of_all (by decide)
  | primitive p => cases p <;> exact not_blank_of_all (by decide)
  | object h =>
    rw [descriptorChars, List.forall_mem_cons, List.forall_mem_append]
    exact ⟨by decide, h.not_blank, not_blank_of_all (by decide)⟩
  | array _ _ ih => exact List.forall_mem_cons.2 ⟨by decide, ih⟩

theorem Denotable.binaryName_not_blank {t : JavaType} (h : t.Denotable) :
    ∀ c ∈ t.binaryName.toList, Text.isBlank c = false := by
  cases h with
  | void => exact not_blank_of_all (by decide)
  | primitive p => cases p <;> exact not_blank_of_all (by decide)
  | object h => exact ClassName.source_not_blank h.not_blank
  | array h hv =>
    refine ClassName.source_not_blank ?_
    rw [toList_descriptor]
    exact (Denotable.array h hv).not_blank

theorem ofSource_of_not_keyword {s name : String} (htrim : Text.trimBlank s = name)
    (hne : name ≠ "") (hkeyword : name ∉ keywords) :
    ofSource s =
      if name.toList.head? = some '[' then ofDescriptor (ClassName.internal name)
      else if ClassName.isValid name then .ok (.object (ClassName.internal name))
      else .error (.invalidClassName name) := by
  obtain ⟨hvoid, hprimitive⟩ := not_or.1 (mt List.mem_cons.2 hkeyword)
  have hnone : Primitive.ofKeyword? name = none := by
    rw [Primitive.ofKeyword?, List.find?_eq_none]
    intro p hp hname
    exact hprimitive (List.mem_map.2 ⟨p, hp, by simpa using hname⟩)
  have hempty : name.isEmpty = false := by simpa using hne
  simp [ofSource, htrim, hempty, hvoid, hnone]

theorem ofSource_className {s name : String} (hname : ClassName.IsName name.toList)
    (hslashed : '.' ∉ name.toList) (hkeyword : name ∉ keywords)
    (htrim : Text.trimBlank s = ClassName.source name) : ofSource s = .ok (.object name) := by
  have hvalid : ClassName.isValid (ClassName.source name) = true :=
    (ClassName.isValid_source hslashed).trans (ClassName.isValid_iff.2 hname)
  have hne : ClassName.source name ≠ "" := by
    intro hempty
    rw [hempty] at hvalid
    cases hvalid
  have hword : ClassName.source name ∉ keywords := by
    intro hword
    have hdot : ∀ word ∈ keywords, '.' ∉ word.toList := by decide
    rw [ClassName.source_eq_self (hdot _ hword)] at hword
    exact hkeyword hword
  have hhead : (ClassName.source name).toList.head? ≠ some '[' := by
    intro hhead
    exact (ClassName.not_punctuation_of_isValid hvalid (List.mem_of_head? hhead)).2 rfl
  rw [ofSource_of_not_keyword htrim hne hword, if_neg hhead, if_pos hvalid,
    ClassName.internal_source hslashed]

theorem ofSource_arrayName {s : String} {component : JavaType}
    (ht : (array component).Denotable) (hslashed : (array component).Slashed)
    (htrim : Text.trimBlank s = ClassName.source (array component).descriptor) :
    ofSource s = .ok (array component) := by
  have hchars : (array component).descriptor.toList = '[' :: component.descriptorChars :=
    toList_descriptor _
  have hhead : (ClassName.source (array component).descriptor).toList.head? = some '[' := by
    rw [ClassName.source, Text.toList_replaceIf, hchars]
    rfl
  have hdot : '.' ∉ (array component).descriptor.toList := by
    rw [toList_descriptor]
    exact slashed_iff.1 hslashed
  have hne : ClassName.source (array component).descriptor ≠ "" := by
    intro hempty
    rw [hempty] at hhead
    cases hhead
  have hword : ClassName.source (array component).descriptor ∉ keywords := by
    intro hword
    have hbracket : ∀ word ∈ keywords, word.toList.head? ≠ some '[' := by decide
    exact hbracket _ hword hhead
  rw [ofSource_of_not_keyword htrim hne hword, if_pos hhead, ClassName.internal_source hdot,
    ofDescriptor_descriptor (wellFormed_iff.2 ht)]

/-- A type that can be denoted is read back from its binary name, with white space around it, unless
it is a class named like a keyword. -/
theorem ofSource_binaryName {t : JavaType} (ht : t.Denotable) (hslashed : t.Slashed)
    (hkeyword : ∀ word ∈ keywords, t ≠ .object word) {front back : String}
    (hfront : Text.AllBlank front) (hback : Text.AllBlank back) :
    ofSource (front ++ t.binaryName ++ back) = .ok t := by
  have htrim := Text.trimBlank_append hfront ht.binaryName_not_blank hback
  cases ht with
  | void =>
    rw [ofSource, htrim]
    rfl
  | primitive p =>
    rw [ofSource, htrim]
    cases p <;> rfl
  | @object name h =>
    exact ofSource_className h hslashed (fun hword => hkeyword name hword rfl) htrim
  | @array component h hv => exact ofSource_arrayName (.array h hv) hslashed htrim

/-- A type that is read from source text can be denoted, and its class names have only `/` between
their segments. -/
theorem denotable_slashed_of_ofSource {s : String} {t : JavaType} (h : ofSource s = .ok t) :
    t.Denotable ∧ t.Slashed := by
  refine ⟨wellFormed_iff.1 (wellFormed_of_ofSource h), ?_⟩
  unfold ofSource at h
  dsimp only at h
  split at h
  · cases h
  split at h
  · cases h
    trivial
  split at h
  · cases h
    trivial
  split at h
  · rw [slashed_iff, ← toList_descriptor, (denotes_iff.1 h).2]
    exact ClassName.not_mem_internal _
  split at h
  · cases h
    exact ClassName.not_mem_internal _
  · cases h

end JavaType

end StubLinker
