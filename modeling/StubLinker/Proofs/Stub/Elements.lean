import Mathlib.Data.List.Induction
import Mathlib.Data.List.Nodup
import StubLinker.Proofs.Except
import StubLinker.Stub.Directive

namespace StubLinker

/-- The fields of an operation's marker. -/
inductive MarkerField where
  | classConstant
  | className
  | member
  deriving DecidableEq, Repr

namespace MarkerField

def name : MarkerField → String
  | classConstant => "classConstant"
  | className => "className"
  | member => "memberName"

/-- The values that a field can have. The literal of `void` and the empty name are the defaults of the
two class fields; any other class has to be one that can be read. -/
def Admits : MarkerField → AnnotationValue → Prop
  | classConstant, .classLiteral descriptor =>
    descriptor = "V" ∨ ∃ t, JavaType.ofDescriptor descriptor = .ok t
  | className, .text name => name = "" ∨ ∃ t, JavaType.ofSource name = .ok t
  | member, .text _ => True
  | _, _ => False

/-- The class that a value of the field stands for, unless it is the default. -/
def type? : MarkerField → AnnotationValue → Option JavaType
  | classConstant, .classLiteral descriptor =>
    if descriptor = "V" then none else (JavaType.ofDescriptor descriptor).toOption
  | className, .text name => if name = "" then none else (JavaType.ofSource name).toOption
  | _, _ => none

theorem name_injective : Function.Injective name := by
  intro f g
  cases f <;> cases g <;> decide

theorem type?_classConstant_eq_none {v : AnnotationValue} (h : classConstant.Admits v) :
    classConstant.type? v = none ↔ v = .classLiteral "V" := by
  cases v with
  | classLiteral descriptor =>
    by_cases hv : descriptor = "V"
    · simp [type?, hv]
    · obtain ⟨t, ht⟩ := h.resolve_left hv
      simp [type?, hv, ht, Except.toOption]
  | _ => exact h.elim

theorem type?_className_eq_none {v : AnnotationValue} (h : className.Admits v) :
    className.type? v = none ↔ v = .text "" := by
  cases v with
  | text name =>
    by_cases hv : name = ""
    · simp [type?, hv]
    · obtain ⟨t, ht⟩ := h.resolve_left hv
      simp [type?, hv, ht, Except.toOption]
  | _ => exact h.elim

end MarkerField

namespace Operation

variable {o : Operation} {elements : List (String × AnnotationValue)} {f : MarkerField}

/-- The field that an element of the operation's marker fills. The member has two spellings, and a
constructor has no name. -/
def field? (o : Operation) (element : String) : Option MarkerField :=
  if element = "classConstant" then some .classConstant
  else if element = "className" then some .className
  else if o ≠ .constructInstance ∧ (element = "memberName" ∨ o.memberAlias? = some element) then
    some .member
  else none

def Gives (o : Operation) (elements : List (String × AnnotationValue)) (f : MarkerField)
    (v : AnnotationValue) : Prop :=
  ∃ e ∈ elements, o.field? e.1 = some f ∧ e.2 = v

/-- The elements are ones that the operation's marker may carry. -/
structure Accepts (o : Operation) (elements : List (String × AnnotationValue)) : Prop where
  known : ∀ e ∈ elements, ∃ f, o.field? e.1 = some f ∧ f.Admits e.2
  once : (elements.map fun e => o.field? e.1).Nodup
  single : ∀ v w, o.Gives elements .classConstant v → o.Gives elements .className w →
    v = .classLiteral "V" ∨ w = .text ""
  named : o ≠ .constructInstance → ∃ name, o.Gives elements .member (.text name) ∧ name ≠ ""

/-- The target and the member are those that the elements give. -/
structure Decodes (o : Operation) (elements : List (String × AnnotationValue))
    (target : Option JavaType) (member : Option String) : Prop where
  target : ∀ t, target = some t ↔ ∃ f v, o.Gives elements f v ∧ f.type? v = some t
  member : ∀ name, member = some name ↔ o.Gives elements .member (.text name) ∧ name ≠ ""

theorem spellsMember_iff {element : String} :
    (o.requiresMember && (element == "memberName" || some element == o.memberAlias?)) = true ↔
      o ≠ .constructInstance ∧ (element = "memberName" ∨ o.memberAlias? = some element) := by
  simp only [requiresMember, Bool.and_eq_true, bne_iff_ne, Bool.or_eq_true, beq_iff_eq,
    eq_comm (a := some element)]

theorem fieldOf_of_field? {element : String} (h : o.field? element = some f) :
    o.fieldOf element = f.name := by
  unfold field? at h
  split at h
  · rename_i he
    obtain rfl := Option.some.inj h
    subst he
    cases o <;> rfl
  split at h
  · rename_i he
    obtain rfl := Option.some.inj h
    subst he
    cases o <;> rfl
  split at h
  · rename_i he
    obtain rfl := Option.some.inj h
    rw [fieldOf, if_pos (spellsMember_iff.2 he)]
    rfl
  · cases h

/-- An element that is neither of the class fields is read as the member exactly if it fills it. -/
theorem fieldOf_eq_memberName {element : String} (hc : element ≠ "classConstant")
    (hn : element ≠ "className") :
    (o.fieldOf element = "memberName" && o.requiresMember) = true ↔
      o.field? element = some .member := by
  unfold field? fieldOf
  rw [if_neg hc, if_neg hn, Bool.and_eq_true, decide_eq_true_iff]
  by_cases hm : o ≠ .constructInstance ∧ (element = "memberName" ∨ o.memberAlias? = some element)
  · rw [if_pos (spellsMember_iff.2 hm), if_pos hm]
    simp [requiresMember, hm.1]
  · rw [if_neg (mt spellsMember_iff.1 hm), if_neg hm]
    simp only [reduceCtorEq, iff_false, not_and]
    intro he hrequires
    exact hm ⟨by simpa [requiresMember] using hrequires, .inl he⟩

def textOf? : AnnotationValue → Option String
  | .text value => some value
  | _ => none

/-- What is known after a field was read. -/
def Reading.take (r : Reading) (f : MarkerField) (v : AnnotationValue) : Reading :=
  match f with
  | .classConstant =>
    { r with classConstant := (f.type? v).or r.classConstant, seen := f.name :: r.seen }
  | .className => { r with className := (f.type? v).or r.className, seen := f.name :: r.seen }
  | .member => { r with member := (textOf? v).or r.member, seen := f.name :: r.seen }

section ReadElement

variable {r r' : Reading} {v : AnnotationValue}

theorem readElement_classConstant (hseen : "classConstant" ∉ r.seen) :
    o.readElement r ("classConstant", v) = .ok r' ↔
      MarkerField.classConstant.Admits v ∧ r.take .classConstant v = r' := by
  have hname : o.fieldOf "classConstant" = "classConstant" :=
    fieldOf_of_field? (f := .classConstant) rfl
  simp only [readElement, hname, List.contains_eq_mem, hseen, decide_false, Bool.false_eq_true,
    ↓reduceIte, Reading.take, MarkerField.name, MarkerField.type?]
  cases v with
  | classLiteral descriptor =>
    by_cases hv : descriptor = "V"
    · simp [hv, MarkerField.Admits]
    · cases hd : JavaType.ofDescriptor descriptor with
      | error cause => simp [hv, hd, MarkerField.Admits]
      | ok t => simp [hv, hd, MarkerField.Admits, Except.toOption]
  | _ => simp [MarkerField.Admits]

theorem readElement_className (hseen : "className" ∉ r.seen) :
    o.readElement r ("className", v) = .ok r' ↔
      MarkerField.className.Admits v ∧ r.take .className v = r' := by
  have hname : o.fieldOf "className" = "className" := fieldOf_of_field? (f := .className) rfl
  have hne : "className" ≠ "classConstant" := by decide
  simp only [readElement, hname, List.contains_eq_mem, hseen, decide_false, Bool.false_eq_true,
    hne, ↓reduceIte, Reading.take, MarkerField.name, MarkerField.type?]
  cases v with
  | text name =>
    by_cases hv : name = ""
    · simp [hv, MarkerField.Admits]
    · have hempty : name.isEmpty = false := by simpa using hv
      cases hd : JavaType.ofSource name with
      | error cause => simp [hv, hempty, hd, MarkerField.Admits, readTypeName, Except.mapError]
      | ok t =>
        simp [hv, hempty, hd, MarkerField.Admits, readTypeName, Except.mapError, Except.toOption]
  | _ => simp [MarkerField.Admits]

theorem readElement_member {element : String} (hc : element ≠ "classConstant")
    (hn : element ≠ "className") (hseen : o.fieldOf element ∉ r.seen) :
    o.readElement r (element, v) = .ok r' ↔
      o.field? element = some .member ∧ MarkerField.member.Admits v ∧ r.take .member v = r' := by
  simp only [readElement, List.contains_eq_mem, hseen, decide_false, Bool.false_eq_true, hc, hn,
    ↓reduceIte, fieldOf_eq_memberName hc hn]
  by_cases hf : o.field? element = some .member
  · have hname := fieldOf_of_field? hf
    cases v with
    | text name => simp [hf, hname, MarkerField.Admits, Reading.take, textOf?]
    | _ => simp [hf, MarkerField.Admits]
  · simp [hf]

/-- An element is read if it fills a field that was not filled before, with a value that the field
admits. -/
theorem readElement_eq_ok_iff {e : String × AnnotationValue} :
    o.readElement r e = .ok r' ↔
      ∃ f, o.field? e.1 = some f ∧ f.Admits e.2 ∧ f.name ∉ r.seen ∧ r.take f e.2 = r' := by
  obtain ⟨element, v⟩ := e
  by_cases hseen : o.fieldOf element ∈ r.seen
  · refine iff_of_false (by simp [readElement, hseen]) ?_
    rintro ⟨f, hf, -, hfresh, -⟩
    exact hfresh (fieldOf_of_field? hf ▸ hseen)
  have hfresh {f : MarkerField} (hf : o.field? element = some f) : f.name ∉ r.seen :=
    fieldOf_of_field? hf ▸ hseen
  -- two fields have names of their own; the third is called as the operation says
  by_cases hc : element = "classConstant"
  · subst hc
    have hf : o.field? "classConstant" = some .classConstant := rfl
    rw [readElement_classConstant (hfresh hf)]
    simp [hf, hfresh hf]
  by_cases hn : element = "className"
  · subst hn
    have hf : o.field? "className" = some .className := rfl
    rw [readElement_className (hfresh hf)]
    simp [hf, hfresh hf]
  rw [readElement_member hc hn hseen]
  constructor
  · rintro ⟨hf, hadmits, htake⟩
    exact ⟨_, hf, hadmits, hfresh hf, htake⟩
  · rintro ⟨f, hf, hadmits, -, htake⟩
    obtain rfl : f = .member := by
      rw [field?, if_neg hc, if_neg hn] at hf
      split at hf <;> simp_all
    exact ⟨hf, hadmits, htake⟩

end ReadElement

def value? (o : Operation) (elements : List (String × AnnotationValue)) (f : MarkerField) :
    Option AnnotationValue :=
  (elements.find? fun e => o.field? e.1 = some f).map Prod.snd

theorem gives_of_value? {v : AnnotationValue} (h : o.value? elements f = some v) :
    o.Gives elements f v := by
  obtain ⟨e, he, hv⟩ := Option.map_eq_some_iff.1 h
  exact ⟨e, List.mem_of_find?_eq_some he, by simpa using List.find?_some he, hv⟩

theorem value?_eq_some (h : (elements.map fun e => o.field? e.1).Nodup) {v : AnnotationValue} :
    o.value? elements f = some v ↔ o.Gives elements f v := by
  constructor
  · exact gives_of_value?
  · rintro ⟨e, he, hf, rfl⟩
    cases hv : o.value? elements f with
    | none =>
      have hnone := List.find?_eq_none.1 (Option.map_eq_none_iff.1 hv) e he
      simp [hf] at hnone
    | some w =>
      obtain ⟨e', he', hf', rfl⟩ := gives_of_value? hv
      rw [List.inj_on_of_nodup_map h he' he (hf'.trans hf.symm)]

theorem value?_eq_none (h : some f ∉ elements.map fun e => o.field? e.1) :
    o.value? elements f = none := by
  cases hv : o.value? elements f with
  | none => rfl
  | some v =>
    obtain ⟨e, he, hf, -⟩ := gives_of_value? hv
    exact absurd (List.mem_map.2 ⟨e, he, hf⟩) h

theorem value?_append_singleton (e : String × AnnotationValue) :
    o.value? (elements ++ [e]) f =
      (o.value? elements f).or (if o.field? e.1 = some f then some e.2 else none) := by
  rw [value?, List.find?_append, Option.map_or, value?]
  congr 1
  by_cases he : o.field? e.1 = some f <;> simp [he]

def reading (o : Operation) (elements : List (String × AnnotationValue)) : Reading where
  classConstant := (o.value? elements .classConstant).bind (MarkerField.type? .classConstant)
  className := (o.value? elements .className).bind (MarkerField.type? .className)
  member := (o.value? elements .member).bind textOf?
  seen := (elements.map fun e => o.fieldOf e.1).reverse

theorem take_reading {e : String × AnnotationValue} (he : o.field? e.1 = some f)
    (hf : o.value? elements f = none) :
    (o.reading elements).take f e.2 = o.reading (elements ++ [e]) := by
  have hname := fieldOf_of_field? he
  cases f with
  | classConstant => simp [reading, Reading.take, value?_append_singleton, he, hf, hname]
  | className => simp [reading, Reading.take, value?_append_singleton, he, hf, hname]
  | member => simp [reading, Reading.take, value?_append_singleton, he, hf, hname]

theorem fresh_iff (h : ∀ e ∈ elements, ∃ f, o.field? e.1 = some f ∧ f.Admits e.2) :
    f.name ∉ (o.reading elements).seen ↔ some f ∉ elements.map fun e => o.field? e.1 := by
  simp only [reading, List.mem_reverse, List.mem_map, not_iff_not]
  constructor
  · rintro ⟨e, he, hname⟩
    obtain ⟨g, hg, -⟩ := h e he
    rw [fieldOf_of_field? hg] at hname
    exact ⟨e, he, by rw [hg, MarkerField.name_injective hname]⟩
  · rintro ⟨e, he, hf⟩
    exact ⟨e, he, fieldOf_of_field? hf⟩

/-- Elements are read exactly if each fills a field of its own with a value that the field admits. -/
theorem foldlM_readElement {r : Reading} :
    elements.foldlM o.readElement {} = .ok r ↔
      (∀ e ∈ elements, ∃ f, o.field? e.1 = some f ∧ f.Admits e.2) ∧
        (elements.map fun e => o.field? e.1).Nodup ∧ o.reading elements = r := by
  -- on the last element, since what was seen before it are the fields of those in front
  induction elements using List.reverseRecOn generalizing r with
  | nil => simp [reading, value?, pure, Except.pure]
  | append_singleton elements e ih =>
    have hlast {r₀ : Reading} :
        [e].foldlM o.readElement r₀ = .ok r ↔ o.readElement r₀ e = .ok r := by
      simp
    simp only [List.foldlM_append, Except.bind_eq_ok, hlast, ih, readElement_eq_ok_iff,
      List.forall_mem_append, List.forall_mem_singleton, List.map_append, List.map_cons, List.map_nil]
    constructor
    · rintro ⟨r₀, ⟨hknown, honce, rfl⟩, f, hf, hadmits, hfresh, rfl⟩
      have hnew := (fresh_iff hknown).1 hfresh
      refine ⟨⟨hknown, f, hf, hadmits⟩, ?_, (take_reading hf (value?_eq_none hnew)).symm⟩
      rw [hf]
      exact List.nodup_append'.2 ⟨honce, List.nodup_singleton _, by simpa using hnew⟩
    · rintro ⟨⟨hknown, f, hf, hadmits⟩, honce, rfl⟩
      rw [hf] at honce
      obtain ⟨honce, -, hnew⟩ := List.nodup_append'.1 honce
      have hnew : some f ∉ elements.map fun e => o.field? e.1 := by simpa using hnew
      exact ⟨_, ⟨hknown, honce, rfl⟩, f, hf, hadmits, (fresh_iff hknown).2 hnew,
        take_reading hf (value?_eq_none hnew)⟩

theorem admits_of_gives (h : ∀ e ∈ elements, ∃ f, o.field? e.1 = some f ∧ f.Admits e.2)
    {v : AnnotationValue} (hv : o.Gives elements f v) : f.Admits v := by
  obtain ⟨e, he, hf, rfl⟩ := hv
  obtain ⟨g, hg, hadmits⟩ := h e he
  obtain rfl : g = f := Option.some.inj (hg.symm.trans hf)
  exact hadmits

theorem reading_type_iff (honce : (elements.map fun e => o.field? e.1).Nodup) {t : JavaType} :
    (∃ f v, o.Gives elements f v ∧ f.type? v = some t) ↔
      (o.reading elements).classConstant = some t ∨ (o.reading elements).className = some t := by
  have hfield (f : MarkerField) : (o.value? elements f).bind f.type? = some t ↔
      ∃ v, o.Gives elements f v ∧ f.type? v = some t := by
    rw [Option.bind_eq_some_iff]
    simp only [value?_eq_some honce]
  simp only [reading, hfield]
  constructor
  · rintro ⟨f, v, hv, ht⟩
    cases f with
    | classConstant => exact .inl ⟨v, hv, ht⟩
    | className => exact .inr ⟨v, hv, ht⟩
    | member => cases ht
  · rintro (⟨v, hv, ht⟩ | ⟨v, hv, ht⟩)
    · exact ⟨_, v, hv, ht⟩
    · exact ⟨_, v, hv, ht⟩

theorem reading_member_iff (honce : (elements.map fun e => o.field? e.1).Nodup) {name : String} :
    (o.reading elements).member = some name ↔ o.Gives elements .member (.text name) := by
  have htext {v : AnnotationValue} : textOf? v = some name ↔ v = .text name := by
    cases v <;> simp [textOf?]
  simp only [reading, Option.bind_eq_some_iff, value?_eq_some honce, htext, exists_eq_right]

theorem single_iff (hknown : ∀ e ∈ elements, ∃ f, o.field? e.1 = some f ∧ f.Admits e.2)
    (honce : (elements.map fun e => o.field? e.1).Nodup) :
    (∀ v w, o.Gives elements .classConstant v → o.Gives elements .className w →
      v = .classLiteral "V" ∨ w = .text "") ↔
      (o.reading elements).classConstant = none ∨ (o.reading elements).className = none := by
  simp only [reading, ← value?_eq_some honce]
  cases hc : o.value? elements .classConstant with
  | none => simp
  | some v =>
    have hv := MarkerField.type?_classConstant_eq_none (admits_of_gives hknown (gives_of_value? hc))
    cases hn : o.value? elements .className with
    | none => simp
    | some w =>
      have hw := MarkerField.type?_className_eq_none (admits_of_gives hknown (gives_of_value? hn))
      simp [hv, hw]

/-- The elements have given a target and a member, unless they gave two targets or left out the
member. -/
theorem readElements_eq_ok {target : Option JavaType} {member : Option String} :
    o.readElements elements = .ok (target, member) ↔
      ∃ r, elements.foldlM o.readElement {} = .ok r ∧
        (r.classConstant = none ∨ r.className = none) ∧
        (o ≠ .constructInstance → member ≠ none) ∧
        r.classConstant.or r.className = target ∧
        (r.member.filter fun name => !name.isEmpty) = member := by
  unfold readElements
  rw [Except.bind_eq_ok]
  refine exists_congr fun r => and_congr_right fun _ => ?_
  by_cases hsingle : r.classConstant = none ∨ r.className = none
  · have htargets : (r.classConstant.isSome && r.className.isSome) = false := by
      rcases hsingle with h | h <;> simp [h]
    by_cases hmember : o.requiresMember = true ∧
        (r.member.filter fun name => !name.isEmpty) = none
    · have hmissing : (o.requiresMember &&
          (r.member.filter fun name => !name.isEmpty).isNone) = true := by
        simpa only [Bool.and_eq_true, Option.isNone_iff_eq_none] using hmember
      simp only [htargets, hmissing, Bool.false_eq_true, ↓reduceIte]
      refine iff_of_false nofun ?_
      rintro ⟨-, hnamed, -, rfl⟩
      exact hnamed (by simpa [requiresMember] using hmember.1) hmember.2
    · have hnamed : (o.requiresMember &&
          (r.member.filter fun name => !name.isEmpty).isNone) = false := by
        refine Bool.eq_false_iff.2 fun h => hmember ?_
        simpa only [Bool.and_eq_true, Option.isNone_iff_eq_none] using h
      simp only [htargets, hnamed, Bool.false_eq_true, ↓reduceIte]
      constructor
      · rintro ⟨⟩
        exact ⟨hsingle, fun ho h => hmember ⟨by simpa [requiresMember] using ho, h⟩, rfl, rfl⟩
      · rintro ⟨-, -, rfl, rfl⟩
        rfl
  · have htargets : (r.classConstant.isSome && r.className.isSome) = true := by
      obtain ⟨hc, hn⟩ := not_or.1 hsingle
      simp [Option.isSome_iff_ne_none, hc, hn]
    simp only [htargets, ↓reduceIte]
    exact iff_of_false nofun fun h => hsingle h.1

theorem Accepts.decodes (h : o.Accepts elements) :
    o.Decodes elements ((o.reading elements).classConstant.or (o.reading elements).className)
      ((o.reading elements).member.filter fun name => !name.isEmpty) where
  target t := by
    rw [reading_type_iff h.once]
    rcases (single_iff h.known h.once).1 h.single with hc | hn
    · simp [hc]
    · simp [hn]
  member name := by
    simp [Option.filter_eq_some_iff, reading_member_iff h.once]

theorem Decodes.unique {target target' : Option JavaType} {member member' : Option String}
    (h : o.Decodes elements target member) (h' : o.Decodes elements target' member') :
    target = target' ∧ member = member' :=
  ⟨Option.ext fun t => (h.target t).trans (h'.target t).symm,
    Option.ext fun name => (h.member name).trans (h'.member name).symm⟩

/-- The elements of an operation's marker are read exactly if it may carry them, and as what they
give. -/
theorem readElements_eq_ok_iff {target : Option JavaType} {member : Option String} :
    o.readElements elements = .ok (target, member) ↔
      o.Accepts elements ∧ o.Decodes elements target member := by
  rw [readElements_eq_ok]
  constructor
  · rintro ⟨r, hread, hone, hnamed, rfl, rfl⟩
    obtain ⟨hknown, honce, rfl⟩ := foldlM_readElement.1 hread
    have h : o.Accepts elements := by
      refine ⟨hknown, honce, (single_iff hknown honce).2 hone, fun ho => ?_⟩
      obtain ⟨name, hname⟩ := Option.ne_none_iff_exists'.1 (hnamed ho)
      exact ⟨name, by simpa [Option.filter_eq_some_iff, reading_member_iff honce] using hname⟩
    exact ⟨h, h.decodes⟩
  · rintro ⟨h, hdecodes⟩
    obtain ⟨rfl, rfl⟩ := hdecodes.unique h.decodes
    refine ⟨_, foldlM_readElement.2 ⟨h.known, h.once, rfl⟩, (single_iff h.known h.once).1 h.single,
      fun ho => ?_, rfl, rfl⟩
    obtain ⟨name, hname⟩ := h.named ho
    exact Option.ne_none_iff_exists'.2 ⟨name, (hdecodes.member name).2 hname⟩

example : Operation.readElements .writeStaticField
    [("className", .text ""), ("memberName", .text "f"), ("classConstant", .classLiteral "V")] =
      .ok (none, some "f") := by
  decide

end Operation

/-- The type that a type override names: its one element is `value`, with a text that can be read. -/
def AnnotationUse.ReadsAs (a : AnnotationUse) (t : JavaType) : Prop :=
  ∃ name, a.elements = [("value", .text name)] ∧ JavaType.ofSource name = .ok t

namespace Directive

theorem readOverrideElement_eq_ok_iff {found r : Option JavaType}
    {e : String × AnnotationValue} :
    readOverrideElement found e = .ok r ↔
      found = none ∧ ∃ name t, e = ("value", .text name) ∧ JavaType.ofSource name = .ok t ∧
        r = some t := by
  obtain ⟨element, v⟩ := e
  by_cases he : element = "value"
  · subst he
    cases found with
    | some t => simp [readOverrideElement]
    | none =>
      cases v with
      | text name =>
        cases hname : JavaType.ofSource name with
        | error cause => simp [readOverrideElement, readTypeName, Except.mapError, Except.map, hname]
        | ok t =>
          simp [readOverrideElement, readTypeName, Except.mapError, Except.map, hname, eq_comm]
      | _ => simp [readOverrideElement]
  · simp [readOverrideElement, he]

/-- A type override is read exactly if it is one element that names a type. -/
theorem readOverride_eq_ok_iff {a : AnnotationUse} {t : JavaType} :
    readOverride a.elements = .ok t ↔ a.ReadsAs t := by
  have hlast : readOverride a.elements = .ok t ↔
      a.elements.foldlM readOverrideElement none = .ok (some t) := by
    unfold readOverride
    rw [Except.bind_eq_ok]
    constructor
    · rintro ⟨r, hr, ht⟩
      cases r with
      | none => cases ht
      | some t' =>
        cases ht
        exact hr
    · exact fun h => ⟨_, h, rfl⟩
  rw [hlast, AnnotationUse.ReadsAs]
  cases a.elements with
  | nil => simp [pure, Except.pure]
  | cons e elements =>
    rw [List.foldlM_cons, Except.bind_eq_ok]
    simp only [readOverrideElement_eq_ok_iff]
    cases elements with
    | nil => simp [pure, Except.pure, and_assoc]
    | cons e' elements =>
      simp only [List.foldlM_cons, Except.bind_eq_ok, readOverrideElement_eq_ok_iff]
      simp

end Directive

end StubLinker
