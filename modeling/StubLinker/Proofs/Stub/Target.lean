import StubLinker.Proofs.JavaType.BinaryName
import StubLinker.Proofs.Stub.Elements

namespace StubLinker

namespace Operation

variable {o : Operation}

def namesClass (e : String × AnnotationValue) : Bool :=
  e.1 = "classConstant" || e.1 = "className"

def classElements (elements : List (String × AnnotationValue)) : List (String × AnnotationValue) :=
  elements.filter namesClass

/-- The elements that are not about the target class. -/
def otherElements (elements : List (String × AnnotationValue)) : List (String × AnnotationValue) :=
  elements.filter fun e => !namesClass e

namespace Reading

/-- Two readings that know the same about the target class. -/
structure AgreeOnClass (r r' : Reading) : Prop where
  classConstant : r.classConstant = r'.classConstant
  className : r.className = r'.className
  seen : ∀ name ∈ ["classConstant", "className"], (name ∈ r.seen ↔ name ∈ r'.seen)

/-- Two readings that know the same about all but the target class. -/
structure AgreeOnOthers (r r' : Reading) : Prop where
  member : r.member = r'.member
  seen : ∀ name, name ∉ ["classConstant", "className"] → (name ∈ r.seen ↔ name ∈ r'.seen)

end Reading

open Reading

theorem namesClass_eq_false {e : String × AnnotationValue} :
    namesClass e = false ↔ e.1 ≠ "classConstant" ∧ e.1 ≠ "className" := by
  simp [namesClass]

theorem fieldOf_not_class {e : String × AnnotationValue} (h : namesClass e = false) :
    o.fieldOf e.1 ∉ ["classConstant", "className"] := by
  obtain ⟨hconstant, hname⟩ := namesClass_eq_false.1 h
  rw [fieldOf]
  split
  · decide
  · simp [hconstant, hname]

section Others

variable {r r' : Reading} {element name : String} {v : AnnotationValue}

theorem readElement_repeated (hseen : o.fieldOf element ∈ r.seen) :
    o.readElement r (element, v) = .error (.repeatedField (.operation o) element) := by
  rw [readElement, if_pos (by simpa using hseen)]

variable (hseen : o.fieldOf element ∉ r.seen) (he : namesClass (element, v) = false)

include hseen he

theorem readElement_unknown
    (hmember : (o.fieldOf element = "memberName" && o.requiresMember) = false) :
    o.readElement r (element, v) = .error (.unknownField (.operation o) element) := by
  obtain ⟨hconstant, hname⟩ := namesClass_eq_false.1 he
  simp only [readElement, List.contains_eq_mem, hseen, decide_false, Bool.false_eq_true, hconstant,
    hname, hmember, ↓reduceIte]

theorem readElement_text (hmember : (o.fieldOf element = "memberName" && o.requiresMember) = true)
    (hv : v = .text name) : o.readElement r (element, v) =
      .ok { r with member := some name, seen := o.fieldOf element :: r.seen } := by
  obtain ⟨hconstant, hname⟩ := namesClass_eq_false.1 he
  simp only [readElement, List.contains_eq_mem, hseen, decide_false, Bool.false_eq_true, hconstant,
    hname, hmember, hv, ↓reduceIte]

theorem readElement_malformed
    (hmember : (o.fieldOf element = "memberName" && o.requiresMember) = true)
    (hv : ∀ name, v ≠ .text name) :
    o.readElement r (element, v) = .error (.malformedField (.operation o) element .text) := by
  obtain ⟨hconstant, hname⟩ := namesClass_eq_false.1 he
  cases v with
  | text name => exact absurd rfl (hv name)
  | _ =>
    simp only [readElement, List.contains_eq_mem, hseen, decide_false, Bool.false_eq_true, hconstant,
      hname, hmember, ↓reduceIte]

end Others

/-- An element that is not about the class is read as it is by another reading that knows the same
about such elements, and leaves what is known about the class. -/
theorem readElement_other {r r' : Reading} {e : String × AnnotationValue}
    (he : namesClass e = false) (h : AgreeOnOthers r r') :
    (∃ fault, o.readElement r e = .error fault ∧ o.readElement r' e = .error fault) ∨
      ∃ s s', o.readElement r e = .ok s ∧ o.readElement r' e = .ok s' ∧ AgreeOnOthers s s' ∧
        AgreeOnClass s r := by
  have hfield := fieldOf_not_class (o := o) he
  have hseen := h.seen _ hfield
  obtain ⟨element, v⟩ := e
  by_cases hmem : o.fieldOf element ∈ r.seen
  · exact .inl ⟨_, readElement_repeated hmem, readElement_repeated (hseen.1 hmem)⟩
  have hmem' : o.fieldOf element ∉ r'.seen := mt hseen.2 hmem
  cases hmember : (o.fieldOf element = "memberName" && o.requiresMember : Bool) with
  | false => exact .inl ⟨_, readElement_unknown hmem he hmember, readElement_unknown hmem' he hmember⟩
  | true =>
    by_cases hv : ∃ name, v = .text name
    · obtain ⟨name, hv⟩ := hv
      refine .inr ⟨_, _, readElement_text hmem he hmember hv, readElement_text hmem' he hmember hv,
        ⟨rfl, fun name hname => ?_⟩, ⟨rfl, rfl, fun name hname => ?_⟩⟩
      · rw [List.mem_cons, List.mem_cons, h.seen name hname]
      · rw [List.mem_cons, or_iff_right]
        rintro rfl
        exact hfield hname
    · have hv' : ∀ name, v ≠ .text name := fun name hname => hv ⟨name, hname⟩
      exact .inl ⟨_, readElement_malformed hmem he hmember hv',
        readElement_malformed hmem' he hmember hv'⟩

theorem exists_field_of_namesClass {e : String × AnnotationValue} (h : namesClass e = true) :
    ∃ f, o.field? e.1 = some f ∧ f.name ∈ ["classConstant", "className"] ∧
      f ≠ .member := by
  obtain ⟨element, v⟩ := e
  simp only [namesClass, Bool.or_eq_true, decide_eq_true_iff] at h
  rcases h with rfl | rfl
  · exact ⟨.classConstant, rfl, by decide, nofun⟩
  · exact ⟨.className, rfl, by decide, nofun⟩

/-- An element about the class that one reading takes in is taken in by another one that knows the
same about the class, and leaves what is known about the rest. -/
theorem readElement_class {r c c' : Reading} {e : String × AnnotationValue}
    (he : namesClass e = true) (h : AgreeOnClass r c) (hread : o.readElement c e = .ok c') :
    ∃ s, o.readElement r e = .ok s ∧ AgreeOnOthers s r ∧ AgreeOnClass s c' := by
  obtain ⟨f, hf, hadmits, hfresh, rfl⟩ := readElement_eq_ok_iff.1 hread
  obtain ⟨g, hg, hclass, hmember⟩ := exists_field_of_namesClass (o := o) he
  obtain rfl : f = g := Option.some.inj (hf.symm.trans hg)
  refine ⟨r.take f e.2, readElement_eq_ok_iff.2
    ⟨f, hf, hadmits, mt (h.seen f.name hclass).1 hfresh, rfl⟩, ?_, ?_⟩
  · have hothers : ∀ name, name ∉ ["classConstant", "className"] →
        (name ∈ f.name :: r.seen ↔ name ∈ r.seen) := by
      intro name hname
      rw [List.mem_cons, or_iff_right]
      rintro rfl
      exact hname hclass
    cases f with
    | classConstant => exact ⟨rfl, hothers⟩
    | className => exact ⟨rfl, hothers⟩
    | member => exact absurd rfl hmember
  · have hseen : ∀ name ∈ ["classConstant", "className"],
        (name ∈ f.name :: r.seen ↔ name ∈ f.name :: c.seen) := by
      intro name hname
      rw [List.mem_cons, List.mem_cons, h.seen name hname]
    cases f with
    | classConstant => exact ⟨by simp only [Reading.take, h.classConstant], h.className, hseen⟩
    | className => exact ⟨h.classConstant, by simp only [Reading.take, h.className], hseen⟩
    | member => exact absurd rfl hmember

theorem Reading.AgreeOnOthers.trans {r s t : Reading} (h : AgreeOnOthers r s)
    (h' : AgreeOnOthers s t) : AgreeOnOthers r t :=
  ⟨h.member.trans h'.member, fun name hname => (h.seen name hname).trans (h'.seen name hname)⟩

theorem Reading.AgreeOnClass.trans {r s t : Reading} (h : AgreeOnClass r s)
    (h' : AgreeOnClass s t) : AgreeOnClass r t :=
  ⟨h.classConstant.trans h'.classConstant, h.className.trans h'.className,
    fun name hname => (h.seen name hname).trans (h'.seen name hname)⟩

/-- Elements of which those about the class can be read are read as the others are, apart from what is
then known about the class. -/
theorem foldlM_readElement_split {elements : List (String × AnnotationValue)} {r r' c c' : Reading}
    (hothers : AgreeOnOthers r r') (hclass : AgreeOnClass r c)
    (hread : (classElements elements).foldlM o.readElement c = .ok c') :
    (∃ fault, elements.foldlM o.readElement r = .error fault ∧
        (otherElements elements).foldlM o.readElement r' = .error fault) ∨
      ∃ s s', elements.foldlM o.readElement r = .ok s ∧
        (otherElements elements).foldlM o.readElement r' = .ok s' ∧ AgreeOnOthers s s' ∧
        AgreeOnClass s c' := by
  induction elements generalizing r r' c with
  | nil =>
    obtain rfl := Except.ok.inj hread
    exact .inr ⟨r, r', rfl, rfl, hothers, hclass⟩
  | cons e elements ih =>
    cases he : namesClass e with
    | true =>
      rw [classElements, List.filter_cons_of_pos he, List.foldlM_cons, Except.bind_eq_ok] at hread
      obtain ⟨c₁, hc₁, hread⟩ := hread
      obtain ⟨s, hs, hrest, hs'⟩ := readElement_class he hclass hc₁
      rw [otherElements, List.filter_cons_of_neg (by simp [he]), List.foldlM_cons, hs]
      exact ih (hrest.trans hothers) hs' hread
    | false =>
      rw [classElements, List.filter_cons_of_neg (by simp [he])] at hread
      rw [otherElements, List.filter_cons_of_pos (by simp [he]), List.foldlM_cons, List.foldlM_cons]
      rcases readElement_other he hothers with ⟨fault, hr, hr'⟩ | ⟨s, s', hr, hr', hrest, hs⟩
      · rw [hr, hr']
        exact .inl ⟨fault, rfl, rfl⟩
      · rw [hr, hr']
        exact ih hrest (hs.trans hclass) hread

/-- Two markers that say the same apart from the class, and each the same class in one of its two
fields, are read as the same. -/
theorem readElements_congr {elements elements' : List (String × AnnotationValue)} {c c' : Reading}
    (hothers : otherElements elements = otherElements elements')
    (hread : (classElements elements).foldlM o.readElement {} = .ok c)
    (hread' : (classElements elements').foldlM o.readElement {} = .ok c')
    (hboth : (c.classConstant.isSome && c.className.isSome) =
      (c'.classConstant.isSome && c'.className.isSome))
    (htarget : c.classConstant.or c.className = c'.classConstant.or c'.className) :
    o.readElements elements = o.readElements elements' := by
  have hagree : AgreeOnOthers {} {} := ⟨rfl, fun _ _ => Iff.rfl⟩
  have hagree' : AgreeOnClass {} {} := ⟨rfl, rfl, fun _ _ => Iff.rfl⟩
  have hsplit := foldlM_readElement_split hagree hagree' hread
  have hsplit' := foldlM_readElement_split hagree hagree' hread'
  rw [← hothers] at hsplit'
  unfold readElements
  rcases hsplit with ⟨fault, he, hfault⟩ | ⟨s, r, he, hr, hs, hc⟩
  · rcases hsplit' with ⟨fault', he', hfault'⟩ | ⟨s', r', he', hr', hs', hc'⟩
    · rw [he, he', Except.error.inj (hfault.symm.trans hfault')]
    · rw [hfault] at hr'
      cases hr'
  · rcases hsplit' with ⟨fault', he', hfault'⟩ | ⟨s', r', he', hr', hs', hc'⟩
    · rw [hr] at hfault'
      cases hfault'
    · obtain rfl := Except.ok.inj (hr.symm.trans hr')
      have hmember : s.member = s'.member := hs.member.trans hs'.member.symm
      rw [he, he', Except.ok_bind, Except.ok_bind, hc.classConstant, hc.className,
        hc'.classConstant, hc'.className, hmember, hboth, htarget]

/-- The elements name the class by its binary name, with any white space around it. The class constant
is left out or has its default. -/
def NamesByText (t : JavaType) (elements : List (String × AnnotationValue)) : Prop :=
  ∃ front back, Text.AllBlank front ∧ Text.AllBlank back ∧
    classElements elements ∈
      [[("className", .text (front ++ t.binaryName ++ back))],
        [("className", .text (front ++ t.binaryName ++ back)), ("classConstant", .classLiteral "V")],
        [("classConstant", .classLiteral "V"), ("className", .text (front ++ t.binaryName ++ back))]]

/-- The elements name the class by a class constant. The class name is left out or has its default. -/
def NamesByConstant (t : JavaType) (elements : List (String × AnnotationValue)) : Prop :=
  classElements elements ∈
    [[("classConstant", .classLiteral t.descriptor)],
      [("classConstant", .classLiteral t.descriptor), ("className", .text "")],
      [("className", .text ""), ("classConstant", .classLiteral t.descriptor)]]

theorem Reading.classConstant_take (r : Reading) (f : MarkerField) (v : AnnotationValue) :
    (r.take f v).classConstant =
      if f = .classConstant then (f.type? v).or r.classConstant else r.classConstant := by
  cases f <;> rfl

theorem Reading.className_take (r : Reading) (f : MarkerField) (v : AnnotationValue) :
    (r.take f v).className =
      if f = .className then (f.type? v).or r.className else r.className := by
  cases f <;> rfl

/-- Class elements that are admitted, one for a field or two for the two fields, are taken in. -/
theorem foldlM_classElements {elements : List (String × AnnotationValue)} {f g : MarkerField}
    {v w : AnnotationValue} (hfg : f ≠ g) (hf : f ≠ .member) (hg : g ≠ .member) (hv : f.Admits v)
    (hw : g.Admits w) (hdefault : g.type? w = none)
    (h : elements ∈ [[(f.name, v)], [(f.name, v), (g.name, w)], [(g.name, w), (f.name, v)]]) :
    ∃ c : Reading, elements.foldlM o.readElement {} = .ok c ∧
      c.classConstant = (if f = .classConstant then f.type? v else none) ∧
      c.className = (if f = .className then f.type? v else none) := by
  have hname : ∀ {k : MarkerField}, k ≠ .member → o.field? k.name = some k := by
    intro k hk
    cases k with
    | classConstant => rfl
    | className => rfl
    | member => exact absurd rfl hk
  have hread : ∀ {r : Reading} {k : MarkerField} {u : AnnotationValue}, k ≠ .member → k.Admits u →
      k.name ∉ r.seen → o.readElement r (k.name, u) = .ok (r.take k u) :=
    fun hk hu hr => readElement_eq_ok_iff.2 ⟨_, hname hk, hu, hr, rfl⟩
  have hne : g.name ≠ f.name := fun h => hfg (MarkerField.name_injective h).symm
  have hempty : ∀ {k : MarkerField}, k.name ∉ ({} : Reading).seen := List.not_mem_nil
  have hseen : ∀ {k k' : MarkerField} {u : AnnotationValue}, k.name ≠ k'.name →
      k.name ∉ (({} : Reading).take k' u).seen := by
    intro k k' u hk
    cases k' <;> exact fun hmem => hk (List.mem_singleton.1 hmem)
  simp only [List.mem_cons, List.not_mem_nil, or_false] at h
  rcases h with rfl | rfl | rfl
  · refine ⟨({} : Reading).take f v, ?_, ?_⟩
    · rw [List.foldlM_cons, hread hf hv hempty]
      rfl
    · simp [Reading.classConstant_take, Reading.className_take]
  · refine ⟨(({} : Reading).take f v).take g w, ?_, ?_⟩
    · rw [List.foldlM_cons, hread hf hv hempty, Except.ok_bind, List.foldlM_cons,
        hread hg hw (hseen hne)]
      rfl
    · simp [Reading.classConstant_take, Reading.className_take, hdefault]
  · refine ⟨(({} : Reading).take g w).take f v, ?_, ?_⟩
    · rw [List.foldlM_cons, hread hg hw hempty, Except.ok_bind, List.foldlM_cons,
        hread hf hv (hseen hne.symm)]
      rfl
    · simp [Reading.classConstant_take, Reading.className_take, hdefault]

theorem foldlM_namesByText {t : JavaType} {elements : List (String × AnnotationValue)}
    (h : NamesByText t elements)
    (ht : ∀ front back, Text.AllBlank front → Text.AllBlank back →
      JavaType.ofSource (front ++ t.binaryName ++ back) = .ok t) :
    ∃ c, (classElements elements).foldlM o.readElement {} = .ok c ∧ c.classConstant = none ∧
      c.className = some t := by
  obtain ⟨front, back, hfront, hback, h⟩ := h
  have hread := ht front back hfront hback
  have hne : front ++ t.binaryName ++ back ≠ "" := by
    intro hempty
    rw [hempty] at hread
    cases hread
  have htype : MarkerField.type? .className (.text (front ++ t.binaryName ++ back)) = some t := by
    rw [MarkerField.type?, if_neg hne, hread]
    rfl
  have hadmits : MarkerField.Admits .className (.text (front ++ t.binaryName ++ back)) :=
    Or.inr ⟨t, hread⟩
  have hdefault : MarkerField.Admits .classConstant (.classLiteral "V") := Or.inl rfl
  obtain ⟨c, hc, hconstant, hname⟩ := foldlM_classElements (o := o) (f := .className)
    (g := .classConstant) (by simp) (by simp) (by simp) hadmits hdefault rfl h
  exact ⟨c, hc, hconstant, hname.trans htype⟩

theorem foldlM_namesByConstant {t : JavaType} {elements : List (String × AnnotationValue)}
    (h : NamesByConstant t elements) (ht : JavaType.ofDescriptor t.descriptor = .ok t)
    (hv : t ≠ .void) :
    ∃ c, (classElements elements).foldlM o.readElement {} = .ok c ∧ c.classConstant = some t ∧
      c.className = none := by
  have hne : t.descriptor ≠ "V" := by
    intro hV
    rw [hV] at ht
    exact hv (Except.ok.inj ht).symm
  have htype : MarkerField.type? .classConstant (.classLiteral t.descriptor) = some t := by
    rw [MarkerField.type?, if_neg hne, ht]
    rfl
  have hadmits : MarkerField.Admits .classConstant (.classLiteral t.descriptor) := Or.inr ⟨t, ht⟩
  have hdefault : MarkerField.Admits .className (.text "") := Or.inl rfl
  obtain ⟨c, hc, hconstant, hname⟩ := foldlM_classElements (o := o) (f := .classConstant)
    (g := .className) (by simp) (by simp) (by simp) hadmits hdefault rfl h
  exact ⟨c, hc, hconstant.trans htype, hname⟩

end Operation

namespace Directive

open Operation

/-- A method whose marker is exchanged for one that is read as the same makes the same directive, or
gives the same fault. -/
theorem collect_congr {settings : Settings} {o : Operation} {use use' : AnnotationUse}
    {before after : List AnnotationUse} {parameters : List (List AnnotationUse)}
    (htype : use'.type = use.type) (hmarker : settings.marker? use.type = some (.operation o))
    (hread : o.readElements use.elements = o.readElements use'.elements) :
    collect settings ⟨before ++ use :: after, parameters⟩ =
      collect settings ⟨before ++ use' :: after, parameters⟩ := by
  have hstep : ∀ r, readOnMethod settings r use = readOnMethod settings r use' := by
    intro r
    unfold readOnMethod
    rw [htype, hmarker]
    dsimp only
    rw [hread]
  have hfold : (before ++ use :: after).foldlM (readOnMethod settings) {} =
      (before ++ use' :: after).foldlM (readOnMethod settings) {} := by
    rw [List.foldlM_append, List.foldlM_append]
    refine bind_congr fun r => ?_
    rw [List.foldlM_cons, List.foldlM_cons, hstep]
  unfold collect
  dsimp only
  rw [hfold]

/-- The two ways to name the target class are equivalent, and reading a name normalises it. A type whose
class names have only `/`, and that is no class named like a keyword, is read back from its binary
name and from its descriptor, and it makes the same directive in either field of a marker. What any
source text gives is a type whose class names have only `/`. -/
theorem class_forms_equivalent :
    (∀ t : JavaType, t.Denotable → t ≠ .void → t.Slashed →
      (∀ word ∈ JavaType.keywords, t ≠ .object word) →
      (∀ front back, Text.AllBlank front → Text.AllBlank back →
        JavaType.ofSource (front ++ t.binaryName ++ back) = .ok t) ∧
      JavaType.ofDescriptor t.descriptor = .ok t ∧
      ∀ (settings : Settings) (o : Operation) (use use' : AnnotationUse)
        (before after : List AnnotationUse) (parameters : List (List AnnotationUse)),
        settings.marker? use.type = some (.operation o) → use'.type = use.type →
        otherElements use'.elements = otherElements use.elements →
        NamesByText t use.elements → NamesByConstant t use'.elements →
        collect settings ⟨before ++ use :: after, parameters⟩ =
          collect settings ⟨before ++ use' :: after, parameters⟩) ∧
    ∀ s t, JavaType.ofSource s = .ok t → t.Denotable ∧ t.Slashed := by
  refine ⟨?_, fun s t => JavaType.denotable_slashed_of_ofSource⟩
  intro t ht hv hslashed hkeyword
  have hsource : ∀ front back, Text.AllBlank front → Text.AllBlank back →
      JavaType.ofSource (front ++ t.binaryName ++ back) = .ok t :=
    fun _ _ hfront hback => JavaType.ofSource_binaryName ht hslashed hkeyword hfront hback
  have hdescriptor := JavaType.denotes_iff.2 ⟨ht, rfl⟩
  refine ⟨hsource, hdescriptor, ?_⟩
  intro settings o use use' before after parameters hmarker htype hothers htext hconstant
  obtain ⟨c, hc, hc₁, hc₂⟩ := foldlM_namesByText (o := o) htext hsource
  obtain ⟨c', hc', hc₁', hc₂'⟩ := foldlM_namesByConstant (o := o) hconstant hdescriptor hv
  exact collect_congr htype hmarker (readElements_congr hothers.symm hc hc'
    (by rw [hc₁, hc₂, hc₁', hc₂']; rfl) (by rw [hc₁, hc₂, hc₁', hc₂']; rfl))

/-- An array of strings, named between a tab and an ideographic space, and by its constant in front of
the default name. -/
theorem class_forms_of_string_array :
    JavaType.ofSource "\t[Ljava.lang.String;\u3000" = .ok (.array (.object "java/lang/String")) ∧
      collect ⟨"p", "E"⟩ ⟨[⟨"Lp/InvokeStatic;",
          [("className", .text "\t[Ljava.lang.String;\u3000"), ("methodName", .text "m")]⟩], []⟩ =
        collect ⟨"p", "E"⟩ ⟨[⟨"Lp/InvokeStatic;",
          [("classConstant", .classLiteral "[Ljava/lang/String;"), ("className", .text ""),
            ("methodName", .text "m")]⟩], []⟩ ∧
      JavaType.Slashed (.array (.object "java/lang/String")) := by
  have ht : (JavaType.array (.object "java/lang/String")).Denotable :=
    .array (.object (ClassName.isValid_iff.1 (by decide +kernel))) nofun
  have hblank : Text.AllBlank "\t" ∧ Text.AllBlank "\u3000" := by
    constructor <;> simp [Text.AllBlank] <;> decide
  obtain ⟨hsource, -, hcollect⟩ := class_forms_equivalent.1 (.array (.object "java/lang/String")) ht
    nofun (by simp [JavaType.Slashed]) (by decide)
  have hname := hsource "\t" "\u3000" hblank.1 hblank.2
  refine ⟨hname, ?_, (class_forms_equivalent.2 _ _ hname).2⟩
  exact hcollect ⟨"p", "E"⟩ .invokeStaticMethod ⟨"Lp/InvokeStatic;", _⟩ ⟨"Lp/InvokeStatic;", _⟩ [] [] []
    (by decide +kernel) rfl rfl ⟨"\t", "\u3000", hblank.1, hblank.2, .head _⟩ (.tail _ (.head _))

end Directive
end StubLinker
