import Mathlib.Data.Multiset.MapFold
import StubLinker.Link
import StubLinker.Proofs.Stub.Collected

namespace StubLinker

namespace Operation

variable {o : Operation} {elements elements' : List (String × AnnotationValue)}

theorem gives_perm (h : elements.Perm elements') {f : MarkerField} {v : AnnotationValue} :
    o.Gives elements f v ↔ o.Gives elements' f v :=
  exists_congr fun _ => and_congr_left' h.mem_iff

theorem Accepts.perm (h : o.Accepts elements) (hperm : elements.Perm elements') :
    o.Accepts elements' where
  known e he := h.known e (hperm.mem_iff.2 he)
  once := (hperm.map _).nodup h.once
  single v w hv hw := h.single v w ((gives_perm hperm).2 hv) ((gives_perm hperm).2 hw)
  named ho := by
    obtain ⟨name, hname, hne⟩ := h.named ho
    exact ⟨name, (gives_perm hperm).1 hname, hne⟩

theorem Decodes.perm {target : Option JavaType} {member : Option String}
    (h : o.Decodes elements target member) (hperm : elements.Perm elements') :
    o.Decodes elements' target member where
  target t := by simpa only [gives_perm hperm] using h.target t
  member name := by simpa only [gives_perm hperm] using h.member name

end Operation

namespace AnnotationUse

def unordered (a : AnnotationUse) : Option String × Multiset (Option (String × AnnotationValue)) :=
  (some a.type, ↑(a.elements.map some))

theorem of_unordered_eq {a a' : AnnotationUse} (h : a.unordered = a'.unordered) :
    a.type = a'.type ∧ a.elements.Perm a'.elements := by
  obtain ⟨htype, helements⟩ := Prod.ext_iff.1 h
  exact ⟨Option.some.inj htype,
    (List.map_perm_map_iff (Option.some_injective _)).1 (Multiset.coe_eq_coe.1 helements)⟩

theorem ReadsAs.perm {a a' : AnnotationUse} {t : JavaType} (h : a.ReadsAs t)
    (hperm : a.elements.Perm a'.elements) : a'.ReadsAs t := by
  obtain ⟨name, helements, ht⟩ := h
  rw [helements] at hperm
  exact ⟨name, List.perm_singleton.1 hperm.symm, ht⟩

theorem operation?_congr {settings : Settings} {a a' : AnnotationUse} (h : a.type = a'.type) :
    a.operation? settings = a'.operation? settings := by
  rw [operation?, operation?, h]

theorem isOverride_congr {settings : Settings} {a a' : AnnotationUse} (h : a.type = a'.type) :
    a.isOverride settings = a'.isOverride settings := by
  rw [isOverride, isOverride, h]

end AnnotationUse

namespace Directive

/-- The annotations of one place are those of the other one, but for their order and that of their
elements. -/
def Reordered (uses uses' : List AnnotationUse) : Prop :=
  (uses.map AnnotationUse.unordered).Perm (uses'.map AnnotationUse.unordered)

section Uses

variable {settings : Settings} {uses uses' : List AnnotationUse}

theorem Reordered.symm (h : Reordered uses uses') : Reordered uses' uses :=
  List.Perm.symm h

theorem Reordered.exists_of_mem (h : Reordered uses uses') {a : AnnotationUse} (ha : a ∈ uses) :
    ∃ a' ∈ uses', a.type = a'.type ∧ a.elements.Perm a'.elements := by
  obtain ⟨a', ha', he⟩ := List.mem_map.1 (h.mem_iff.1 (List.mem_map_of_mem ha))
  exact ⟨a', ha', AnnotationUse.of_unordered_eq he.symm⟩

theorem Reordered.countP_eq (h : Reordered uses uses') {p : AnnotationUse → Bool}
    (hp : ∀ a a' : AnnotationUse, a.type = a'.type → p a = p a') :
    uses.countP p = uses'.countP p := by
  -- what is told by the type is told by what is left without the order of the elements
  have hcount (uses : List AnnotationUse) : uses.countP p =
      (uses.map AnnotationUse.unordered).countP fun a => a.1.any fun type => p ⟨type, []⟩ := by
    rw [List.countP_map]
    exact List.countP_congr fun a _ => by rw [hp a ⟨a.type, []⟩ rfl]; rfl
  rw [hcount uses, hcount uses']
  exact List.Perm.countP_eq _ h

theorem OverridesOnce.reordered (h : OverridesOnce settings uses) (hr : Reordered uses uses') :
    OverridesOnce settings uses' where
  once := (hr.countP_eq fun _ _ => AnnotationUse.isOverride_congr) ▸ h.once
  named a ha hoverride := by
    obtain ⟨a', ha', htype, hperm⟩ := hr.symm.exists_of_mem ha
    obtain ⟨t, ht⟩ := h.named a' ha' (AnnotationUse.isOverride_congr htype ▸ hoverride)
    exact ⟨t, ht.perm hperm.symm⟩

theorem OverriddenBy.reordered {t : JavaType} (h : OverriddenBy settings uses t)
    (hr : Reordered uses uses') : OverriddenBy settings uses' t := by
  obtain ⟨a, ha, hoverride, ht⟩ := h
  obtain ⟨a', ha', htype, hperm⟩ := hr.exists_of_mem ha
  exact ⟨a', ha', AnnotationUse.isOverride_congr htype ▸ hoverride, ht.perm hperm⟩

theorem overriddenBy_reordered (hr : Reordered uses uses') {t : JavaType} :
    OverriddenBy settings uses t ↔ OverriddenBy settings uses' t :=
  ⟨fun h => h.reordered hr, fun h => h.reordered hr.symm⟩

theorem overridesOnce_nil : OverridesOnce settings [] :=
  ⟨by simp, by simp⟩

theorem not_overriddenBy_nil {t : JavaType} : ¬OverriddenBy settings [] t := by
  rintro ⟨a, ha, -⟩
  cases ha

end Uses

end Directive

namespace MethodAnnotations

/-- The annotations on a parameter; there are none on one that the table lacks. -/
def parameter (annotations : MethodAnnotations) (i : Nat) : List AnnotationUse :=
  annotations.parameters[i]?.getD []

/-- The annotations of one method are those of the other one, but for their order, that of their
elements, and parameters without annotations. -/
structure Reordered (annotations annotations' : MethodAnnotations) : Prop where
  method : Directive.Reordered annotations.method annotations'.method
  parameter : ∀ i, Directive.Reordered (annotations.parameter i) (annotations'.parameter i)

/-- What parameters without annotations have holds of all parameters if it holds at every index. -/
theorem forall_parameters {annotations : MethodAnnotations} {P : List AnnotationUse → Prop}
    (hnil : P []) : (∀ uses ∈ annotations.parameters, P uses) ↔ ∀ i, P (annotations.parameter i) := by
  constructor
  · intro h i
    rw [parameter]
    cases hi : annotations.parameters[i]? with
    | none => exact hnil
    | some uses => exact h uses (List.mem_of_getElem? hi)
  · intro h uses huses
    obtain ⟨i, hi⟩ := List.mem_iff_getElem?.1 huses
    simpa [parameter, hi] using h i

theorem exists_parameter {annotations : MethodAnnotations} {P : List AnnotationUse → Prop}
    (hnil : ¬P []) {i : Nat} :
    (∃ uses, annotations.parameters[i]? = some uses ∧ P uses) ↔ P (annotations.parameter i) := by
  rw [parameter]
  cases annotations.parameters[i]? <;> simp [hnil]

end MethodAnnotations

namespace Directive

variable {settings : Settings} {annotations annotations' : MethodAnnotations}

theorem WellMarked.reordered (h : WellMarked settings annotations)
    (hr : annotations.Reordered annotations') : WellMarked settings annotations' where
  one := by
    rw [← h.one]
    exact (hr.method.countP_eq fun _ _ htype => by rw [AnnotationUse.operation?_congr htype]).symm
  accepts a ha o ho := by
    obtain ⟨a', ha', htype, hperm⟩ := hr.method.symm.exists_of_mem ha
    exact (h.accepts a' ha' o (AnnotationUse.operation?_congr htype ▸ ho)).perm hperm.symm
  returns := h.returns.reordered hr.method
  parameters := by
    refine (MethodAnnotations.forall_parameters overridesOnce_nil).2 fun i => ?_
    exact ((MethodAnnotations.forall_parameters overridesOnce_nil).1 h.parameters i).reordered
      (hr.parameter i)

theorem Decodes.reordered {d : Directive} (h : d.Decodes settings annotations)
    (hr : annotations.Reordered annotations') : d.Decodes settings annotations' where
  operation := by
    obtain ⟨a, ha, ho, hdecodes⟩ := h.operation
    obtain ⟨a', ha', htype, hperm⟩ := hr.method.exists_of_mem ha
    exact ⟨a', ha', AnnotationUse.operation?_congr htype ▸ ho, hdecodes.perm hperm⟩
  returns t := (h.returns t).trans (overriddenBy_reordered hr.method)
  ascending := h.ascending
  parameters i t := by
    rw [h.parameters, MethodAnnotations.exists_parameter not_overriddenBy_nil,
      MethodAnnotations.exists_parameter not_overriddenBy_nil,
      overriddenBy_reordered (hr.parameter i)]

theorem collect_reordered (hr : annotations.Reordered annotations') {found : Option Directive}
    (h : collect settings annotations = .ok found) :
    collect settings annotations' = .ok found := by
  cases found with
  | some d =>
    obtain ⟨hmarked, hdecodes⟩ := collect_eq_ok_some_iff.1 h
    exact collect_eq_ok_some_iff.2 ⟨hmarked.reordered hr, hdecodes.reordered hr⟩
  | none =>
    obtain ⟨hmethod, hparameters⟩ := collect_eq_ok_none_iff.1 h
    refine collect_eq_ok_none_iff.2 ⟨fun a ha => ?_, ?_⟩
    · obtain ⟨a', ha', htype, -⟩ := hr.method.symm.exists_of_mem ha
      rw [htype]
      exact hmethod a' ha'
    · rw [MethodAnnotations.forall_parameters (by simp)] at hparameters ⊢
      intro i a ha
      obtain ⟨a', ha', htype, -⟩ := (hr.parameter i).symm.exists_of_mem ha
      rw [htype]
      exact hparameters i a' ha'

end Directive

namespace RawAnnotationUse

variable {pool : Pool}

/-- The annotation as the pool shows it, but for the order of its elements. What cannot be looked up
is not told apart. -/
def shown (pool : Pool) (a : RawAnnotationUse) :
    Option String × Multiset (Option (String × AnnotationValue)) :=
  ((pool.text a.type).toOption, ↑(a.elements.map fun e => (resolveElement pool e).toOption))

theorem resolve_eq_ok {a : RawAnnotationUse} {use : AnnotationUse} :
    a.resolve pool = .ok use ↔ pool.text a.type = .ok use.type ∧
      a.elements.map (resolveElement pool) = use.elements.map .ok := by
  unfold resolve
  simp only [Except.bind_eq_ok, Except.mapM_eq_ok]
  constructor
  · rintro ⟨type, htype, elements, helements, ⟨⟩⟩
    exact ⟨htype, helements⟩
  · rintro ⟨htype, helements⟩
    exact ⟨_, htype, _, helements, rfl⟩

theorem shown_of_resolve {a : RawAnnotationUse} {use : AnnotationUse}
    (h : a.resolve pool = .ok use) : a.shown pool = use.unordered := by
  obtain ⟨htype, helements⟩ := resolve_eq_ok.1 h
  have hmap : a.elements.map (fun e => (resolveElement pool e).toOption) =
      use.elements.map some := by
    rw [← Function.comp_def, ← List.map_map, helements, List.map_map]
    rfl
  rw [shown, htype, hmap]
  rfl

theorem exists_resolve {a : RawAnnotationUse} {use : AnnotationUse}
    (h : a.shown pool = use.unordered) : ∃ use', a.resolve pool = .ok use' := by
  obtain ⟨htype, helements⟩ := Prod.ext_iff.1 h
  have heach : ∀ e ∈ a.elements, ∃ element, resolveElement pool e = .ok element := by
    intro e he
    have hmem := (Multiset.coe_eq_coe.1 helements).mem_iff.1 (List.mem_map_of_mem he)
    obtain ⟨element, -, helement⟩ := List.mem_map.1 hmem
    exact ⟨element, Except.eq_ok_of_toOption helement.symm⟩
  obtain ⟨elements, helements⟩ := Except.exists_map_eq_ok heach
  exact ⟨⟨use.type, elements⟩, resolve_eq_ok.2 ⟨Except.eq_ok_of_toOption htype, helements⟩⟩

end RawAnnotationUse

namespace Attribute

def onMethod : Attribute → List RawAnnotationUse
  | annotations _ entries => entries
  | _ => []

/-- The annotations that an attribute puts on the parameter at an index. -/
def onParameter (i : Nat) : Attribute → List RawAnnotationUse
  | parameterAnnotations _ parameters => parameters[i]?.getD []
  | _ => []

end Attribute

theorem getD_joinParameters (left right : List (List AnnotationUse)) (i : Nat) :
    (joinParameters left right)[i]?.getD [] = left[i]?.getD [] ++ right[i]?.getD [] := by
  induction left, right using joinParameters.induct generalizing i with
  | case1 right => simp [joinParameters]
  | case2 left hleft => cases left <;> simp [joinParameters]
  | case3 l left r right ih =>
    cases i with
    | zero => rfl
    | succ i => simpa [joinParameters] using ih i

def Resolves (pool : Pool) (raws : List RawAnnotationUse) (uses : List AnnotationUse) : Prop :=
  raws.map (RawAnnotationUse.resolve pool) = uses.map .ok

section Resolves

variable {pool : Pool} {raws raws' : List RawAnnotationUse} {uses uses' : List AnnotationUse}

theorem Resolves.append (h : Resolves pool raws uses) (h' : Resolves pool raws' uses') :
    Resolves pool (raws ++ raws') (uses ++ uses') := by
  rw [Resolves, List.map_append, List.map_append, h, h']

theorem Resolves.map_shown (h : Resolves pool raws uses) :
    raws.map (RawAnnotationUse.shown pool) = uses.map AnnotationUse.unordered := by
  induction raws generalizing uses with
  | nil =>
    obtain rfl := List.map_eq_nil_iff.1 h.symm
    rfl
  | cons raw raws ih =>
    cases uses with
    | nil => cases h
    | cons use uses =>
      obtain ⟨huse, h⟩ := List.cons.inj h
      rw [List.map_cons, List.map_cons, RawAnnotationUse.shown_of_resolve huse, ih h]

theorem Resolves.exists_of_perm (h : Resolves pool raws uses)
    (hperm : (raws.map (RawAnnotationUse.shown pool)).Perm (raws'.map (RawAnnotationUse.shown pool)))
    {raw : RawAnnotationUse} (hraw : raw ∈ raws') : ∃ use, raw.resolve pool = .ok use := by
  have hmem := hperm.mem_iff.2 (List.mem_map_of_mem hraw)
  rw [h.map_shown] at hmem
  obtain ⟨use, -, huse⟩ := List.mem_map.1 hmem
  exact RawAnnotationUse.exists_resolve huse.symm

end Resolves

namespace Member

variable {pool : Pool} {found found' : MethodAnnotations} {attributes : List Attribute}

/-- One attribute adds its annotations to those of the method and of each parameter. -/
theorem readAnnotations_eq_ok {a : Attribute} (h : readAnnotations pool found a = .ok found') :
    (∃ uses, Resolves pool a.onMethod uses ∧ found'.method = found.method ++ uses) ∧
      ∀ i, ∃ uses, Resolves pool (a.onParameter i) uses ∧
        found'.parameter i = found.parameter i ++ uses := by
  cases a with
  | annotations name entries =>
    obtain ⟨uses, huses, h⟩ := Except.bind_eq_ok.1 h
    cases h
    exact ⟨⟨uses, Except.mapM_eq_ok.1 huses, rfl⟩, fun i => ⟨[], rfl, (List.append_nil _).symm⟩⟩
  | parameterAnnotations name parameters =>
    obtain ⟨table, htable, h⟩ := Except.bind_eq_ok.1 h
    cases h
    refine ⟨⟨[], rfl, (List.append_nil _).symm⟩, fun i => ⟨table[i]?.getD [], ?_,
      getD_joinParameters _ _ i⟩⟩
    have hi := congrArg (·[i]?) (Except.mapM_eq_ok.1 htable)
    simp only [List.getElem?_map] at hi
    simp only [Attribute.onParameter]
    cases hparameter : parameters[i]? with
    | none =>
      rw [hparameter, Option.map_none, eq_comm, Option.map_eq_none_iff] at hi
      rw [hi]
      rfl
    | some entries =>
      rw [hparameter, Option.map_some, eq_comm, Option.map_eq_some_iff] at hi
      obtain ⟨uses, huses, hentries⟩ := hi
      rw [huses]
      exact Except.mapM_eq_ok.1 hentries.symm
  | _ =>
    cases h
    exact ⟨⟨[], rfl, (List.append_nil _).symm⟩, fun i => ⟨[], rfl, (List.append_nil _).symm⟩⟩

theorem exists_readAnnotations (found : MethodAnnotations) {a : Attribute}
    (hmethod : ∀ raw ∈ a.onMethod, ∃ use, raw.resolve pool = .ok use)
    (hparameters : ∀ i, ∀ raw ∈ a.onParameter i, ∃ use, raw.resolve pool = .ok use) :
    ∃ found', readAnnotations pool found a = .ok found' := by
  have hentries {entries : List RawAnnotationUse}
      (h : ∀ raw ∈ entries, ∃ use, raw.resolve pool = .ok use) :
      ∃ uses, entries.mapM (RawAnnotationUse.resolve pool) = .ok uses := by
    obtain ⟨uses, huses⟩ := Except.exists_map_eq_ok h
    exact ⟨uses, Except.mapM_eq_ok.2 huses⟩
  cases a with
  | annotations name entries =>
    obtain ⟨uses, huses⟩ := hentries hmethod
    exact ⟨_, Except.bind_eq_ok.2 ⟨uses, huses, rfl⟩⟩
  | parameterAnnotations name parameters =>
    have heach : ∀ entries ∈ parameters,
        ∃ uses, entries.mapM (RawAnnotationUse.resolve pool) = .ok uses := by
      intro entries h
      obtain ⟨i, hi⟩ := List.mem_iff_getElem?.1 h
      exact hentries (by simpa [Attribute.onParameter, hi] using hparameters i)
    obtain ⟨table, htable⟩ := Except.exists_map_eq_ok heach
    exact ⟨_, Except.bind_eq_ok.2 ⟨table, Except.mapM_eq_ok.2 htable, rfl⟩⟩
  | _ => exact ⟨found, rfl⟩

/-- What was found are the annotations of the attributes, by where they are put. -/
structure Gathers (pool : Pool) (attributes : List Attribute) (found : MethodAnnotations) :
    Prop where
  method : Resolves pool (attributes.flatMap Attribute.onMethod) found.method
  parameter : ∀ i, Resolves pool (attributes.flatMap (Attribute.onParameter i)) (found.parameter i)

theorem gathers_of_foldlM_readAnnotations
    (h : attributes.foldlM (readAnnotations pool) {} = .ok found) :
    Gathers pool attributes found := by
  induction attributes using List.reverseRecOn generalizing found with
  | nil =>
    cases h
    exact ⟨rfl, fun i => rfl⟩
  | append_singleton attributes a ih =>
    rw [List.foldlM_append] at h
    obtain ⟨found₀, hfront, h⟩ := Except.bind_eq_ok.1 h
    obtain ⟨⟨uses, huses, hmethod⟩, hparameters⟩ :=
      readAnnotations_eq_ok (a := a) (by simpa using h)
    refine ⟨?_, fun i => ?_⟩
    · rw [List.flatMap_append, hmethod]
      exact (ih hfront).method.append (by simpa using huses)
    · obtain ⟨uses, huses, hi⟩ := hparameters i
      rw [List.flatMap_append, hi]
      exact ((ih hfront).parameter i).append (by simpa using huses)

theorem exists_foldlM_readAnnotations (found : MethodAnnotations)
    (hmethod : ∀ raw ∈ attributes.flatMap Attribute.onMethod, ∃ use, raw.resolve pool = .ok use)
    (hparameters : ∀ i, ∀ raw ∈ attributes.flatMap (Attribute.onParameter i),
      ∃ use, raw.resolve pool = .ok use) :
    ∃ found', attributes.foldlM (readAnnotations pool) found = .ok found' := by
  induction attributes generalizing found with
  | nil => exact ⟨found, rfl⟩
  | cons a attributes ih =>
    simp only [List.flatMap_cons, List.forall_mem_append, forall_and] at hmethod hparameters
    obtain ⟨found₀, hfirst⟩ := exists_readAnnotations found hmethod.1 hparameters.1
    obtain ⟨found', hrest⟩ := ih found₀ hmethod.2 hparameters.2
    exact ⟨found', by rw [List.foldlM_cons, hfirst]; exact hrest⟩

/-- The directive of a method, read from its attributes. -/
def directive (settings : Settings) (pool : Pool) (method : String) (m : Member) :
    Except LinkError (Option Directive) := do
  let annotations ← (m.annotations pool).mapError .classFile
  (Directive.collect settings annotations).mapError (.stub method)

/-- The pool shows the same annotations on both methods and on each of their parameters, whichever
attributes they stand in. -/
structure Regroups (pool : Pool) (m m' : Member) : Prop where
  method : ((m.attributes.flatMap Attribute.onMethod).map (RawAnnotationUse.shown pool)).Perm
    ((m'.attributes.flatMap Attribute.onMethod).map (RawAnnotationUse.shown pool))
  parameter : ∀ i,
    ((m.attributes.flatMap (Attribute.onParameter i)).map (RawAnnotationUse.shown pool)).Perm
      ((m'.attributes.flatMap (Attribute.onParameter i)).map (RawAnnotationUse.shown pool))

variable {m m' : Member}

theorem Regroups.symm (h : Regroups pool m m') : Regroups pool m' m :=
  ⟨h.method.symm, fun i => (h.parameter i).symm⟩

theorem Regroups.annotations (h : Regroups pool m m') (hfound : m.annotations pool = .ok found) :
    ∃ found', m'.annotations pool = .ok found' ∧ found.Reordered found' := by
  have hgathers := gathers_of_foldlM_readAnnotations hfound
  obtain ⟨found', hfound'⟩ : ∃ found', m'.annotations pool = .ok found' :=
    exists_foldlM_readAnnotations {} (fun raw hraw => hgathers.method.exists_of_perm h.method hraw)
      fun i raw hraw => (hgathers.parameter i).exists_of_perm (h.parameter i) hraw
  have hgathers' := gathers_of_foldlM_readAnnotations hfound'
  refine ⟨found', hfound', ?_, fun i => ?_⟩
  · have hmethod := h.method
    rwa [hgathers.method.map_shown, hgathers'.method.map_shown] at hmethod
  · have hparameter := h.parameter i
    rwa [(hgathers.parameter i).map_shown, (hgathers'.parameter i).map_shown] at hparameter

theorem directive_eq_ok {settings : Settings} {method : String} {d : Option Directive} :
    m.directive settings pool method = .ok d ↔
      ∃ found, m.annotations pool = .ok found ∧ Directive.collect settings found = .ok d := by
  simp only [directive, Except.bind_eq_ok, Except.mapError_eq_ok]

theorem Regroups.directive (h : Regroups pool m m') {settings : Settings} {method : String}
    {d : Option Directive} (hd : m.directive settings pool method = .ok d) :
    m'.directive settings pool method = .ok d := by
  obtain ⟨found, hfound, hcollect⟩ := directive_eq_ok.1 hd
  obtain ⟨found', hfound', hr⟩ := h.annotations hfound
  exact directive_eq_ok.2 ⟨found', hfound', Directive.collect_reordered hr hcollect⟩

/-- However the annotations of a method are stored, it has the same directive, or none of the ways to
store them is accepted. -/
theorem directive_agrees (settings : Settings) (method : String) (h : Regroups pool m m') :
    (∃ d, m.directive settings pool method = .ok d ∧ m'.directive settings pool method = .ok d) ∨
      (∃ e, m.directive settings pool method = .error e) ∧
        ∃ e, m'.directive settings pool method = .error e :=
  Except.agree fun _ => ⟨h.directive, h.symm.directive⟩

/-- A static stub whose annotations stand in one attribute each, or are spread over four of them in
another order, with a longer table for the parameters. -/
theorem directive_agrees_spread :
    ∃ pool m m' d, Regroups pool m m' ∧ m ≠ m' ∧
      m.directive ⟨"p", "E"⟩ pool "C.f" = .ok (some d) ∧
      m'.directive ⟨"p", "E"⟩ pool "C.f" = .ok (some d) := by
  let pool : Pool := ⟨#[some (.utf8 "Lp/GetStatic;"), some (.utf8 "className"), some (.utf8 "a.B"),
    some (.utf8 "fieldName"), some (.utf8 "f"), some (.utf8 "Lp/TypeName;"), some (.utf8 "value"),
    some (.utf8 "long")]⟩
  let override : RawAnnotationUse := ⟨6, [(7, .text 8)]⟩
  let a : RawAnnotationUse := ⟨1, [(2, .text 3), (4, .text 5)]⟩
  let a' : RawAnnotationUse := ⟨1, [(4, .text 5), (2, .text 3)]⟩
  let m : Member := ⟨0x0008, 5, 5, [
    .annotations 9 [a, override],
    .parameterAnnotations 10 [[override]]]⟩
  let m' : Member := ⟨0x0008, 5, 5, [
    .parameterAnnotations 11 [[], []],
    .annotations 12 [override],
    .parameterAnnotations 10 [[override]],
    .annotations 9 [a']]⟩
  have h : Regroups pool m m' := by
    have ha : a.shown pool = a'.shown pool :=
      congrArg (Prod.mk _) (Multiset.coe_eq_coe.2 (.swap _ _ _))
    refine ⟨?_, fun i => ?_⟩
    · change [a.shown pool, override.shown pool].Perm [override.shown pool, a'.shown pool]
      rw [ha]
      exact .swap _ _ _
    · cases i with
      | zero => exact .refl _
      | succ i => cases i <;> exact .refl _
  have hd : m.directive ⟨"p", "E"⟩ pool "C.f" = .ok (some ⟨.readStaticField,
      some (.object "a/B"), some "f", [(0, .primitive .long)], some (.primitive .long)⟩) :=
    Except.eq_ok_of_toOption (by decide +kernel)
  refine ⟨pool, m, m', _, h, by decide, hd, ?_⟩
  rcases directive_agrees ⟨"p", "E"⟩ "C.f" h with ⟨d, hleft, hright⟩ | ⟨⟨e, he⟩, -⟩
  · obtain rfl := Except.ok.inj (hd.symm.trans hleft)
    exact hright
  · cases hd.symm.trans he

end Member

theorem Stub.ofMember_eq (settings : Settings) (pool : Pool) (className : String) (m : Member) :
    Stub.ofMember settings pool className m = (do
      let name ← (pool.text m.name).mapError .classFile
      let descriptor ← (pool.text m.descriptor).mapError .classFile
      let directive ← m.directive settings pool s!"{className}.{name}{descriptor}"
      return directive.map (⟨className, name, descriptor, ·⟩)) := by
  simp only [Stub.ofMember, Member.directive, bind_assoc]

end StubLinker
