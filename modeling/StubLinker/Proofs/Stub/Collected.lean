import Mathlib.Data.List.Induction
import Mathlib.Data.List.Sort
import StubLinker.Proofs.Stub.Elements

namespace StubLinker

def Marker.operation? : Marker → Option Operation
  | operation o => some o
  | typeOverride => none

namespace AnnotationUse

def operation? (settings : Settings) (a : AnnotationUse) : Option Operation :=
  (settings.marker? a.type).bind Marker.operation?

def isOverride (settings : Settings) (a : AnnotationUse) : Bool :=
  settings.marker? a.type = some .typeOverride

/-- What reading an annotation's operation gives, if it selects one. -/
def selection? (settings : Settings) (a : AnnotationUse) :
    Option (Except StubFault (Operation × Option JavaType × Option String)) :=
  (a.operation? settings).map fun o => (o.readElements a.elements).map fun found => (o, found)

/-- What reading an annotation's type gives, if it overrides one. -/
def override? (settings : Settings) (a : AnnotationUse) : Option (Except StubFault JavaType) :=
  if a.isOverride settings then some (Directive.readOverride a.elements) else none

theorem selection?_eq_some_ok {settings : Settings} {a : AnnotationUse} {o : Operation}
    {target : Option JavaType} {member : Option String} :
    a.selection? settings = some (.ok (o, target, member)) ↔
      a.operation? settings = some o ∧ o.Accepts a.elements ∧
        o.Decodes a.elements target member := by
  rw [selection?, Option.map_eq_some_iff]
  constructor
  · rintro ⟨o', ho, hread⟩
    cases helements : o'.readElements a.elements with
    | error fault => simp [helements, Except.map] at hread
    | ok found =>
      simp only [helements, Except.map, Except.ok.injEq, Prod.mk.injEq] at hread
      obtain ⟨rfl, rfl⟩ := hread
      exact ⟨ho, Operation.readElements_eq_ok_iff.1 helements⟩
  · rintro ⟨ho, h⟩
    exact ⟨o, ho, by rw [Operation.readElements_eq_ok_iff.2 h]; rfl⟩

theorem override?_eq_some_ok {settings : Settings} {a : AnnotationUse} {t : JavaType} :
    a.override? settings = some (.ok t) ↔ a.isOverride settings = true ∧ a.ReadsAs t := by
  rw [override?, ← Directive.readOverride_eq_ok_iff]
  by_cases h : a.isOverride settings = true <;> simp [h]

theorem override?_eq_none {settings : Settings} {a : AnnotationUse} :
    a.override? settings = none ↔ settings.marker? a.type ≠ some .typeOverride := by
  simp [override?, isOverride]

theorem unmarked_iff {settings : Settings} {a : AnnotationUse} :
    a.selection? settings = none ∧ a.override? settings = none ↔
      settings.marker? a.type = none := by
  simp only [override?_eq_none, selection?, operation?, Option.map_eq_none_iff]
  cases settings.marker? a.type with
  | none => simp
  | some marker => cases marker <;> simp [Marker.operation?]

end AnnotationUse

namespace Directive

section Slot

variable {α β ε : Type} {g : α → Option (Except ε β)} {as : List α} {a : α} {found found' : Option β}

/-- What a slot holds once elements have been offered to it: at most one has anything for it, which
could be read. -/
def Fills (g : α → Option (Except ε β)) (as : List α) (found : Option β) : Prop :=
  as.filterMap g = (found.map Except.ok).toList

/-- How a slot changes when it is offered what an element has for it. -/
inductive Takes : Option (Except ε β) → Option β → Option β → Prop
  | skip {found : Option β} : Takes none found found
  | fill {b : β} : Takes (some (.ok b)) none (some b)

theorem takes_none : Takes (none : Option (Except ε β)) found found' ↔ found' = found := by
  constructor
  · rintro ⟨⟩
    rfl
  · rintro rfl
    exact .skip

theorem takes_some {r : Except ε β} :
    Takes (some r) found found' ↔ ∃ b, r = .ok b ∧ found = none ∧ found' = some b := by
  constructor
  · rintro ⟨⟩
    exact ⟨_, rfl, rfl, rfl⟩
  · rintro ⟨b, rfl, rfl, rfl⟩
    exact .fill

theorem fills_nil : Fills g [] found ↔ found = none := by
  cases found <;> simp [Fills]

theorem fills_append_singleton :
    Fills g (as ++ [a]) found' ↔ ∃ found, Fills g as found ∧ Takes (g a) found found' := by
  cases ha : g a with
  | none => simp [Fills, takes_none, ha]
  | some r =>
    cases found' with
    | none => simp [Fills, takes_some, ha]
    | some b =>
      simp only [Fills, takes_some, List.filterMap_append, List.filterMap_cons, ha, List.filterMap_nil,
        Option.map_some, Option.toList_some, List.append_eq_singleton_iff]
      constructor
      · rintro (⟨hempty, hlast⟩ | ⟨-, hlast⟩)
        · exact ⟨none, hempty, b, (List.singleton_inj.1 hlast), rfl, rfl⟩
        · cases hlast
      · rintro ⟨-, hempty, b', rfl, rfl, hb⟩
        obtain rfl := Option.some.inj hb
        exact .inl ⟨hempty, rfl⟩

theorem fills_none : Fills g as none ↔ ∀ a ∈ as, g a = none := by
  rw [Fills, Option.map_none, Option.toList_none, List.filterMap_eq_nil_iff]

theorem Fills.once (h : Fills g as found) : (as.countP fun a => (g a).isSome) ≤ 1 := by
  rw [← List.length_filterMap_eq_countP, h]
  cases found <;> simp

theorem Fills.read (h : Fills g as found) {r : Except ε β} (ha : a ∈ as) (hr : g a = some r) :
    ∃ b, r = .ok b := by
  have hmem : r ∈ as.filterMap g := List.mem_filterMap.2 ⟨a, ha, hr⟩
  rw [h, Option.mem_toList] at hmem
  obtain ⟨b, -, rfl⟩ := Option.map_eq_some_iff.1 hmem
  exact ⟨b, rfl⟩

theorem Fills.holds (h : Fills g as found) (b : β) :
    found = some b ↔ ∃ a ∈ as, g a = some (.ok b) := by
  rw [← List.mem_filterMap, h]
  cases found <;> simp [eq_comm]

theorem exists_fills (honce : (as.countP fun a => (g a).isSome) ≤ 1)
    (hread : ∀ a ∈ as, ∀ r, g a = some r → ∃ b, r = .ok b) : ∃ found, Fills g as found := by
  rw [← List.length_filterMap_eq_countP] at honce
  match hoffers : as.filterMap g with
  | [] => exact ⟨none, hoffers⟩
  | [r] =>
    obtain ⟨a, ha, hr⟩ := List.mem_filterMap.1 (hoffers ▸ List.mem_singleton_self r)
    obtain ⟨b, rfl⟩ := hread a ha r hr
    exact ⟨some b, hoffers⟩
  | _ :: _ :: _ => simp [hoffers] at honce

/-- A slot is filled without a fault exactly if at most one element has something for it and that
can be read; the slot then holds it. -/
theorem fills_iff :
    Fills g as found ↔
      (as.countP fun a => (g a).isSome) ≤ 1 ∧ (∀ a ∈ as, ∀ r, g a = some r → ∃ b, r = .ok b) ∧
        ∀ b, found = some b ↔ ∃ a ∈ as, g a = some (.ok b) := by
  constructor
  · exact fun h => ⟨h.once, fun _ ha _ hr => h.read ha hr, h.holds⟩
  · rintro ⟨honce, hread, hholds⟩
    obtain ⟨found', h⟩ := exists_fills honce hread
    obtain rfl : found' = found := Option.ext fun b => (h.holds b).trans (hholds b).symm
    exact h

end Slot

section Uses

variable {settings : Settings} {uses : List AnnotationUse} {index : Nat}

theorem readOnMethod_eq_ok_iff {r r' : Reading} {a : AnnotationUse} :
    readOnMethod settings r a = .ok r' ↔
      Takes (a.selection? settings) r.operation r'.operation ∧
        Takes (a.override? settings) r.returnOverride r'.returnOverride := by
  obtain ⟨operation, returnOverride⟩ := r
  obtain ⟨operation', returnOverride'⟩ := r'
  unfold readOnMethod AnnotationUse.selection? AnnotationUse.override? AnnotationUse.operation?
    AnnotationUse.isOverride
  cases hmarker : settings.marker? a.type with
  | none => simp [takes_none, eq_comm]
  | some marker =>
    cases marker with
    | operation o =>
      cases operation with
      | some first => simp [Marker.operation?, takes_none, takes_some]
      | none =>
        cases hread : o.readElements a.elements <;>
          simp [Marker.operation?, takes_none, takes_some, hread, Except.map, eq_comm]
    | typeOverride =>
      cases returnOverride with
      | some first => simp [Marker.operation?, takes_none, takes_some]
      | none =>
        cases readOverride a.elements <;>
          simp [Marker.operation?, takes_none, takes_some, Except.map, eq_comm]

theorem readOnParameter_eq_ok_iff {found found' : Option JavaType} {a : AnnotationUse} :
    readOnParameter settings index found a = .ok found' ↔
      Takes (a.override? settings) found found' := by
  unfold readOnParameter AnnotationUse.override? AnnotationUse.isOverride
  by_cases hmarker : settings.marker? a.type = some .typeOverride
  · cases found with
    | some first => simp [takes_some, hmarker]
    | none =>
      cases readOverride a.elements <;> simp [takes_some, hmarker, Except.map, eq_comm]
  · simp [takes_none, hmarker, eq_comm]

theorem foldlM_readOnMethod {r : Reading} :
    uses.foldlM (readOnMethod settings) {} = .ok r ↔
      Fills (·.selection? settings) uses r.operation ∧
        Fills (·.override? settings) uses r.returnOverride := by
  induction uses using List.reverseRecOn generalizing r with
  | nil =>
    obtain ⟨operation, returnOverride⟩ := r
    simp [fills_nil, pure, Except.pure, eq_comm]
  | append_singleton uses a ih =>
    have hlast {r₀ : Reading} :
        [a].foldlM (readOnMethod settings) r₀ = .ok r ↔ readOnMethod settings r₀ a = .ok r := by
      simp
    simp only [List.foldlM_append, Except.bind_eq_ok, hlast, ih, readOnMethod_eq_ok_iff,
      fills_append_singleton]
    constructor
    · rintro ⟨r₀, ⟨hoperation, hreturn⟩, htakes, htakes'⟩
      exact ⟨⟨_, hoperation, htakes⟩, _, hreturn, htakes'⟩
    · rintro ⟨⟨operation, hoperation, htakes⟩, returnOverride, hreturn, htakes'⟩
      exact ⟨⟨operation, returnOverride⟩, ⟨hoperation, hreturn⟩, htakes, htakes'⟩

theorem foldlM_readOnParameter {found : Option JavaType} :
    uses.foldlM (readOnParameter settings index) none = .ok found ↔
      Fills (·.override? settings) uses found := by
  induction uses using List.reverseRecOn generalizing found with
  | nil => simp [fills_nil, pure, Except.pure, eq_comm]
  | append_singleton uses a ih =>
    have hlast {found₀ : Option JavaType} :
        [a].foldlM (readOnParameter settings index) found₀ = .ok found ↔
          readOnParameter settings index found₀ a = .ok found := by
      simp
    simp only [List.foldlM_append, Except.bind_eq_ok, hlast, ih, readOnParameter_eq_ok_iff,
      fills_append_singleton]

theorem isSome_selection? (a : AnnotationUse) :
    (a.selection? settings).isSome = (a.operation? settings).isSome :=
  Option.isSome_map

theorem selection?_ok_iff {a : AnnotationUse} :
    (∀ r, a.selection? settings = some r → ∃ b, r = .ok b) ↔
      ∀ o, a.operation? settings = some o → o.Accepts a.elements := by
  unfold AnnotationUse.selection?
  cases a.operation? settings with
  | none => simp
  | some o =>
    simp only [Option.map_some, Option.some.injEq, forall_eq']
    constructor
    · rintro ⟨b, hb⟩
      cases hread : o.readElements a.elements with
      | error fault => simp [hread, Except.map] at hb
      | ok found => exact (Operation.readElements_eq_ok_iff.1 hread).1
    · intro haccepts
      exact ⟨_, by rw [Operation.readElements_eq_ok_iff.2 ⟨haccepts, haccepts.decodes⟩]; rfl⟩

/-- One of the annotations selects an operation, and it gives this target and this member. -/
theorem fills_selection {o : Operation} {target : Option JavaType} {member : Option String} :
    Fills (·.selection? settings) uses (some (o, target, member)) ↔
      (uses.countP fun a => (a.operation? settings).isSome) = 1 ∧
        (∀ a ∈ uses, ∀ o, a.operation? settings = some o → o.Accepts a.elements) ∧
        ∃ a ∈ uses, a.operation? settings = some o ∧ o.Decodes a.elements target member := by
  constructor
  · intro h
    obtain ⟨a, ha, hoffer⟩ := (h.holds _).1 rfl
    obtain ⟨ho, -, hdecodes⟩ := AnnotationUse.selection?_eq_some_ok.1 hoffer
    have honce := h.once
    simp only [isSome_selection?] at honce
    have hpos : 0 < uses.countP fun a => (a.operation? settings).isSome :=
      List.countP_pos_iff.2 ⟨a, ha, by simp [ho]⟩
    exact ⟨by omega, fun a ha => selection?_ok_iff.1 fun _ => h.read ha, a, ha, ho, hdecodes⟩
  · rintro ⟨hone, haccepts, a, ha, ho, hdecodes⟩
    obtain ⟨found, h⟩ : ∃ found, Fills (·.selection? settings) uses found :=
      exists_fills (by simp only [isSome_selection?, hone, Nat.le_refl]) fun a ha =>
        selection?_ok_iff.2 (haccepts a ha)
    obtain rfl := (h.holds _).2
      ⟨a, ha, AnnotationUse.selection?_eq_some_ok.2 ⟨ho, haccepts a ha o ho, hdecodes⟩⟩
    exact h

/-- At most one of the annotations overrides a type, and one that does names it. -/
structure OverridesOnce (settings : Settings) (uses : List AnnotationUse) : Prop where
  once : uses.countP (·.isOverride settings) ≤ 1
  named : ∀ a ∈ uses, a.isOverride settings = true → ∃ t, a.ReadsAs t

/-- One of the annotations puts this type in place of the declared one. -/
def OverriddenBy (settings : Settings) (uses : List AnnotationUse) (t : JavaType) : Prop :=
  ∃ a ∈ uses, a.isOverride settings = true ∧ a.ReadsAs t

theorem isSome_override? (a : AnnotationUse) :
    (a.override? settings).isSome = a.isOverride settings := by
  unfold AnnotationUse.override?
  cases a.isOverride settings <;> rfl

theorem override?_ok_iff {a : AnnotationUse} :
    (∀ r, a.override? settings = some r → ∃ t, r = .ok t) ↔
      (a.isOverride settings = true → ∃ t, a.ReadsAs t) := by
  unfold AnnotationUse.override?
  cases a.isOverride settings <;> simp [readOverride_eq_ok_iff]

theorem fills_override {found : Option JavaType} :
    Fills (·.override? settings) uses found ↔
      OverridesOnce settings uses ∧ ∀ t, found = some t ↔ OverriddenBy settings uses t := by
  simp only [fills_iff, isSome_override?, override?_ok_iff, AnnotationUse.override?_eq_some_ok]
  exact and_assoc.symm.trans (and_congr_left' ⟨fun h => ⟨h.1, h.2⟩, fun h => ⟨h.1, h.2⟩⟩)

theorem OverridesOnce.exists_fills (h : OverridesOnce settings uses) :
    ∃ found, Fills (·.override? settings) uses found :=
  Directive.exists_fills (by simpa only [isSome_override?] using h.once) fun a ha =>
    override?_ok_iff.2 (h.named a ha)

end Uses

section Parameters

variable {settings : Settings} {parameters : List (List AnnotationUse)} {index : Nat}
  {overrides : List (Nat × JavaType)}

theorem readParameters_cons {uses : List AnnotationUse} :
    readParameters settings index (uses :: parameters) = .ok overrides ↔
      ∃ found later, Fills (·.override? settings) uses found ∧
        readParameters settings (index + 1) parameters = .ok later ∧
        (found.map fun t => (index, t)).toList ++ later = overrides := by
  rw [readParameters]
  simp only [Except.bind_eq_ok, foldlM_readOnParameter, exists_and_left]
  refine exists_congr fun found => and_congr_right fun _ => exists_congr fun later =>
    and_congr_right fun _ => ?_
  cases found <;> exact ⟨Except.ok.inj, congrArg _⟩

/-- The overrides by ascending index, each one told by the parameter at its index. -/
structure Lists (settings : Settings) (index : Nat) (parameters : List (List AnnotationUse))
    (overrides : List (Nat × JavaType)) : Prop where
  ascending : overrides.Pairwise (·.1 < ·.1)
  told : ∀ i t, (i, t) ∈ overrides ↔
    ∃ k uses, i = index + k ∧ parameters[k]? = some uses ∧ OverriddenBy settings uses t

theorem Lists.cons {uses : List AnnotationUse} {found : Option JavaType}
    (h : Lists settings (index + 1) parameters overrides)
    (hfound : ∀ t, found = some t ↔ OverriddenBy settings uses t) :
    Lists settings index (uses :: parameters)
      ((found.map fun t => (index, t)).toList ++ overrides) where
  ascending := by
    refine List.pairwise_append.2 ⟨by cases found <;> simp, h.ascending, ?_⟩
    rintro first hfirst ⟨i, t⟩ hlater
    obtain ⟨t', -, rfl⟩ := Option.map_eq_some_iff.1 (Option.mem_toList.1 hfirst)
    obtain ⟨k, -, rfl, -⟩ := (h.told i t).1 hlater
    simp only
    omega
  told i t := by
    rw [List.mem_append, h.told]
    constructor
    · rintro (hfirst | ⟨k, later, rfl, hk, hlater⟩)
      · obtain ⟨t', ht, hfirst⟩ := Option.map_eq_some_iff.1 (Option.mem_toList.1 hfirst)
        cases hfirst
        exact ⟨0, uses, rfl, rfl, (hfound t).1 ht⟩
      · exact ⟨k + 1, later, by omega, hk, hlater⟩
    · rintro ⟨k, later, rfl, hk, hlater⟩
      cases k with
      | zero =>
        obtain rfl := Option.some.inj hk
        exact .inl (by simp [(hfound t).2 hlater])
      | succ k => exact .inr ⟨k, later, by omega, hk, hlater⟩

theorem Lists.unique {overrides' : List (Nat × JavaType)}
    (h : Lists settings index parameters overrides)
    (h' : Lists settings index parameters overrides') : overrides = overrides' := by
  have : Std.Irrefl fun o o' : Nat × JavaType => o.1 < o'.1 := ⟨fun _ => Nat.lt_irrefl _⟩
  have : Std.Antisymm fun o o' : Nat × JavaType => o.1 < o'.1 :=
    ⟨fun _ _ hlt hgt => absurd hgt (Nat.lt_asymm hlt)⟩
  exact h.ascending.eq_of_mem_iff h'.ascending fun o => (h.told _ _).trans (h'.told _ _).symm

theorem lists_of_readParameters (h : readParameters settings index parameters = .ok overrides) :
    (∀ uses ∈ parameters, OverridesOnce settings uses) ∧
      Lists settings index parameters overrides := by
  induction parameters generalizing index overrides with
  | nil =>
    obtain rfl := Except.ok.inj h
    exact ⟨by simp, .nil, by simp⟩
  | cons uses parameters ih =>
    obtain ⟨found, later, hfound, hlater, rfl⟩ := readParameters_cons.1 h
    obtain ⟨honce, hlists⟩ := ih hlater
    obtain ⟨huses, hfound⟩ := fills_override.1 hfound
    exact ⟨List.forall_mem_cons.2 ⟨huses, honce⟩, hlists.cons hfound⟩

theorem exists_readParameters (index : Nat) (h : ∀ uses ∈ parameters, OverridesOnce settings uses) :
    ∃ overrides, readParameters settings index parameters = .ok overrides := by
  induction parameters generalizing index with
  | nil => exact ⟨[], rfl⟩
  | cons uses parameters ih =>
    obtain ⟨huses, h⟩ := List.forall_mem_cons.1 h
    obtain ⟨found, hfound⟩ := huses.exists_fills
    obtain ⟨later, hlater⟩ := ih (index + 1) h
    exact ⟨_, readParameters_cons.2 ⟨found, later, hfound, hlater, rfl⟩⟩

/-- The parameters are read exactly if none of them overrides its type twice, and as the ascending
list of what they say. -/
theorem readParameters_eq_ok_iff :
    readParameters settings index parameters = .ok overrides ↔
      (∀ uses ∈ parameters, OverridesOnce settings uses) ∧
        Lists settings index parameters overrides := by
  constructor
  · exact lists_of_readParameters
  · rintro ⟨honce, hlists⟩
    obtain ⟨overrides', hread⟩ := exists_readParameters index honce
    rw [hread, (lists_of_readParameters hread).2.unique hlists]

theorem readParameters_eq_ok_nil :
    readParameters settings index parameters = .ok [] ↔
      ∀ uses ∈ parameters, Fills (·.override? settings) uses none := by
  induction parameters generalizing index with
  | nil => simp [readParameters]
  | cons uses parameters ih =>
    rw [readParameters_cons, List.forall_mem_cons, ← ih]
    constructor
    · rintro ⟨found, later, hfound, hlater, hempty⟩
      obtain ⟨hnone, rfl⟩ := List.append_eq_nil_iff.1 hempty
      obtain rfl : found = none := by simpa using hnone
      exact ⟨hfound, hlater⟩
    · rintro ⟨hfound, hlater⟩
      exact ⟨none, [], hfound, hlater, rfl⟩

end Parameters

section Collect

variable {settings : Settings} {annotations : MethodAnnotations} {d : Directive}

/-- The annotations make a stub: exactly one of those on the method selects an operation, with
elements that its marker may carry, and no type is overridden twice. -/
structure WellMarked (settings : Settings) (annotations : MethodAnnotations) : Prop where
  one : (annotations.method.countP fun a => (a.operation? settings).isSome) = 1
  accepts : ∀ a ∈ annotations.method, ∀ o, a.operation? settings = some o → o.Accepts a.elements
  returns : OverridesOnce settings annotations.method
  parameters : ∀ uses ∈ annotations.parameters, OverridesOnce settings uses

/-- The directive says what the annotations say. -/
structure Decodes (d : Directive) (settings : Settings) (annotations : MethodAnnotations) :
    Prop where
  operation : ∃ a ∈ annotations.method, a.operation? settings = some d.operation ∧
    d.operation.Decodes a.elements d.target d.member
  returns : ∀ t, d.returnOverride = some t ↔ OverriddenBy settings annotations.method t
  ascending : d.parameterOverrides.Pairwise (·.1 < ·.1)
  parameters : ∀ i t, (i, t) ∈ d.parameterOverrides ↔
    ∃ uses, annotations.parameters[i]? = some uses ∧ OverriddenBy settings uses t

theorem collect_eq_ok_some :
    collect settings annotations = .ok (some d) ↔
      Fills (·.selection? settings) annotations.method (some (d.operation, d.target, d.member)) ∧
        Fills (·.override? settings) annotations.method d.returnOverride ∧
        readParameters settings 0 annotations.parameters = .ok d.parameterOverrides := by
  unfold collect
  simp only [Except.bind_eq_ok, foldlM_readOnMethod]
  constructor
  · rintro ⟨⟨operation, returnOverride⟩, ⟨hoperation, hreturn⟩, overrides, hoverrides, hfound⟩
    match operation, overrides, returnOverride with
    | some (o, target, member), _, _ =>
      cases hfound
      exact ⟨hoperation, hreturn, hoverrides⟩
    | none, _ :: _, _ => cases hfound
    | none, [], some _ => cases hfound
    | none, [], none => cases hfound
  · rintro ⟨hoperation, hreturn, hoverrides⟩
    exact ⟨⟨_, _⟩, ⟨hoperation, hreturn⟩, _, hoverrides, rfl⟩

theorem collect_eq_ok_none :
    collect settings annotations = .ok none ↔
      Fills (·.selection? settings) annotations.method none ∧
        Fills (·.override? settings) annotations.method none ∧
        readParameters settings 0 annotations.parameters = .ok [] := by
  unfold collect
  simp only [Except.bind_eq_ok, foldlM_readOnMethod]
  constructor
  · rintro ⟨⟨operation, returnOverride⟩, ⟨hoperation, hreturn⟩, overrides, hoverrides, hfound⟩
    match operation, overrides, returnOverride with
    | some (o, target, member), _, _ => cases hfound
    | none, _ :: _, _ => cases hfound
    | none, [], some _ => cases hfound
    | none, [], none => exact ⟨hoperation, hreturn, hoverrides⟩
  · rintro ⟨hoperation, hreturn, hoverrides⟩
    exact ⟨⟨none, none⟩, ⟨hoperation, hreturn⟩, [], hoverrides, rfl⟩

theorem collect_eq_ok_some_iff :
    collect settings annotations = .ok (some d) ↔
      WellMarked settings annotations ∧ d.Decodes settings annotations := by
  rw [collect_eq_ok_some, fills_selection, fills_override, readParameters_eq_ok_iff]
  constructor
  · rintro ⟨⟨hone, haccepts, hoperation⟩, ⟨hreturns, hreturn⟩, hparameters, hlists⟩
    exact ⟨⟨hone, haccepts, hreturns, hparameters⟩, hoperation, hreturn, hlists.ascending, by
      simpa using hlists.told⟩
  · rintro ⟨⟨hone, haccepts, hreturns, hparameters⟩, hoperation, hreturn, hascending, htold⟩
    exact ⟨⟨hone, haccepts, hoperation⟩, ⟨hreturns, hreturn⟩, hparameters, hascending, by
      simpa using htold⟩

theorem WellMarked.exists_decodes (h : WellMarked settings annotations) :
    ∃ d : Directive, d.Decodes settings annotations := by
  obtain ⟨a, ha, hselects⟩ := List.countP_pos_iff.1 (h.one ▸ Nat.one_pos)
  obtain ⟨o, ho⟩ := Option.isSome_iff_exists.1 hselects
  obtain ⟨returnOverride, hreturn⟩ := h.returns.exists_fills
  obtain ⟨overrides, hoverrides⟩ := exists_readParameters 0 h.parameters
  have hlists := (readParameters_eq_ok_iff.1 hoverrides).2
  exact ⟨⟨o, _, _, overrides, returnOverride⟩, ⟨a, ha, ho, (h.accepts a ha o ho).decodes⟩,
    (fills_override.1 hreturn).2, hlists.ascending, by simpa using hlists.told⟩

theorem collect_eq_ok_none_iff :
    collect settings annotations = .ok none ↔
      (∀ a ∈ annotations.method, settings.marker? a.type = none) ∧
        ∀ uses ∈ annotations.parameters, ∀ a ∈ uses,
          settings.marker? a.type ≠ some .typeOverride := by
  simp only [collect_eq_ok_none, readParameters_eq_ok_nil, fills_none,
    AnnotationUse.override?_eq_none, ← AnnotationUse.unmarked_iff, forall_and, and_assoc]

/-- What the annotations of a method make of it, told without the order in which they are read. -/
theorem collect_exact (settings : Settings) (annotations : MethodAnnotations) :
    (collect settings annotations = .ok none ↔
      (∀ a ∈ annotations.method, settings.marker? a.type = none) ∧
        ∀ uses ∈ annotations.parameters, ∀ a ∈ uses,
          settings.marker? a.type ≠ some .typeOverride) ∧
    ((∃ d, collect settings annotations = .ok (some d)) ↔ WellMarked settings annotations) ∧
    ∀ d : Directive, collect settings annotations = .ok (some d) ↔
      WellMarked settings annotations ∧ d.Decodes settings annotations := by
  refine ⟨collect_eq_ok_none_iff, ⟨?_, fun h => ?_⟩, fun d => collect_eq_ok_some_iff⟩
  · rintro ⟨d, hd⟩
    exact (collect_eq_ok_some_iff.1 hd).1
  · obtain ⟨d, hd⟩ := h.exists_decodes
    exact ⟨d, collect_eq_ok_some_iff.2 ⟨h, hd⟩⟩

end Collect

end Directive

end StubLinker
