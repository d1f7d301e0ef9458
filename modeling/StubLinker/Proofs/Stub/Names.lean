import StubLinker.Proofs.ClassFile.Reference
import StubLinker.Proofs.JavaType.BinaryName
import StubLinker.Proofs.Stub.Admission
import StubLinker.Proofs.Stub.Collected

namespace StubLinker

/-- The virtual machine allows the name for a member of the kind. -/
def MemberKind.Allows (kind : MemberKind) (name : String) : Prop :=
  ∀ c ∈ name.toList, c ∉ ['.', ';', '[', '/'] ∧ (kind ≠ .field → c ∉ ['<', '>'])

/-- The descriptor is that of a field or of a method, by the kind of the member, and its types are
`good`. -/
def MemberKey.Typed (good : JavaType → Prop) (key : MemberKey) : Prop :=
  match key.kind with
  | .field => ∃ t, JavaType.ofDescriptor key.descriptor = .ok t ∧ t ≠ .void ∧ good t
  | _ => ∃ d, MethodDescriptor.ofText key.descriptor = .ok d ∧
    (∀ t ∈ d.parameters, good t) ∧ good d.returns

/-- A class is the name of a `good` type. So is the owner of a member, whose name is one of `named` and
whose descriptor can be read. -/
def Reference.Legal (good : JavaType → Prop) (named : MemberKind → String → Prop) :
    Reference → Prop
  | className name => ∃ t, good t ∧ t.className? = some name
  | member key => (∃ t, good t ∧ t.className? = some key.owner) ∧ named key.kind key.name ∧
    key.Typed good

/-- The names of the members that a stub refers to: allowed ones, that of the constructor if it calls
one, and the one that its marker gives. -/
def Operation.Names (o : Operation) (member : Option String) (kind : MemberKind) (name : String) :
    Prop :=
  name ≠ "" ∧ (kind.Allows name ∨
    (kind = .method ∧ name = "<init>" ∧ o = .constructInstance) ∨ member = some name)

namespace LinkPlan

variable {p : LinkPlan} {good : JavaType → Prop} {op : Op} {r : Reference}

/-- The types of a plan are `good`, and it has what its operation needs. -/
structure Types (good : JavaType → Prop) (p : LinkPlan) : Prop where
  denotable : ∀ t, good t → t.Denotable
  target : good p.target
  owner : p.target.className? = some p.owner
  parameters : ∀ t ∈ p.effective.parameters, good t ∧ t ≠ .void
  returns : good p.effective.returns
  declared : good p.declared.returns
  void : good .void
  boxes : ∀ q : Primitive, good (.primitive q) ∧ good (.object q.wrapper)
  reads : p.operation = .readInstanceField ∨ p.operation = .readStaticField →
    p.effective.returns ≠ .void
  writes : p.operation = .writeInstanceField ∨ p.operation = .writeStaticField →
    p.effective.parameters ≠ []
  member : p.operation ≠ .constructInstance → ∃ name, p.member = some name ∧ name ≠ ""

theorem references_of_reference? {r : Reference} (h : op.reference? = some r) :
    op.references = r.withOwner := by
  rw [Op.references, h, Option.toList_some, List.flatMap_singleton]

theorem legal_withOwner {m : MemberRef} (kind : MemberKind)
    (hr : r ∈ (Reference.member (m.key kind)).withOwner)
    (howner : ∃ t, good t ∧ t.className? = some m.owner)
    (hname : p.operation.Names p.member kind m.name) (htyped : (m.key kind).Typed good) :
    r.Legal good (p.operation.Names p.member) := by
  rcases List.mem_cons.1 hr with rfl | hr
  · exact howner
  · rw [List.mem_singleton.1 hr]
    exact ⟨howner, hname, htyped⟩

theorem Types.typed_field (h : p.Types good) {t : JavaType} (ht : good t) (hv : t ≠ .void)
    (owner name : String) :
    ((⟨owner, name, .field t⟩ : MemberRef).key .field).Typed good :=
  ⟨t, JavaType.denotes_iff.2 ⟨h.denotable t ht, rfl⟩, hv, ht⟩

theorem Types.typed_method (h : p.Types good) {d : MethodDescriptor} (kind : MemberKind)
    (hkind : kind ≠ .field) (hparameters : ∀ t ∈ d.parameters, good t ∧ t ≠ .void)
    (hreturns : good d.returns) (owner name : String) :
    ((⟨owner, name, .method d⟩ : MemberRef).key kind).Typed good := by
  have hd : d.Denotable :=
    ⟨fun t ht => ⟨h.denotable t (hparameters t ht).1, (hparameters t ht).2⟩,
      h.denotable d.returns hreturns⟩
  have hread : ∃ d', MethodDescriptor.ofText d.display = .ok d' ∧
      (∀ t ∈ d'.parameters, good t) ∧ good d'.returns :=
    ⟨d, MethodDescriptor.denotes_iff.2 ⟨hd, rfl⟩, fun t ht => (hparameters t ht).1, hreturns⟩
  cases kind with
  | field => exact absurd rfl hkind
  | method => exact hread
  | interfaceMethod => exact hread

theorem Types.legal_box (h : p.Types good) (q : Primitive) (hr : r ∈ (box q).references) :
    r.Legal good (p.operation.Names p.member) := by
  have hallows : MemberKind.method.Allows "valueOf" := by
    simp [MemberKind.Allows]
  have hne : "valueOf" ≠ "" := by decide
  rw [box, references_of_reference? rfl] at hr
  refine legal_withOwner .method hr ⟨_, (h.boxes q).2, rfl⟩ ⟨hne, .inl hallows⟩
    (h.typed_method .method nofun ?_ (h.boxes q).2 _ _)
  intro t ht
  rw [List.mem_singleton.1 ht]
  exact ⟨(h.boxes q).1, nofun⟩

theorem Types.names_memberName (h : p.Types good) (kind : MemberKind)
    (ho : p.operation ≠ .constructInstance) : p.operation.Names p.member kind p.memberName := by
  obtain ⟨name, hmember, hne⟩ := h.member ho
  have hname : p.memberName = name := by rw [memberName, if_neg ho, hmember, Option.getD_some]
  rw [hname]
  exact ⟨hne, .inr (.inr hmember)⟩

theorem Types.written (h : p.Types good)
    (ho : p.operation = .writeInstanceField ∨ p.operation = .writeStaticField) :
    good (p.effective.parameters.getLast?.getD .void) ∧
      p.effective.parameters.getLast?.getD .void ≠ .void := by
  have hne := h.writes ho
  rw [List.getLast?_eq_some_getLast hne, Option.getD_some]
  exact h.parameters _ (List.getLast_mem hne)

theorem Types.arguments (h : p.Types good) : ∀ t ∈ p.arguments, good t ∧ t ≠ .void := by
  intro t ht
  unfold LinkPlan.arguments at ht
  split at ht
  · exact h.parameters t (List.mem_of_mem_drop ht)
  · exact h.parameters t ht

theorem Types.legal_field (h : p.Types good) (ho : p.operation ≠ .constructInstance) {t : JavaType}
    (ht : good t) (hv : t ≠ .void)
    (hr : r ∈ (Reference.member ((⟨p.owner, p.memberName, .field t⟩ : MemberRef).key
      .field)).withOwner) : r.Legal good (p.operation.Names p.member) :=
  legal_withOwner .field hr ⟨p.target, h.target, h.owner⟩ (h.names_memberName .field ho)
    (h.typed_field ht hv _ _)

theorem Types.legal_call (h : p.Types good) (kind : MemberKind) (hkind : kind ≠ .field)
    (hname : p.operation.Names p.member kind p.memberName) {returns : JavaType}
    (hreturns : good returns)
    (hr : r ∈ (Reference.member ((⟨p.owner, p.memberName,
      .method ⟨p.arguments, returns⟩⟩ : MemberRef).key kind)).withOwner) :
    r.Legal good (p.operation.Names p.member) :=
  legal_withOwner kind hr ⟨p.target, h.target, h.owner⟩ hname
    (h.typed_method kind hkind (d := ⟨p.arguments, returns⟩) h.arguments hreturns _ _)

theorem Types.legal_access (h : p.Types good) (hr : r ∈ p.access.1.references) :
    r.Legal good (p.operation.Names p.member) := by
  obtain ⟨o, ho⟩ : ∃ o, p.operation = o := ⟨_, rfl⟩
  unfold access at hr
  rw [ho] at hr
  -- every access refers to the member alone
  cases o <;> rw [references_of_reference? rfl] at hr
  case readInstanceField =>
    exact h.legal_field (by simp [ho]) h.returns (h.reads (.inl ho)) hr
  case readStaticField =>
    exact h.legal_field (by simp [ho]) h.returns (h.reads (.inr ho)) hr
  case writeInstanceField =>
    obtain ⟨hgood, hv⟩ := h.written (.inl ho)
    exact h.legal_field (by simp [ho]) hgood hv hr
  case writeStaticField =>
    obtain ⟨hgood, hv⟩ := h.written (.inr ho)
    exact h.legal_field (by simp [ho]) hgood hv hr
  case constructInstance =>
    have hname : p.memberName = "<init>" := by rw [memberName, if_pos ho]
    have hne : p.memberName ≠ "" := by rw [hname]; decide
    exact h.legal_call .method (by simp) ⟨hne, .inr (.inl ⟨rfl, hname, ho⟩)⟩ h.void hr
  case invokeInterfaceMethod =>
    exact h.legal_call .interfaceMethod (by simp) (h.names_memberName _ (by simp [ho])) h.returns hr
  case invokeStaticMethod =>
    exact h.legal_call .method (by simp) (h.names_memberName _ (by simp [ho])) h.returns hr
  case invokeInstanceMethod =>
    exact h.legal_call .method (by simp) (h.names_memberName _ (by simp [ho])) h.returns hr

/-- Whatever the body of a plan refers to has names that come from the plan's types and from its
member. -/
theorem Types.legal_body (h : p.Types good) (hop : op ∈ p.body.ops) (hr : r ∈ op.references) :
    r.Legal good (p.operation.Names p.member) := by
  have hclass : ∀ {t name}, good t → t.className? = some name →
      r ∈ (Op.checkCast name).references → r.Legal good (p.operation.Names p.member) := by
    intro t name ht hname hr
    rw [List.mem_singleton.1 hr]
    exact ⟨t, ht, hname⟩
  rcases mem_body hop with rfl | rfl | hload | rfl | hadapt | rfl
  · rw [List.mem_singleton.1 hr]
    exact ⟨p.target, h.target, h.owner⟩
  · cases hr
  · rcases mem_loads hload with ⟨t, -, n, rfl⟩ | ⟨t, ht, name, hname, rfl⟩
    · cases hr
    · exact hclass (h.parameters t ht).1 hname hr
  · exact h.legal_access hr
  · rcases mem_adapt hadapt with ⟨q, rfl⟩ | ⟨name, hname, rfl⟩
    · exact h.legal_box q hr
    · exact hclass h.declared hname hr
  · cases hr

end LinkPlan

section Sources

variable {settings : Settings} {annotations : MethodAnnotations} {descriptor : String}
  {d : Directive} {own : MethodDescriptor} {t : JavaType}

/-- The type is taken as it is spelled in the method's own descriptor, or in a class constant of the
marker that selects its operation. -/
def SpelledBy (settings : Settings) (annotations : MethodAnnotations) (descriptor : String)
    (t : JavaType) : Prop :=
  (∃ own, MethodDescriptor.ofText descriptor = .ok own ∧ (t ∈ own.parameters ∨ t = own.returns)) ∨
    ∃ a ∈ annotations.method, (∃ o, a.operation? settings = some o) ∧
      ("classConstant", .classLiteral t.descriptor) ∈ a.elements

/-- The type can be denoted, and its class names have only `/` unless it is taken as it is spelled. -/
def NormalOrSpelled (settings : Settings) (annotations : MethodAnnotations) (descriptor : String)
    (t : JavaType) : Prop :=
  t.Denotable ∧ (t.Slashed ∨ SpelledBy settings annotations descriptor t)

theorem normalOrSpelled_of_ofSource {name : String} (h : JavaType.ofSource name = .ok t) :
    NormalOrSpelled settings annotations descriptor t :=
  ⟨(JavaType.denotable_slashed_of_ofSource h).1, .inl (JavaType.denotable_slashed_of_ofSource h).2⟩

theorem Operation.eq_classConstant_of_field? {o : Operation} {element : String}
    (h : o.field? element = some .classConstant) : element = "classConstant" := by
  unfold Operation.field? at h
  split at h
  · assumption
  split at h
  · cases h
  split at h <;> cases h

/-- The class that a directive has as its target comes from source text, or is spelled by a class
constant. -/
theorem normalOrSpelled_target (h : Directive.collect settings annotations = .ok (some d))
    (ht : d.target = some t) : NormalOrSpelled settings annotations descriptor t := by
  obtain ⟨-, hd⟩ := Directive.collect_eq_ok_some_iff.1 h
  obtain ⟨a, ha, ho, hdecodes⟩ := hd.operation
  obtain ⟨f, v, ⟨e, he, hf, rfl⟩, htype⟩ := (hdecodes.target t).1 ht
  obtain ⟨element, v⟩ := e
  cases f with
  | classConstant =>
    cases v with
    | classLiteral literal =>
      simp only [MarkerField.type?] at htype
      split at htype
      · cases htype
      obtain ⟨hdenotable, rfl⟩ := JavaType.denotes_iff.1 (Except.eq_ok_of_toOption htype)
      obtain rfl := Operation.eq_classConstant_of_field? hf
      exact ⟨hdenotable, .inr (.inr ⟨a, ha, ⟨_, ho⟩, he⟩)⟩
    | _ => cases htype
  | className =>
    cases v with
    | text name =>
      simp only [MarkerField.type?] at htype
      split at htype
      · cases htype
      exact normalOrSpelled_of_ofSource (Except.eq_ok_of_toOption htype)
    | _ => cases htype
  | member => cases htype

theorem normalOrSpelled_override (h : Directive.collect settings annotations = .ok (some d))
    (ht : t ∈ d.parameterOverrides.map Prod.snd ∨ d.returnOverride = some t) :
    NormalOrSpelled settings annotations descriptor t := by
  obtain ⟨-, hd⟩ := Directive.collect_eq_ok_some_iff.1 h
  rcases ht with ht | ht
  · obtain ⟨⟨i, t⟩, hmem, rfl⟩ := List.mem_map.1 ht
    obtain ⟨uses, -, a, -, -, name, -, hname⟩ := (hd.parameters i t).1 hmem
    exact normalOrSpelled_of_ofSource hname
  · obtain ⟨a, -, -, name, -, hname⟩ := (hd.returns t).1 ht
    exact normalOrSpelled_of_ofSource hname

theorem exists_member (h : Directive.collect settings annotations = .ok (some d))
    (ho : d.operation ≠ .constructInstance) : ∃ name, d.member = some name ∧ name ≠ "" := by
  obtain ⟨hmarked, hd⟩ := Directive.collect_eq_ok_some_iff.1 h
  obtain ⟨a, ha, hoperation, hdecodes⟩ := hd.operation
  obtain ⟨name, hname⟩ := (hmarked.accepts a ha _ hoperation).named ho
  exact ⟨name, (hdecodes.member name).2 hname, hname.2⟩

theorem types_of_plan {access : UInt16} {failures : List String} {failure : String} {p : LinkPlan}
    (hcollect : Directive.collect settings annotations = .ok (some d))
    (hown : MethodDescriptor.ofText descriptor = .ok own)
    (hplan : Shape.plan ⟨access, own, failures⟩ d failure = .ok p) :
    p.Types (NormalOrSpelled settings annotations descriptor) := by
  obtain ⟨-, -, -, target, owner, htarget, howner, -, hrefused, -, hrules, rfl⟩ :=
    Shape.plan_eq_ok_iff.1 hplan
  obtain ⟨hdenotable, -⟩ := MethodDescriptor.denotes_iff.1 hown
  -- a type is written in the descriptor or comes from an annotation
  have hspelled : ∀ t, t ∈ own.parameters ∨ t = own.returns →
      NormalOrSpelled settings annotations descriptor t := by
    intro t ht
    refine ⟨?_, .inr (.inl ⟨own, hown, ht⟩)⟩
    rcases ht with ht | rfl
    · exact (hdenotable.parameters t ht).1
    · exact hdenotable.returns
  have hsuits := Shape.brokenRule?_effective.1 hrules
  refine ⟨fun t ht => ht.1, normalOrSpelled_target hcollect htarget, howner, ?_, ?_,
    hspelled _ (.inr rfl), ⟨.void, .inl trivial⟩, ?_, ?_, ?_, exists_member hcollect⟩
  · intro t ht
    refine ⟨?_, Shape.ne_void_of_refusedParameter? hrefused (Shape.length_overrideFrom _ _ _)
      (fun t ht => (hdenotable.parameters t ht).2) t ht⟩
    rcases Shape.mem_overrideFrom ht with ht | ht
    · exact hspelled t (.inl ht)
    · exact normalOrSpelled_override hcollect (.inl ht)
  · cases hreturn : d.returnOverride with
    | none => simpa [Shape.effective, hreturn] using hspelled _ (.inr rfl)
    | some t => simpa [Shape.effective, hreturn] using normalOrSpelled_override hcollect (.inr hreturn)
  · intro q
    refine ⟨⟨.primitive q, .inl trivial⟩, .object ?_, .inl ?_⟩
    · cases q <;> exact ClassName.isValid_iff.1 (by decide +kernel)
    · cases q <;> simp [JavaType.Slashed, Primitive.wrapper]
  · rintro (ho | ho)
    · rw [show d.operation = .readInstanceField from ho] at hsuits
      exact hsuits.2
    · rw [show d.operation = .readStaticField from ho] at hsuits
      exact hsuits.2
  · rintro (ho | ho) hempty
    · rw [show d.operation = .writeInstanceField from ho] at hsuits
      obtain ⟨⟨value, hvalue⟩, -⟩ := hsuits
      cases hvalue.symm.trans hempty
    · rw [show d.operation = .writeStaticField from ho] at hsuits
      obtain ⟨⟨value, hvalue⟩, -⟩ := hsuits
      cases hvalue.symm.trans hempty

end Sources

end StubLinker
