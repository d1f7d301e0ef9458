import StubLinker.Proofs.Except
import StubLinker.Proofs.JavaType.Grammar
import StubLinker.Proofs.Stub.Admission
import StubLinker.Proofs.Stub.Machine

namespace StubLinker

namespace TypeFrame

variable {f : TypeFrame}

/-- Runs instructions that are no return. -/
def steps (f : TypeFrame) (ops : List Op) : Option TypeFrame :=
  ops.foldlM step f

@[simp] theorem steps_nil : f.steps [] = some f :=
  rfl

def narrowing (produced declared : JavaType) : List Op :=
  if produced.isReference && produced != declared && declared != .object ClassName.object then
    (declared.className?.map Op.checkCast).toList
  else []

theorem adapt_of_unboxed {produced declared : JavaType} (hd : declared.isReference = true)
    (hp : produced.boxed? = none) : LinkPlan.adapt produced declared = narrowing produced declared := by
  simp [LinkPlan.adapt, narrowing, hd, hp]

theorem adapt_primitive {declared : JavaType} (hd : declared.isReference = true) (p : Primitive) :
    LinkPlan.adapt (.primitive p) declared =
      LinkPlan.box p :: narrowing (.object p.wrapper) declared := by
  have hobject (n : String) : (JavaType.object n).isReference = true := rfl
  by_cases hcast : JavaType.object p.wrapper ≠ declared ∧ declared ≠ .object ClassName.object
  · simp [LinkPlan.adapt, narrowing, hd, JavaType.boxed?, hobject, hcast]
  · have hneg (h : JavaType.object p.wrapper ≠ declared) : declared = .object ClassName.object :=
      Classical.not_not.1 fun ho => hcast ⟨h, ho⟩
    by_cases hw : JavaType.object p.wrapper = declared
    · simp [LinkPlan.adapt, narrowing, hd, JavaType.boxed?, hw]
    · simp [LinkPlan.adapt, narrowing, JavaType.boxed?, hobject, hneg hw]

end TypeFrame

namespace LinkPlan

open TypeFrame

/-- What the access to the target member has to leave for the return: nothing if none is declared,
else a value that boxing and narrowing can turn into one of the declared type. -/
def Leaves (p : LinkPlan) (g : TypeFrame) : Prop :=
  p.declared.returns = .void ∨
    p.access.2 ≠ .void ∧ (p.declared.returns.isReference = true ∨ p.access.2 = p.declared.returns) ∧
      ∃ below, g.stack = .value p.access.2 :: below

theorem returns_of_allowsReturn {declared actual : JavaType}
    (h : Shape.allowsReturn declared actual = true) (ha : actual ≠ .void) :
    declared = .void ∨ actual ≠ .void ∧ (declared.isReference = true ∨ actual = declared) := by
  simp only [Shape.allowsReturn, Bool.or_eq_true, beq_iff_eq, Bool.and_eq_true] at h
  rcases h with ((rfl | h) | h) | ⟨h, -⟩
  · exact .inr ⟨ha, .inr rfl⟩
  · exact absurd h ha
  · exact .inl h
  · exact .inr ⟨ha, .inl h⟩

/-- What the access to the target member gives can be returned: nothing is declared, or it is a value
that boxing and narrowing turn into one of the declared type. -/
theorem returnable_of_plan {s : Shape} {d : Directive} {failure : String} {p : LinkPlan}
    (h : s.plan d failure = .ok p) :
    p.declared.returns = .void ∨ p.access.2 ≠ .void ∧
      (p.declared.returns.isReference = true ∨ p.access.2 = p.declared.returns) := by
  obtain ⟨-, -, -, target, owner, -, howner, -, -, hret, hrules, rfl⟩ := Shape.plan_eq_ok_iff.1 h
  have hsuits := Shape.brokenRule?_effective.1 hrules
  have hvalue (hv : (s.effective d).returns ≠ .void) := returns_of_allowsReturn hret hv
  have hpassed (hv : (s.effective d).returns = .void → s.descriptor.returns = .void) :
      s.descriptor.returns = .void ∨ (s.effective d).returns ≠ .void ∧
        (s.descriptor.returns.isReference = true ∨ (s.effective d).returns = s.descriptor.returns) := by
    by_cases hvoid : (s.effective d).returns = .void
    · exact .inl (hv hvoid)
    · exact hvalue hvoid
  unfold access
  cases ho : d.operation <;> rw [ho] at hsuits <;> dsimp only
  case readInstanceField => exact hvalue hsuits.2
  case readStaticField => exact hvalue hsuits.2
  case writeInstanceField => exact .inl hsuits.2
  case writeStaticField => exact .inl hsuits.2
  case constructInstance =>
    refine hsuits.2.imp_right fun hr => ⟨?_, .inl hr⟩
    rintro rfl
    cases howner
  case invokeInterfaceMethod => exact hpassed hsuits.2
  case invokeInstanceMethod => exact hpassed hsuits.2
  case invokeStaticMethod => exact hpassed hsuits

section Run

variable {s : Shape} {d : Directive} {failure text : String} {p : LinkPlan} {f g g' : TypeFrame}
  {opening : List Op}

end Run

end LinkPlan

end StubLinker
