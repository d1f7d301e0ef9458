import StubLinker.Proofs.Stub.Plan

namespace StubLinker

/-- The types that an operation on a target may have. The effective types are those of the target
member; the declared ones count only where the stub's own result is what matters. -/
def Operation.Suits (o : Operation) (target : JavaType) (declared effective : MethodDescriptor) :
    Prop :=
  match o with
  | .readInstanceField => effective.parameters = [target] ∧ effective.returns ≠ .void
  | .readStaticField => effective.parameters = [] ∧ effective.returns ≠ .void
  | .writeInstanceField =>
    (∃ value, effective.parameters = [target, value]) ∧ declared.returns = .void
  | .writeStaticField => (∃ value, effective.parameters = [value]) ∧ declared.returns = .void
  | .constructInstance =>
    (∀ component, target ≠ .array component) ∧
      (declared.returns = .void ∨ declared.returns.isReference = true)
  | .invokeInterfaceMethod | .invokeInstanceMethod =>
    (∃ arguments, effective.parameters = target :: arguments) ∧
      (effective.returns = .void → declared.returns = .void)
  | .invokeStaticMethod => effective.returns = .void → declared.returns = .void

namespace Shape

/-- The stub can host what the directive asks for, with this type as the target. -/
structure Hosts (s : Shape) (d : Directive) (failure : String) (target : JavaType) : Prop where
  isStatic : s.isStatic = true
  bare : ∀ m : Modifier, s.has m = false
  declares : failure ∈ s.failures
  names : d.target = some target
  isClass : target.isReference = true
  inRange : ∀ o ∈ d.parameterOverrides, o.1 < s.descriptor.parameters.length
  parameters : ∀ i t u, s.descriptor.parameters[i]? = some t →
    d.parameterOverrides.lookup i = some u → u = t ∨ (t.isReference = true ∧ u.isReference = true)
  returns : ∀ u, d.returnOverride = some u → s.descriptor.returns.isPrimitive = true →
    u = s.descriptor.returns ∨ u = .void
  suits : d.operation.Suits target s.descriptor (s.effective d)

variable {s : Shape} {d : Directive} {failure : String} {target : JavaType}

theorem find?_has_eq_none : Modifier.all.find? s.has = none ↔ ∀ m : Modifier, s.has m = false := by
  constructor
  · intro h m
    have hmem : m ∈ Modifier.all := by cases m <;> decide
    simpa using List.find?_eq_none.1 h m hmem
  · intro h
    apply List.find?_eq_none.2
    intro m _
    simp [h m]

theorem allowsParameter_eq_true {t u : JavaType} :
    allowsParameter t u = true ↔ u = t ∨ (t.isReference = true ∧ u.isReference = true) := by
  rw [eq_comm (a := u)]
  simp [allowsParameter]

theorem refusedParameter?_overrideFrom {overrides : List (Nat × JavaType)} {index : Nat}
    {ts : List JavaType} :
    refusedParameter? index ts (overrideFrom overrides index ts) = none ↔
      ∀ i t u, ts[i]? = some t → overrides.lookup (index + i) = some u →
        u = t ∨ (t.isReference = true ∧ u.isReference = true) := by
  induction ts generalizing index with
  | nil => simp [refusedParameter?]
  | cons t ts ih =>
    -- the first parameter stands apart from the later ones, whose indexes are counted from the next
    have hhead : allowsParameter t ((overrides.lookup index).getD t) = true ↔
        ∀ u, overrides.lookup index = some u →
          u = t ∨ (t.isReference = true ∧ u.isReference = true) := by
      cases overrides.lookup index with
      | none => simp [allowsParameter]
      | some u => simp [allowsParameter_eq_true]
    have hstep : refusedParameter? index (t :: ts) (overrideFrom overrides index (t :: ts)) = none ↔
        allowsParameter t ((overrides.lookup index).getD t) = true ∧
          refusedParameter? (index + 1) ts (overrideFrom overrides (index + 1) ts) = none := by
      rw [overrideFrom, refusedParameter?]
      split <;> simp [*]
    rw [hstep, hhead, ih]
    constructor
    · intro h i v u hv hu
      obtain ⟨hfirst, hlater⟩ := h
      cases i with
      | zero =>
        obtain rfl : t = v := by simpa using hv
        exact hfirst u hu
      | succ i => exact hlater i v u (by simpa using hv) (by rwa [Nat.add_assoc, Nat.add_comm 1])
    · intro h
      constructor
      · intro u hu
        exact h 0 t u rfl hu
      · intro i v u hv hu
        exact h (i + 1) v u (by simpa using hv) (by rwa [Nat.add_comm i, ← Nat.add_assoc])

/-- The nested conditions on the result only ever refuse a primitive that is to become a value of
another type: a reference may stand for every type, and `void` on either side discards. -/
theorem allowsReturn_eq_true {declared actual : JavaType} :
    allowsReturn declared actual = true ↔
      (declared.isPrimitive = true → actual = declared ∨ actual = .void) := by
  rw [eq_comm (a := actual) (b := declared)]
  cases declared <;> cases actual <;>
    simp [allowsReturn, JavaType.isPrimitive, JavaType.isReference, JavaType.boxed?]

theorem allowsReturn_effective :
    allowsReturn s.descriptor.returns (s.effective d).returns = true ↔
      ∀ u, d.returnOverride = some u → s.descriptor.returns.isPrimitive = true →
        u = s.descriptor.returns ∨ u = .void := by
  rw [allowsReturn_eq_true]
  cases h : d.returnOverride with
  | none => simp [effective, h]
  | some u => simp [effective, h]

section

variable {α : Type} {xs : List α} {x : α}

theorem length_eq_one_and_head? : xs.length = 1 ∧ xs.head? = some x ↔ xs = [x] := by
  rcases xs with _ | ⟨y, _ | ⟨z, zs⟩⟩ <;> simp

theorem length_eq_two_and_head? :
    xs.length = 2 ∧ xs.head? = some x ↔ ∃ value, xs = [x, value] := by
  rcases xs with _ | ⟨y, _ | ⟨z, _ | ⟨w, zs⟩⟩⟩ <;> simp

theorem one_le_length_and_head? :
    1 ≤ xs.length ∧ xs.head? = some x ↔ ∃ rest, xs = x :: rest := by
  cases xs <;> simp

end

theorem brokenRule?_rules {o : Operation} {declared effective : MethodDescriptor}
    (hlen : effective.parameters.length = declared.parameters.length) :
    brokenRule? (rules o target declared effective) = none ↔ o.Suits target declared effective := by
  rw [brokenRule?_eq_none]
  have hpass : ¬effective.returns = .void ∨ declared.returns = .void ↔
      (effective.returns = .void → declared.returns = .void) := Decidable.imp_iff_not_or.symm
  cases o with
  | readInstanceField =>
    simp [rules, Operation.Suits, ← hlen, ← length_eq_one_and_head?, and_assoc]
  | readStaticField => simp [rules, Operation.Suits, ← hlen]
  | writeInstanceField =>
    simp [rules, Operation.Suits, ← hlen, ← length_eq_two_and_head?, and_assoc]
  | writeStaticField => simp [rules, Operation.Suits, ← hlen, List.length_eq_one_iff]
  | constructInstance =>
    have hret : declared.returns.isPrimitive = false ↔
        declared.returns = .void ∨ declared.returns.isReference = true := by
      cases declared.returns <;> simp [JavaType.isPrimitive, JavaType.isReference]
    cases target <;> simp [rules, Operation.Suits, hret]
  | invokeInterfaceMethod | invokeInstanceMethod =>
    simp [rules, Operation.Suits, ← hlen, ← one_le_length_and_head?, and_assoc, hpass]
  | invokeStaticMethod => simp [rules, Operation.Suits, hpass]

theorem brokenRule?_effective :
    brokenRule? (rules d.operation target s.descriptor (s.effective d)) = none ↔
      d.operation.Suits target s.descriptor (s.effective d) :=
  brokenRule?_rules (length_overrideFrom _ _ _)

theorem find?_override_eq_none :
    d.parameterOverrides.find? (s.descriptor.parameters.length ≤ ·.1) = none ↔
      ∀ o ∈ d.parameterOverrides, o.1 < s.descriptor.parameters.length := by
  simp [List.find?_eq_none]

/-- A stub is planned exactly if it can host what its directive asks for. -/
theorem plan_accepts_iff (s : Shape) (d : Directive) (failure : String) :
    (∃ p, s.plan d failure = .ok p) ↔ ∃ target, s.Hosts d failure target := by
  constructor
  · intro h
    obtain ⟨p, hp⟩ := h
    obtain ⟨hstatic, hmods, hfail, target, owner, ht, ho, hrange, hrefused, hret, hrules, -⟩ :=
      plan_eq_ok_iff.1 hp
    exact ⟨target, {
      isStatic := hstatic
      bare := find?_has_eq_none.1 hmods
      declares := by simpa using hfail
      names := ht
      isClass := by rw [← JavaType.className?_isSome, ho, Option.isSome_some]
      inRange := find?_override_eq_none.1 hrange
      parameters := by simpa using refusedParameter?_overrideFrom.1 hrefused
      returns := allowsReturn_effective.1 hret
      suits := brokenRule?_effective.1 hrules }⟩
  · intro h
    obtain ⟨target, h⟩ := h
    obtain ⟨owner, ho⟩ : ∃ owner, target.className? = some owner := by
      apply Option.isSome_iff_exists.1
      rw [JavaType.className?_isSome, h.isClass]
    have hrefused : refusedParameter? 0 s.descriptor.parameters (s.effective d).parameters = none :=
      refusedParameter?_overrideFrom.2 (by simpa using h.parameters)
    exact ⟨_, plan_eq_ok_iff.2 ⟨h.isStatic, find?_has_eq_none.2 h.bare, by simpa using h.declares,
      target, owner, h.names, ho, find?_override_eq_none.2 h.inRange, hrefused,
      allowsReturn_effective.2 h.returns, brokenRule?_effective.2 h.suits, rfl⟩⟩

end Shape

end StubLinker
