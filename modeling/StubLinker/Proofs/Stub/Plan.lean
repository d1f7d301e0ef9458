import StubLinker.Proofs.JavaType.WellFormed
import StubLinker.Stub.Body

namespace StubLinker

namespace JavaType

/-- A type that a descriptor or a source name gives. -/
def IsRead (t : JavaType) : Prop :=
  (∃ s, ofDescriptor s = .ok t) ∨ ∃ s, ofSource s = .ok t

theorem IsRead.wellFormed {t : JavaType} (h : t.IsRead) : t.WellFormed := by
  rcases h with ⟨s, hs⟩ | ⟨s, hs⟩
  · exact wellFormed_of_ofDescriptor hs
  · exact wellFormed_of_ofSource hs

end JavaType

namespace Directive

def types (d : Directive) : List JavaType :=
  d.target.toList ++ d.parameterOverrides.map Prod.snd ++ d.returnOverride.toList

end Directive

namespace Shape

variable {s : Shape} {d : Directive} {failure : String} {p : LinkPlan}

theorem plan_eq_ok_iff :
    s.plan d failure = .ok p ↔
      s.isStatic = true ∧ Modifier.all.find? s.has = none ∧ s.failures.contains failure = true ∧
      ∃ target owner, d.target = some target ∧ target.className? = some owner ∧
        d.parameterOverrides.find? (s.descriptor.parameters.length ≤ ·.1) = none ∧
        refusedParameter? 0 s.descriptor.parameters (s.effective d).parameters = none ∧
        allowsReturn s.descriptor.returns (s.effective d).returns = true ∧
        brokenRule? (rules d.operation target s.descriptor (s.effective d)) = none ∧
        ⟨d.operation, target, owner, d.member, s.descriptor, s.effective d⟩ = p := by
  unfold plan
  simp only [bind, Except.bind, pure, Except.pure, throw, throwThe, MonadExceptOf.throw]
  cases hs : s.isStatic with
  | false => simp
  | true =>
  cases hm : Modifier.all.find? s.has with
  | some m => simp
  | none =>
  cases hf : s.failures.contains failure with
  | false => simp
  | true =>
  cases ht : d.target with
  | none => simp
  | some target =>
  cases ho : target.className? with
  | none => simp [ho]
  | some owner =>
  cases hp : d.parameterOverrides.find? (s.descriptor.parameters.length ≤ ·.1) with
  | some o => simp [ho]
  | none =>
  cases hr : refusedParameter? 0 s.descriptor.parameters (s.effective d).parameters with
  | some index => simp [ho]
  | none =>
  cases ha : allowsReturn s.descriptor.returns (s.effective d).returns with
  | false => simp [ho]
  | true =>
  cases hb : brokenRule? (rules d.operation target s.descriptor (s.effective d)) with
  | some rule => simp [ho, hb]
  | none => simp [ho, hb]

theorem brokenRule?_eq_none {rs : List (Bool × ShapeRule)} :
    brokenRule? rs = none ↔ ∀ r ∈ rs, r.1 = true := by
  simp [brokenRule?]

theorem length_overrideFrom (overrides : List (Nat × JavaType)) (index : Nat)
    (ts : List JavaType) : (overrideFrom overrides index ts).length = ts.length := by
  induction ts generalizing index with
  | nil => rfl
  | cons t ts ih => simp [overrideFrom, ih]

theorem mem_of_lookup {α β : Type} [BEq α] {key : α} {value : β} {es : List (α × β)}
    (h : es.lookup key = some value) : value ∈ es.map Prod.snd := by
  induction es with
  | nil => cases h
  | cons e es ih =>
    rw [List.lookup_cons] at h
    split at h
    · cases h
      simp
    · exact List.mem_cons_of_mem _ (ih h)

theorem mem_overrideFrom {overrides : List (Nat × JavaType)} {index : Nat} {ts : List JavaType}
    {u : JavaType} (h : u ∈ overrideFrom overrides index ts) :
    u ∈ ts ∨ u ∈ overrides.map Prod.snd := by
  induction ts generalizing index with
  | nil => cases h
  | cons t ts ih =>
    rcases List.mem_cons.1 h with rfl | h
    · cases hl : overrides.lookup index with
      | none => exact .inl (by simp)
      | some v => exact .inr (mem_of_lookup hl)
    · exact (ih h).imp_left (List.mem_cons_of_mem _)

theorem ne_void_of_refusedParameter? {ts us : List JavaType} {index : Nat}
    (hr : refusedParameter? index ts us = none) (hlen : us.length = ts.length)
    (ht : ∀ t ∈ ts, t ≠ .void) : ∀ u ∈ us, u ≠ .void := by
  induction ts generalizing us index with
  | nil =>
    obtain rfl := List.eq_nil_of_length_eq_zero hlen
    simp
  | cons t ts ih =>
    cases us with
    | nil => cases hlen
    | cons u us =>
      rw [refusedParameter?] at hr
      split at hr
      case isFalse => cases hr
      rename_i hallow
      rw [List.forall_mem_cons]
      refine ⟨?_, ih hr (by simpa using hlen) fun v hv => ht v (List.mem_cons_of_mem _ hv)⟩
      rintro rfl
      have htu : t = .void := by simpa [allowsParameter, JavaType.isReference] using hallow
      exact ht t (by simp) htu

end Shape

namespace LinkPlan

theorem mem_adapt {produced declared : JavaType} {op : Op} (h : op ∈ adapt produced declared) :
    (∃ q, op = box q) ∨ ∃ name, declared.className? = some name ∧ op = .checkCast name := by
  have hbox : op ∈ (produced.boxed?.map box).toList → ∃ q, op = box q := by
    intro h
    obtain ⟨q, -, hq⟩ := Option.map_eq_some_iff.1 (Option.mem_toList.1 h)
    exact ⟨q, hq.symm⟩
  unfold adapt at h
  split at h
  · cases h
  dsimp only at h
  split at h
  · rcases List.mem_append.1 h with h | h
    · exact .inl (hbox h)
    · obtain ⟨name, hname, hop⟩ := Option.map_eq_some_iff.1 (Option.mem_toList.1 h)
      exact .inr ⟨name, hname, hop.symm⟩
  · exact .inl (hbox h)

/-- Loading takes the declared parameters, and casts those that are overridden. -/
theorem mem_loads {slot : UInt16} {ds as : List JavaType} {op : Op} (h : op ∈ loads slot ds as) :
    (∃ t ∈ ds, ∃ n, op = .load t n) ∨
      ∃ t ∈ as, ∃ name, t.className? = some name ∧ op = .checkCast name := by
  induction ds generalizing slot as with
  | nil => cases h
  | cons d ds ih =>
    cases as with
    | nil => cases h
    | cons a as =>
      simp only [loads, List.cons_append, List.mem_cons, List.mem_append] at h
      rcases h with rfl | h | h
      · exact .inl ⟨d, List.mem_cons_self, slot, rfl⟩
      · split at h
        · cases h
        split at h
        · rename_i name hname
          exact .inr ⟨a, List.mem_cons_self, name, hname, List.mem_singleton.1 h⟩
        · cases h
      · rcases ih h with ⟨t, ht, hload⟩ | ⟨t, ht, hcast⟩
        · exact .inl ⟨t, List.mem_cons_of_mem d ht, hload⟩
        · exact .inr ⟨t, List.mem_cons_of_mem a ht, hcast⟩

theorem mem_body {p : LinkPlan} {op : Op} (h : op ∈ p.body.ops) :
    op = .new p.owner ∨ op = .dup ∨ op ∈ loads 0 p.declared.parameters p.effective.parameters ∨
      op = p.access.1 ∨ op ∈ adapt p.access.2 p.declared.returns ∨
      op = .return p.declared.returns := by
  simp only [body, List.mem_append, List.mem_cons] at h
  rcases h with (h | h) | h | h | h
  · split at h
    · rcases List.mem_cons.1 h with h | h
      · exact .inl h
      · exact .inr (.inl (List.mem_singleton.1 h))
    · cases h
  · exact .inr (.inr (.inl h))
  · exact .inr (.inr (.inr (.inl h)))
  · exact .inr (.inr (.inr (.inr (.inl h))))
  · exact .inr (.inr (.inr (.inr (.inr (by simpa using h)))))

end LinkPlan

end StubLinker
