import StubLinker.Proofs.Stub.Depth
import StubLinker.Proofs.Stub.Verified

namespace StubLinker

namespace Shape

theorem slots_of_allowsParameter {t u : JavaType} (h : allowsParameter t u = true) :
    u.slots = t.slots := by
  rcases allowsParameter_eq_true.1 h with rfl | ⟨ht, hu⟩
  · rfl
  · rw [JavaType.slots_of_isReference ht, JavaType.slots_of_isReference hu]

theorem map_slots_of_refusedParameter? {ts us : List JavaType} {index : Nat}
    (hr : refusedParameter? index ts us = none) (hlen : us.length = ts.length) :
    us.map JavaType.slots = ts.map JavaType.slots := by
  induction ts generalizing us index with
  | nil =>
    obtain rfl := List.eq_nil_of_length_eq_zero hlen
    rfl
  | cons t ts ih =>
    cases us with
    | nil => cases hlen
    | cons u us =>
      rw [refusedParameter?] at hr
      split at hr
      case isFalse => cases hr
      rename_i hallow
      rw [List.map_cons, List.map_cons, slots_of_allowsParameter hallow, ih hr (by simpa using hlen)]

variable {s : Shape} {d : Directive} {failure : String} {p : LinkPlan}

theorem parts_of_plan (h : s.plan d failure = .ok p) :
    p.operation = d.operation ∧ p.declared = s.descriptor ∧ p.effective = s.effective d := by
  obtain ⟨-, -, -, _, _, -, -, -, -, -, -, rfl⟩ := plan_eq_ok_iff.1 h
  exact ⟨rfl, rfl, rfl⟩

theorem map_slots_effective (h : s.plan d failure = .ok p) :
    (s.effective d).parameters.map JavaType.slots = s.descriptor.parameters.map JavaType.slots := by
  obtain ⟨-, -, -, _, _, -, -, -, hrefused, -⟩ := plan_eq_ok_iff.1 h
  exact map_slots_of_refusedParameter? hrefused (length_overrideFrom ..)

theorem width_effective (h : s.plan d failure = .ok p) :
    JavaType.width (s.effective d).parameters = JavaType.width s.descriptor.parameters :=
  JavaType.width_congr (map_slots_effective h)

end Shape

namespace LinkPlan

open Op (Climbs)

/-- What makes a parameter one of the type that the target member takes. -/
def cast (declared actual : JavaType) : List Op :=
  if declared = actual then [] else (actual.className?.map Op.checkCast).toList

theorem loads_cons (slot : UInt16) (t u : JavaType) (ds as : List JavaType) :
    loads slot (t :: ds) (u :: as) =
      .load t slot :: (cast t u ++ loads (slot + t.slots) ds as) := by
  rw [loads, cast]
  cases u.className? <;> rfl

section Segments

variable {ds as : List JavaType} {slot : UInt16} {n : Nat}

theorem climbs_cast {t u : JavaType} (h : Shape.allowsParameter t u = true) :
    Climbs (n + t.slots.toNat) (cast t u) (n + t.slots.toNat) (n + t.slots.toNat) := by
  unfold cast
  split
  · exact .nil _
  · rename_i hne
    have href : t.isReference = true :=
      ((Shape.allowsParameter_eq_true.1 h).resolve_left (Ne.symm hne)).1
    rw [JavaType.slots_of_isReference href]
    cases u.className? with
    | none => exact .nil _
    | some name =>
      have hcast : Climbs (n + 1) [.checkCast name] (n + 1) (max (n + 1) (n + 1)) :=
        .single (Nat.le_add_left 1 n) rfl
      rwa [Nat.max_self] at hcast

theorem climbs_loads (slot : UInt16) {index : Nat} (hr : Shape.refusedParameter? index ds as = none)
    (hlen : as.length = ds.length) :
    Climbs n (loads slot ds as) (n + JavaType.width ds) (n + JavaType.width ds) := by
  induction ds generalizing as index slot n with
  | nil =>
    obtain rfl := List.eq_nil_of_length_eq_zero hlen
    exact .nil n
  | cons t ds ih =>
    cases as with
    | nil => cases hlen
    | cons u as =>
      rw [Shape.refusedParameter?] at hr
      split at hr
      case isFalse => cases hr
      rename_i hallow
      have hrest := (climbs_cast (n := n) hallow).append
        (ih (slot + t.slots) (n := n + t.slots.toNat) hr (by simpa using hlen))
      have hload : (Op.load t slot).popWidth = 0 := rfl
      have hall := Climbs.cons (hload ▸ Nat.zero_le n) rfl hrest
      have hpeak : max n (max (n + t.slots.toNat) (n + t.slots.toNat + JavaType.width ds)) =
          n + t.slots.toNat + JavaType.width ds := by omega
      rw [hpeak] at hall
      rwa [loads_cons, JavaType.width_cons, ← Nat.add_assoc]

theorem filterMap_loads_cons {β : Type} {f : Op → Option β}
    (hcast : ∀ name, f (.checkCast name) = none) (slot : UInt16) (t u : JavaType)
    (ds as : List JavaType) :
    (loads slot (t :: ds) (u :: as)).filterMap f =
      (f (.load t slot)).toList ++ (loads (slot + t.slots) ds as).filterMap f := by
  have hnone : (cast t u).filterMap f = [] := by
    unfold cast
    split
    · rfl
    · cases u.className? <;> simp [hcast]
  rw [loads_cons]
  cases hf : f (.load t slot) <;> simp [hf, hnone]

theorem filterMap_load?_loads_cons (slot : UInt16) (t u : JavaType) (ds as : List JavaType) :
    (loads slot (t :: ds) (u :: as)).filterMap Op.load? =
      (t, slot.toNat) :: (loads (slot + t.slots) ds as).filterMap Op.load? :=
  filterMap_loads_cons (fun _ => rfl) slot t u ds as

theorem toNat_add_slots {t : JavaType} (h : slot.toNat + JavaType.width (t :: ds) < 2 ^ 16) :
    (slot + t.slots).toNat = slot.toNat + t.slots.toNat := by
  rw [JavaType.width_cons] at h
  rw [UInt16.toNat_add]
  exact Nat.mod_eq_of_lt (by omega)

/-- Loads are made in the order of the parameters, each from the slot behind those before it. -/
theorem getElem?_filterMap_load?_loads (hlen : as.length = ds.length)
    (hwidth : slot.toNat + JavaType.width ds < 2 ^ 16) (i : Nat) :
    ((loads slot ds as).filterMap Op.load?)[i]? =
      ds[i]?.map fun t => (t, slot.toNat + JavaType.width (ds.take i)) := by
  induction ds generalizing as slot i with
  | nil =>
    obtain rfl := List.eq_nil_of_length_eq_zero hlen
    rfl
  | cons t ds ih =>
    cases as with
    | nil => cases hlen
    | cons u as =>
      have hnext := toNat_add_slots hwidth
      rw [filterMap_load?_loads_cons]
      cases i with
      | zero => simp
      | succ i =>
        rw [JavaType.width_cons] at hwidth
        rw [List.getElem?_cons_succ, ih (by simpa using hlen) (by omega), hnext]
        simp [Nat.add_assoc]

theorem flatMap_load?_loads (hlen : as.length = ds.length)
    (hwidth : slot.toNat + JavaType.width ds < 2 ^ 16) :
    ((loads slot ds as).filterMap Op.load?).flatMap (fun l => List.range' l.2 l.1.slots.toNat) =
      List.range' slot.toNat (JavaType.width ds) := by
  induction ds generalizing as slot with
  | nil =>
    obtain rfl := List.eq_nil_of_length_eq_zero hlen
    rfl
  | cons t ds ih =>
    cases as with
    | nil => cases hlen
    | cons u as =>
      have hnext := toNat_add_slots hwidth
      rw [JavaType.width_cons] at hwidth
      rw [filterMap_load?_loads_cons, List.flatMap_cons, ih (by simpa using hlen) (by omega), hnext,
        JavaType.width_cons, List.range'_append_1]

/-- What narrows a reference leaves the depth as it is; the return after it takes what is left. -/
theorem climbs_narrowing {produced declared : JavaType} (hd : declared.isReference = true) :
    Climbs 1 (TypeFrame.narrowing produced declared ++ [.return declared]) 0 1 := by
  have hslots : (Op.return declared).popWidth = 1 :=
    congrArg UInt16.toNat (JavaType.slots_of_isReference hd)
  have hreturn : Climbs 1 [.return declared] 0 1 :=
    .single (Nat.le_of_eq hslots) (by rw [hslots]; rfl)
  unfold TypeFrame.narrowing
  split
  · cases declared.className? with
    | none => exact hreturn
    | some name =>
      have hcast : (Op.checkCast name).popWidth = 1 := rfl
      exact .cons (Nat.le_of_eq hcast) rfl hreturn
  · exact hreturn

/-- Boxing leaves one slot of one or two, and nothing after it needs more. -/
theorem climbs_adapt {produced declared : JavaType} (hp : produced ≠ .void)
    (h : declared.isReference = true ∨ produced = declared) :
    Climbs produced.slots.toNat (adapt produced declared ++ [.return declared]) 0
      produced.slots.toNat := by
  by_cases hd : declared.isReference = true
  · cases produced with
    | void => exact absurd rfl hp
    | primitive q =>
      -- boxing gives one slot for one or two, so the peak lies before it
      have hbox : (box q).popWidth = q.slots.toNat := by cases q <;> rfl
      have hleft : q.slots.toNat - (box q).popWidth + (box q).pushes.toNat = 1 := by
        rw [hbox, Nat.sub_self]
        rfl
      have hslots : max q.slots.toNat 1 = q.slots.toNat := by cases q <;> rfl
      have hnarrowed : Climbs 1
          (TypeFrame.narrowing (.object q.wrapper) declared ++ [.return declared]) 0 1 :=
        climbs_narrowing hd
      have hall := Climbs.cons (Nat.le_of_eq hbox) hleft hnarrowed
      rw [hslots] at hall
      rw [TypeFrame.adapt_primitive hd]
      exact hall
    | object name =>
      rw [TypeFrame.adapt_of_unboxed hd rfl]
      exact climbs_narrowing hd
    | array c =>
      rw [TypeFrame.adapt_of_unboxed hd rfl]
      exact climbs_narrowing hd
  · obtain rfl := h.resolve_left hd
    have hreturn : Climbs produced.slots.toNat [.return produced] 0 (max produced.slots.toNat 0) :=
      .single (Nat.le_refl _) (Nat.sub_self _)
    simpa [adapt, hd] using hreturn

end Segments

section Planned

variable {s : Shape} {d : Directive} {failure : String} {p : LinkPlan}

/-- The access to the target member finds everything that was loaded, and nothing else is left below
what it gives. A constructor takes one of the two copies of the new instance and gives nothing. -/
theorem access_effect (h : s.plan d failure = .ok p) {loaded : Nat}
    (hl : loaded = (if p.operation = .constructInstance then 2 else 0) +
      JavaType.width p.declared.parameters) :
    p.access.1.popWidth ≤ loaded ∧
      loaded - p.access.1.popWidth + p.access.1.pushes.toNat = p.access.2.slots.toNat := by
  have hwidth := Shape.width_effective h
  obtain ⟨-, -, -, target, owner, -, howner, -, -, -, hrules, rfl⟩ := Shape.plan_eq_ok_iff.1 h
  have hsuits := Shape.brokenRule?_effective.1 hrules
  have htarget : target.slots.toNat = 1 :=
    congrArg UInt16.toNat (JavaType.slots_of_className? howner)
  have hvoid : JavaType.void.slots.toNat = 0 := rfl
  rw [← hwidth] at hl
  unfold access arguments
  -- the rules of an operation say which receiver and value were loaded
  cases ho : d.operation with
  | readInstanceField =>
    rw [ho] at hsuits hl
    simp only [hsuits.1, JavaType.width_cons, JavaType.width_nil, htarget] at hl
    subst hl
    exact ⟨Nat.le_refl 1, Nat.zero_add _⟩
  | readStaticField =>
    rw [ho] at hsuits hl
    simp only [hsuits.1, JavaType.width_nil] at hl
    subst hl
    exact ⟨Nat.le_refl 0, Nat.zero_add _⟩
  | writeInstanceField =>
    rw [ho] at hsuits hl
    obtain ⟨⟨value, hps⟩, -⟩ := hsuits
    have hpops : loaded = 1 + value.slots.toNat := by simpa [hps, htarget] using hl
    simp [Op.popWidth, Op.pushes, MemberRef.fieldSlots, hps, hpops, hvoid]
  | writeStaticField =>
    rw [ho] at hsuits hl
    obtain ⟨⟨value, hps⟩, -⟩ := hsuits
    have hpops : loaded = value.slots.toNat := by simpa [hps] using hl
    simp [Op.popWidth, Op.pops, Op.pushes, MemberRef.fieldSlots, hps, hpops, hvoid]
  | constructInstance =>
    rw [ho] at hl
    have hpops : loaded = 2 + JavaType.width (s.effective d).parameters := by simpa using hl
    simp [Op.popWidth, Op.pushes, MemberRef.argumentWidth, MemberRef.resultSlots, hvoid,
      Operation.takesReceiver, htarget, hpops]
    omega
  | invokeInterfaceMethod | invokeInstanceMethod =>
    rw [ho] at hsuits hl
    obtain ⟨⟨arguments, hps⟩, -⟩ := hsuits
    have hpops : loaded = JavaType.width arguments + 1 := by
      simp [hps, htarget] at hl
      omega
    simp [Op.popWidth, Op.pushes, MemberRef.argumentWidth, MemberRef.resultSlots, hps,
      Operation.takesReceiver, hpops]
  | invokeStaticMethod =>
    rw [ho] at hl
    have hpops : loaded = JavaType.width (s.effective d).parameters := by simpa using hl
    simp [Op.popWidth, Op.pushes, MemberRef.argumentWidth, MemberRef.resultSlots,
      Operation.takesReceiver, hpops]

theorem climbs_closing (h : s.plan d failure = .ok p) :
    ∃ m, Climbs p.access.2.slots.toNat
      (adapt p.access.2 p.declared.returns ++ [.return p.declared.returns]) m
      p.access.2.slots.toNat := by
  rcases returnable_of_plan h with hvoid | ⟨hne, ha⟩
  · rw [hvoid]
    have hreturn : Climbs p.access.2.slots.toNat [.return .void] p.access.2.slots.toNat
        (max p.access.2.slots.toNat p.access.2.slots.toNat) := .single (Nat.zero_le _) rfl
    rw [Nat.max_self] at hreturn
    exact ⟨_, hreturn⟩
  · exact ⟨0, climbs_adapt hne ha⟩

/-- The depth is greatest when everything is loaded, or when the access has given its value. -/
theorem climbs_body (h : s.plan d failure = .ok p) :
    ∃ m, Climbs 0 p.body.ops m
      (max ((if p.operation = .constructInstance then 2 else 0) +
        JavaType.width p.declared.parameters) p.access.2.slots.toNat) := by
  obtain ⟨m, hclosing⟩ := climbs_closing h
  obtain ⟨hpops, hleft⟩ := access_effect h rfl
  have haccess := Climbs.cons hpops hleft hclosing
  obtain ⟨-, hdeclared, heffective⟩ := Shape.parts_of_plan h
  obtain ⟨-, -, -, _, _, -, -, -, hrefused, -⟩ := Shape.plan_eq_ok_iff.1 h
  rw [← hdeclared, ← heffective] at hrefused
  have hlen : p.effective.parameters.length = p.declared.parameters.length := by
    rw [hdeclared, heffective]
    exact Shape.length_overrideFrom ..
  have hopening : Climbs 0 (if p.operation = .constructInstance then [Op.new p.owner, .dup] else [])
      (if p.operation = .constructInstance then 2 else 0)
      (if p.operation = .constructInstance then 2 else 0) := by
    split
    · exact .cons (Nat.zero_le 0) rfl (.single (Nat.le_refl 1) rfl)
    · exact .nil 0
  have hall := (hopening.append (climbs_loads 0 hrefused hlen)).append haccess
  refine ⟨m, ?_⟩
  rwa [Nat.max_eq_right (Nat.le_add_right ..), ← Nat.max_assoc, Nat.max_self] at hall

/-- An instruction of a body that is neither a load nor the access makes an instance, casts, boxes or
returns. -/
theorem filterMap_body {β : Type} {f : Op → Option β} (hnew : ∀ name, f (.new name) = none)
    (hdup : f .dup = none) (hcast : ∀ name, f (.checkCast name) = none)
    (hbox : ∀ q, f (box q) = none) (hreturn : ∀ t, f (.return t) = none) (p : LinkPlan) :
    p.body.ops.filterMap f =
      (loads 0 p.declared.parameters p.effective.parameters).filterMap f ++ (f p.access.1).toList := by
  have hadapt (t u : JavaType) : (adapt t u).filterMap f = [] := by
    apply List.filterMap_eq_nil_iff.2
    intro op hop
    rcases mem_adapt hop with ⟨q, rfl⟩ | ⟨name, -, rfl⟩
    · exact hbox q
    · exact hcast name
  have hopening : (if p.operation = .constructInstance then [Op.new p.owner, .dup] else []).filterMap
      f = [] := by
    split <;> simp [hnew, hdup]
  have hlast : (p.access.1 :: (adapt p.access.2 p.declared.returns ++
      [.return p.declared.returns])).filterMap f = (f p.access.1).toList := by
    cases hf : f p.access.1 <;> simp [hf, hadapt, hreturn]
  rw [body, List.filterMap_append, List.filterMap_append, hopening, List.nil_append, hlast]

theorem filterMap_load?_body (p : LinkPlan) :
    p.body.ops.filterMap Op.load? =
      (loads 0 p.declared.parameters p.effective.parameters).filterMap Op.load? := by
  have haccess : Op.load? p.access.1 = none := by
    unfold access
    split <;> rfl
  rw [filterMap_body (fun _ => rfl) rfl (fun _ => rfl) (fun _ => rfl) (fun _ => rfl), haccess]
  exact List.append_nil _

end Planned

end LinkPlan

/-- The stack slots that the body of a stub needs, by the slots of its parameters and those of the
effective return type. -/
def Operation.stackSlots (o : Operation) (parameters returned : Nat) : Nat :=
  match o with
  | readInstanceField => max 1 returned
  | readStaticField => returned
  | writeInstanceField | writeStaticField => parameters
  | constructInstance => parameters + 2
  | invokeInterfaceMethod | invokeStaticMethod | invokeInstanceMethod => max parameters returned

namespace LinkPlan

variable {s : Shape} {d : Directive} {failure : String} {p : LinkPlan}

/-- The greatest depth by the operation. What an operation reads, writes or passes was loaded before,
so only what it gives can need more. -/
theorem peak_body (h : s.plan d failure = .ok p) :
    max ((if p.operation = .constructInstance then 2 else 0) +
        JavaType.width p.declared.parameters) p.access.2.slots.toNat =
      d.operation.stackSlots (JavaType.width s.descriptor.parameters)
        (s.effective d).returns.slots.toNat := by
  have hwidth := Shape.width_effective h
  obtain ⟨-, -, -, target, owner, -, howner, -, -, -, hrules, rfl⟩ := Shape.plan_eq_ok_iff.1 h
  have hsuits := Shape.brokenRule?_effective.1 hrules
  have htarget : target.slots.toNat = 1 :=
    congrArg UInt16.toNat (JavaType.slots_of_className? howner)
  have hvoid : JavaType.void.slots.toNat = 0 := rfl
  unfold access
  cases ho : d.operation with
  | readInstanceField =>
    rw [ho] at hsuits
    have hone : JavaType.width s.descriptor.parameters = 1 := by
      rw [← hwidth, hsuits.1]
      simp [htarget]
    simp [Operation.stackSlots, hone]
  | readStaticField =>
    rw [ho] at hsuits
    have hzero : JavaType.width s.descriptor.parameters = 0 := by
      rw [← hwidth, hsuits.1]
      rfl
    simp [Operation.stackSlots, hzero]
  | writeInstanceField | writeStaticField => simp [Operation.stackSlots, hvoid]
  | constructInstance =>
    simp only [Operation.stackSlots, ↓reduceIte, htarget]
    omega
  | invokeInterfaceMethod | invokeStaticMethod | invokeInstanceMethod =>
    simp [Operation.stackSlots]

theorem stackSlots_le (o : Operation) (parameters returned : Nat) :
    o.stackSlots parameters returned ≤ max (parameters + 2) (max 1 returned) := by
  cases o <;> simp only [Operation.stackSlots] <;> omega

/-- The sizes that the body of a planned stub declares are exact while sixteen bits can count them. No
instruction pops more than the others before it leave and no sum of slots wraps, the greatest depth
is the declared one, and the loads cover the declared locals in the order of the parameters. -/
theorem body_sizes (h : s.plan d failure = .ok p)
    (hslots : JavaType.width s.descriptor.parameters ≤ 65533) :
    (∀ front op, front ++ [op] <+: p.body.ops → op.Fits (Op.depthOf front)) ∧
    (∀ front, front <+: p.body.ops → Op.depthOf front ≤ p.body.maxStack) ∧
    (∃ front, front <+: p.body.ops ∧ Op.depthOf front = p.body.maxStack) ∧
    p.body.maxStack.toNat = d.operation.stackSlots (JavaType.width s.descriptor.parameters)
      (s.effective d).returns.slots.toNat ∧
    p.body.maxLocals.toNat = JavaType.width s.descriptor.parameters ∧
    (∀ i : Nat, (p.body.ops.filterMap Op.load?)[i]? = s.descriptor.parameters[i]?.map fun t =>
      (t, JavaType.width (s.descriptor.parameters.take i))) ∧
    (p.body.ops.filterMap Op.load?).flatMap (fun l => List.range' l.2 l.1.slots.toNat) =
      List.range (JavaType.width s.descriptor.parameters) := by
  obtain ⟨m, hclimbs⟩ := climbs_body h
  rw [peak_body h] at hclimbs
  have hreturned := (s.effective d).returns.slots_le_two
  have hword : d.operation.stackSlots (JavaType.width s.descriptor.parameters)
      (s.effective d).returns.slots.toNat < 2 ^ 16 := by
    have hstack := stackSlots_le d.operation (JavaType.width s.descriptor.parameters)
      (s.effective d).returns.slots.toNat
    omega
  have hmax : p.body.maxStack.toNat = _ := hclimbs.toNat_maxStackDepth hword
  have hstart : Op.Climbs (0 : UInt16).toNat p.body.ops m _ := hclimbs
  obtain ⟨-, hdeclared, heffective⟩ := Shape.parts_of_plan h
  have hlen : p.effective.parameters.length = s.descriptor.parameters.length := by
    rw [heffective]
    exact Shape.length_overrideFrom ..
  have hwidth : (0 : UInt16).toNat + JavaType.width s.descriptor.parameters < 2 ^ 16 := by
    have hzero : (0 : UInt16).toNat = 0 := rfl
    omega
  refine ⟨fun front op hf => hstart.fits_of_prefix hword hf, fun front hf => ?_, ?_, hmax, ?_,
    fun i => ?_, ?_⟩
  · rw [UInt16.le_iff_toNat_le, hmax]
    exact hstart.foldl_depthAfter_le hword hf
  · obtain ⟨front, hf, hdepth⟩ := hstart.exists_foldl_depthAfter_eq hword
    exact ⟨front, hf, UInt16.toNat.inj (hdepth.trans hmax.symm)⟩
  · have hlocals : p.body.maxLocals = s.descriptor.parameterSlots := by rw [body, hdeclared]
    rw [hlocals, MethodDescriptor.toNat_parameterSlots]
    exact Nat.mod_eq_of_lt (by omega)
  · rw [filterMap_load?_body, hdeclared, getElem?_filterMap_load?_loads hlen hwidth]
    simp
  · rw [filterMap_load?_body, hdeclared, flatMap_load?_loads hlen hwidth, List.range_eq_range']
    rfl

/-- A wide value that is read from a cast instance and boxed needs two slots of stack for the one of
its parameter. -/
theorem body_sizes_boxing :
    ∃ s d p, Shape.plan s d "java/lang/LinkageError" = .ok p ∧ d.operation = .readInstanceField ∧
      JavaType.width s.descriptor.parameters = 1 ∧ (s.effective d).returns = .primitive .long ∧
      (∀ front op, front ++ [op] <+: p.body.ops → op.Fits (Op.depthOf front)) ∧
      (∃ front, front <+: p.body.ops ∧ Op.depthOf front = p.body.maxStack) ∧
      p.body.maxStack.toNat = 2 ∧ p.body.maxLocals.toNat = 1 := by
  let s : Shape := ⟨0x0009, ⟨[.object "java/lang/Object"], .object "java/lang/Number"⟩,
    ["java/lang/LinkageError"]⟩
  let d : Directive := ⟨.readInstanceField, some (.object "a/B"), some "f", [(0, .object "a/B")],
    some (.primitive .long)⟩
  have hp : s.plan d "java/lang/LinkageError" = .ok ⟨.readInstanceField, .object "a/B", "a/B",
      some "f", s.descriptor, s.effective d⟩ := Except.eq_ok_of_toOption (by decide +kernel)
  obtain ⟨hfits, -, hreached, hstack, hlocals, -⟩ := body_sizes hp (by decide)
  exact ⟨s, d, _, hp, rfl, rfl, rfl, hfits, hreached, hstack, hlocals⟩

end LinkPlan

end StubLinker
