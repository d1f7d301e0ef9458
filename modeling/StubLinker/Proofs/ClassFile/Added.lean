import StubLinker.Proofs.ClassFile.Reference

namespace StubLinker

namespace Reference

def texts : Reference → List String
  | className name => [name]
  | member key => [key.name, key.descriptor]

end Reference

namespace Pool

variable {p q base : Pool} {c : Constant} {asked : Reference → Prop}

/-- The constant is there for a reference that was asked for, or is the name of the code attribute. -/
inductive AddedFor (asked : Reference → Prop) (p : Pool) : Constant → Prop where
  | code : AddedFor asked p (.utf8 "Code")
  | text {r : Reference} {t : String} (hr : asked r) (ht : t ∈ r.texts) :
      AddedFor asked p (.utf8 t)
  | className {name : String} {text : UInt16} (hr : asked (.className name))
      (ht : p.text text = .ok name) : AddedFor asked p (.classInfo text)
  | nameAndType {key : MemberKey} {name descriptor : UInt16} (hr : asked (.member key))
      (hn : p.text name = .ok key.name) (hd : p.text descriptor = .ok key.descriptor) :
      AddedFor asked p (.nameAndType name descriptor)
  | member {key : MemberKey} {owner nameAndType : UInt16} (hr : asked (.member key))
      (hk : p.memberOf? key.kind owner nameAndType = some key) :
      AddedFor asked p (key.kind.constant owner nameAndType)

theorem AddedFor.of_extends (h : p.Extends q) (hc : AddedFor asked p c) : AddedFor asked q c := by
  cases hc with
  | code => exact .code
  | text hr ht => exact .text hr ht
  | className hr ht => exact .className hr (h.text_ok ht)
  | nameAndType hr hn hd => exact .nameAndType hr (h.text_ok hn) (h.text_ok hd)
  | member hr hk => exact .member hr (h.memberOf?_some hk)

/-- Every constant that a pool has besides those of an older one is accounted for. -/
def Accounted (base : Pool) (asked : Reference → Prop) (p : Pool) : Prop :=
  ∀ index c, base.size < index.toNat → p.get? index = some c → AddedFor asked p c

theorem accounted_self (base : Pool) (asked : Reference → Prop) : base.Accounted asked base := by
  intro index c hindex hc
  have hle := toNat_le_size (by rw [hc]; rfl)
  omega

theorem AddedFor.mono {asked' : Reference → Prop} (h : ∀ r, asked r → asked' r)
    (hc : AddedFor asked p c) : AddedFor asked' p c := by
  cases hc with
  | code => exact .code
  | text hr ht => exact .text (h _ hr) ht
  | className hr ht => exact .className (h _ hr) ht
  | nameAndType hr hn hd => exact .nameAndType (h _ hr) hn hd
  | member hr hk => exact .member (h _ hr) hk

theorem Accounted.mono {asked' : Reference → Prop} (hp : base.Accounted asked p)
    (h : ∀ r, asked r → asked' r) : base.Accounted asked' p :=
  fun index c hindex hc => (hp index c hindex hc).mono h

theorem get?_push {index : UInt16} {c d : Constant} (h : (p.push c).get? index = some d) :
    p.get? index = some d ∨ d = c := by
  by_cases hle : index.toNat ≤ p.size
  · left
    rw [← (extends_push p c).get?_eq hle, h]
  · right
    have hne : index ≠ 0 := by
      rintro rfl
      exact hle (Nat.zero_le _)
    unfold size at hle
    have hout : ¬index.toNat - 1 < p.slots.size := by omega
    unfold get? push at h
    rw [if_neg hne] at h
    split at h
    all_goals grind

theorem Accounted.push (h : base.Accounted asked p) (hc : AddedFor asked (p.push c) c) :
    base.Accounted asked (p.push c) := by
  intro index d hindex hd
  rcases get?_push hd with hold | rfl
  · exact (h index d hindex hold).of_extends (extends_push p c)
  · exact hc

end Pool

namespace Lowering

variable {base : Pool} {asked : Reference → Prop} {s t : SharedPool}

theorem runOn_add_eq_ok {c : Constant} {index : UInt16} :
    runOn (add c) s = (.ok index, t) ↔
      s.pool.next = .ok index ∧ t = { s with pool := s.pool.push c } := by
  rw [runOn_add]
  cases s.pool.next with
  | error e => simp
  | ok next => simp [eq_comm]

theorem accounted_freshClass {name : String} {index : UInt16}
    (hs : base.Accounted asked s.pool) (hr : asked (.className name))
    (h : runOn (freshClass name) s = (.ok index, t)) : base.Accounted asked t.pool := by
  obtain ⟨text, u, hu, ht⟩ := runOn_bind_eq_ok.1 h
  obtain ⟨hnext, rfl⟩ := runOn_add_eq_ok.1 hu
  obtain ⟨-, rfl⟩ := runOn_add_eq_ok.1 ht
  have htext := Pool.text_eq_ok.2 (Pool.get?_push_next (c := .utf8 name) hnext)
  refine (hs.push (.text hr (by simp [Reference.texts]))).push ?_
  exact .className hr ((Pool.extends_push _ _).text_ok htext)

theorem accounted_memberConstants {kind : MemberKind} {m : MemberRef} {owner index : UInt16}
    (hs : base.Accounted asked s.pool) (hr : asked (.member (m.key kind)))
    (howner : s.pool.className owner = .ok m.owner)
    (h : runOn (memberConstants kind m owner) s = (.ok index, t)) :
    base.Accounted asked t.pool := by
  obtain ⟨name, u, hu, h⟩ := runOn_bind_eq_ok.1 h
  obtain ⟨descriptor, v, hv, h⟩ := runOn_bind_eq_ok.1 h
  obtain ⟨nameAndType, w, hw, ht⟩ := runOn_bind_eq_ok.1 h
  obtain ⟨hname, rfl⟩ := runOn_add_eq_ok.1 hu
  obtain ⟨hdescriptor, rfl⟩ := runOn_add_eq_ok.1 hv
  obtain ⟨hpair, rfl⟩ := runOn_add_eq_ok.1 hw
  obtain ⟨-, rfl⟩ := runOn_add_eq_ok.1 ht
  have hname' := Pool.text_eq_ok.2 (Pool.get?_push_next (c := .utf8 m.name) hname)
  have hdescriptor' := Pool.text_eq_ok.2
    (Pool.get?_push_next (c := .utf8 m.descriptor) hdescriptor)
  have hpair' := Pool.get?_push_next (c := .nameAndType name descriptor) hpair
  have htexts : m.name ∈ (Reference.member (m.key kind)).texts ∧
      m.descriptor ∈ (Reference.member (m.key kind)).texts := by
    simp [Reference.texts, MemberRef.key]
  refine (((hs.push (.text hr htexts.1)).push (.text hr htexts.2)).push ?_).push ?_
  · exact .nameAndType hr
      (((Pool.extends_push _ _).trans (Pool.extends_push _ _)).text_ok hname')
      ((Pool.extends_push _ _).text_ok hdescriptor')
  · refine .member hr (Pool.memberOf?_eq_some.2 ⟨name, descriptor, ?_, rfl, ?_, ?_, ?_⟩)
    · exact (Pool.extends_push _ _).get?_some hpair'
    · exact ((((Pool.extends_push _ _).trans (Pool.extends_push _ _)).trans
        (Pool.extends_push _ _)).trans (Pool.extends_push _ _)).className_ok howner
    · exact (((Pool.extends_push _ _).trans (Pool.extends_push _ _)).trans
        (Pool.extends_push _ _)).text_ok hname'
    · exact ((Pool.extends_push _ _).trans (Pool.extends_push _ _)).text_ok hdescriptor'

theorem Asks.accounted {step make : Lowering UInt16} {r : Reference} {index : UInt16}
    (hasks : Asks step make r) (hs : base.Accounted asked s.pool)
    (hmake : ∀ made u, runOn make s = (.ok made, u) → base.Accounted asked u.pool)
    (h : runOn step s = (.ok index, t)) : base.Accounted asked t.pool := by
  rw [hasks s] at h
  cases hfound : s.index? r with
  | some found =>
    rw [hfound] at h
    cases h
    exact hs
  | none =>
    rw [hfound] at h
    rcases hrun : runOn make s with ⟨_ | made, u⟩
    · simp only [hrun] at h
      cases h
    · simp only [hrun] at h
      cases h
      rw [SharedPool.pool_give]
      exact hmake index u hrun

theorem accounted_classIndex {name : String} {index : UInt16}
    (hs : base.Accounted asked s.pool) (hr : asked (.className name))
    (h : runOn (classIndex name) s = (.ok index, t)) : base.Accounted asked t.pool :=
  (asks_classIndex name).accounted hs (fun _ _ hmake => accounted_freshClass hs hr hmake) h

theorem accounted_memberIndex {kind : MemberKind} {m : MemberRef} {index : UInt16}
    (hsound : s.Sound base) (hs : base.Accounted asked s.pool) (hr : asked (.member (m.key kind)))
    (howner : asked (.className m.owner))
    (h : runOn (memberIndex kind m) s = (.ok index, t)) : base.Accounted asked t.pool := by
  refine (asks_memberIndex kind m).accounted hs ?_ h
  intro made u hmake
  rw [freshMember_eq] at hmake
  obtain ⟨owner, v, hv, hu⟩ := runOn_bind_eq_ok.1 hmake
  obtain ⟨-, -, hclass⟩ := adds_classIndex m.owner base s _ v hsound hv
  exact accounted_memberConstants (accounted_classIndex hs howner hv) hr hclass hu

theorem accounted_lower {op : Op} {i : Instruction} (hsound : s.Sound base)
    (hs : base.Accounted asked s.pool) (hop : ∀ r ∈ op.references, asked r)
    (h : runOn (lower op) s = (.ok i, t)) : base.Accounted asked t.pool := by
  have hlower := lowers_lower op
  generalize lower op = step at h hlower
  cases hlower with
  | plain r hnone =>
    rw [runOn_liftM] at h
    cases h
    exact hs
  | refused e => cases h
  | onClass name make hname hmake =>
    obtain ⟨index, u, hu, ht⟩ := runOn_bind_eq_ok.1 h
    cases ht
    exact accounted_classIndex hs (hop _ (by simp [Op.references, hname, Reference.withOwner])) hu
  | onMember kind m make hkey hmake =>
    obtain ⟨index, u, hu, ht⟩ := runOn_bind_eq_ok.1 h
    cases ht
    exact accounted_memberIndex hsound hs
      (hop _ (by simp [Op.references, hkey, Reference.withOwner]))
      (hop _ (by simp [Op.references, hkey, Reference.withOwner, MemberRef.key])) hu

theorem accounted_lowerAll {ops : List Op} {is : List Instruction} (hsound : s.Sound base)
    (hs : base.Accounted asked s.pool) (hops : ∀ op ∈ ops, ∀ r ∈ op.references, asked r)
    (h : runOn (lowerAll ops) s = (.ok is, t)) : base.Accounted asked t.pool := by
  induction ops generalizing s is with
  | nil =>
    cases h
    exact hs
  | cons op ops ih =>
    obtain ⟨hop, hops⟩ := List.forall_mem_cons.1 hops
    obtain ⟨i, u, hu, h⟩ := runOn_bind_eq_ok.1 h
    obtain ⟨is, v, hv, h⟩ := runOn_bind_eq_ok.1 h
    cases h
    obtain ⟨hsound', -, -⟩ := ensures_decodes op base s _ u hsound hu
    exact ih hsound' (accounted_lower hsound hs hop hu) hops hv

end Lowering

end StubLinker
