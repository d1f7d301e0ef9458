import StubLinker.ClassFile.Lowering

namespace StubLinker

namespace Pool

variable {p q r : Pool} {index : UInt16}

/-- A pool that has the same constants under the same numbers, and maybe more at its end. -/
def Extends (p q : Pool) : Prop :=
  p.slots.toList <+: q.slots.toList

theorem Extends.refl (p : Pool) : p.Extends p :=
  List.prefix_rfl

theorem Extends.trans (hpq : p.Extends q) (hqr : q.Extends r) : p.Extends r :=
  List.IsPrefix.trans hpq hqr

theorem extends_push (p : Pool) (c : Constant) : p.Extends (p.push c) := by
  unfold Extends push
  split
  · exact ⟨[some c, none], by simp⟩
  · exact ⟨[some c], by simp⟩

theorem toNat_le_size (h : (p.get? index).isSome) : index.toNat ≤ p.size := by
  unfold get? at h
  split at h
  · cases h
  · rename_i h0
    have hpos : 0 < index.toNat := Nat.pos_of_ne_zero fun hz => h0 (UInt16.toNat.inj hz)
    cases hs : p.slots[index.toNat - 1]? with
    | none => simp [hs] at h
    | some c =>
      have hlt := (Array.getElem?_eq_some_iff.1 hs).1
      unfold size
      omega

theorem Extends.get?_eq (h : p.Extends q) (hi : index.toNat ≤ p.size) :
    q.get? index = p.get? index := by
  unfold get?
  split
  · rfl
  · rename_i h0
    have hpos : 0 < index.toNat := Nat.pos_of_ne_zero fun hz => h0 (UInt16.toNat.inj hz)
    obtain ⟨more, hm⟩ := h
    have hlt : index.toNat - 1 < p.slots.toList.length := by
      simp only [Array.length_toList]
      unfold size at hi
      omega
    rw [← Array.getElem?_toList, ← Array.getElem?_toList, ← hm, List.getElem?_append_left hlt]

theorem Extends.get?_some {c : Constant} (h : p.Extends q) (hc : p.get? index = some c) :
    q.get? index = some c := by
  rw [h.get?_eq (toNat_le_size (by rw [hc]; rfl)), hc]

theorem Extends.text_eq (h : p.Extends q) (hi : index.toNat ≤ p.size) :
    q.text index = p.text index := by
  unfold text
  rw [h.get?_eq hi]

theorem text_eq_ok {t : String} : p.text index = .ok t ↔ p.get? index = some (.utf8 t) := by
  unfold text
  split
  · rename_i u hu
    simp [hu]
  · rename_i c hc hu
    rw [hu]
    constructor
    · intro h
      cases h
    · intro h
      exact absurd (Option.some.inj h) (hc t)
  · rename_i hn
    simp [hn]

theorem className_eq_ok {t : String} :
    p.className index = .ok t ↔ ∃ name, p.get? index = some (.classInfo name) ∧ p.text name = .ok t := by
  unfold className
  split
  · rename_i name hn
    simp [hn]
  · rename_i c hc hn
    constructor
    · intro h
      cases h
    · rintro ⟨name, hname, -⟩
      exact absurd (Option.some.inj (hn.symm.trans hname)) (hc name)
  · rename_i hn
    simp [hn]

theorem Extends.text_ok {t : String} (h : p.Extends q) (ht : p.text index = .ok t) :
    q.text index = .ok t :=
  text_eq_ok.2 (h.get?_some (text_eq_ok.1 ht))

theorem Extends.className_ok {t : String} (h : p.Extends q) (ht : p.className index = .ok t) :
    q.className index = .ok t := by
  obtain ⟨name, hn, ht⟩ := className_eq_ok.1 ht
  exact className_eq_ok.2 ⟨name, h.get?_some hn, h.text_ok ht⟩

theorem next_eq_ok (h : p.next = .ok index) : index.toNat = p.size + 1 := by
  unfold next at h
  split at h
  · rename_i hle
    cases h
    exact Nat.mod_eq_of_lt (by omega)
  · cases h

theorem get?_push_next {c : Constant} (h : p.next = .ok index) :
    (p.push c).get? index = some c := by
  have hindex := next_eq_ok h
  have hne : index ≠ 0 := by
    rintro rfl
    cases hindex
  unfold get? push
  rw [if_neg hne, hindex, Nat.add_sub_cancel]
  unfold size
  have hlast : (p.slots.push (some c))[p.slots.size]? = some (some c) := Array.getElem?_push_size
  split
  · rw [Array.getElem?_push, if_neg (by simp), hlast]
    rfl
  · rw [hlast]
    rfl

theorem next_eq_error {e : ClassFileError} (h : p.next = .error e) : e = .numberTooLarge := by
  unfold next at h
  split at h <;> cases h
  rfl

def memberOf? (p : Pool) (kind : MemberKind) (owner nameAndType : UInt16) : Option MemberKey :=
  match p.className owner, p.get? nameAndType with
  | .ok owner, some (.nameAndType name descriptor) =>
    match p.text name, p.text descriptor with
    | .ok name, .ok descriptor => some ⟨kind, owner, name, descriptor⟩
    | _, _ => none
  | _, _ => none

theorem memberOf?_eq_some {kind : MemberKind} {owner nameAndType : UInt16} {key : MemberKey} :
    p.memberOf? kind owner nameAndType = some key ↔
      ∃ name descriptor, p.get? nameAndType = some (.nameAndType name descriptor) ∧
        key.kind = kind ∧ p.className owner = .ok key.owner ∧ p.text name = .ok key.name ∧
        p.text descriptor = .ok key.descriptor := by
  constructor
  · intro h
    unfold memberOf? at h
    split at h
    · rename_i owner' name descriptor ho hn
      split at h
      · rename_i name' descriptor' ht hd
        cases h
        exact ⟨name, descriptor, hn, rfl, ho, ht, hd⟩
      · cases h
    · cases h
  · rintro ⟨name, descriptor, hn, rfl, ho, ht, hd⟩
    simp only [memberOf?, hn, ho, ht, hd]

/-- The member that a number stands for. -/
def member? (p : Pool) (index : UInt16) : Option MemberKey :=
  match p.get? index with
  | some (.fieldref owner nameAndType) => p.memberOf? .field owner nameAndType
  | some (.methodref owner nameAndType) => p.memberOf? .method owner nameAndType
  | some (.interfaceMethodref owner nameAndType) => p.memberOf? .interfaceMethod owner nameAndType
  | _ => none

theorem member?_constant {kind : MemberKind} {owner nameAndType : UInt16}
    (h : p.get? index = some (kind.constant owner nameAndType)) :
    p.member? index = p.memberOf? kind owner nameAndType := by
  unfold member?
  rw [h]
  cases kind <;> rfl

theorem Extends.memberOf?_some {kind : MemberKind} {owner nameAndType : UInt16} {key : MemberKey}
    (h : p.Extends q) (hk : p.memberOf? kind owner nameAndType = some key) :
    q.memberOf? kind owner nameAndType = some key := by
  obtain ⟨name, descriptor, hn, hkind, ho, ht, hd⟩ := memberOf?_eq_some.1 hk
  exact memberOf?_eq_some.2
    ⟨name, descriptor, h.get?_some hn, hkind, h.className_ok ho, h.text_ok ht, h.text_ok hd⟩

theorem Extends.member?_some {key : MemberKey} (h : p.Extends q)
    (hk : p.member? index = some key) : q.member? index = some key := by
  have hkind : ∃ (kind : MemberKind) (owner nameAndType : UInt16),
      p.get? index = some (kind.constant owner nameAndType) := by
    unfold member? at hk
    split at hk
    · exact ⟨.field, _, _, by assumption⟩
    · exact ⟨.method, _, _, by assumption⟩
    · exact ⟨.interfaceMethod, _, _, by assumption⟩
    · cases hk
  obtain ⟨kind, owner, nameAndType, hc⟩ := hkind
  rw [member?_constant hc] at hk
  rw [member?_constant (h.get?_some hc)]
  exact h.memberOf?_some hk

end Pool

end StubLinker
