import StubLinker.Proofs.ClassFile.Symbol
import StubLinker.Proofs.Run

namespace StubLinker

namespace SharedPool

/-- The pool extends the one that lowering started from, and the cached numbers stand for their
keys. -/
structure Sound (base : Pool) (s : SharedPool) : Prop where
  extends_base : base.Extends s.pool
  classes : ∀ name index, (name, index) ∈ s.classes → s.pool.className index = .ok name
  members : ∀ key index, (key, index) ∈ s.members → s.pool.member? index = some key

theorem Sound.initial (base : Pool) : Sound base { pool := base } where
  extends_base := .refl base
  classes := fun _ _ h => by cases h
  members := fun _ _ h => by cases h

theorem Sound.push {base : Pool} {s : SharedPool} (h : s.Sound base) (c : Constant) :
    Sound base { s with pool := s.pool.push c } where
  extends_base := h.extends_base.trans (Pool.extends_push _ c)
  classes := fun name index hm => (Pool.extends_push _ c).className_ok (h.classes name index hm)
  members := fun key index hm => (Pool.extends_push _ c).member?_some (h.members key index hm)

theorem Sound.cacheClass {base : Pool} {s : SharedPool} (h : s.Sound base) {name : String}
    {index : UInt16} (hi : s.pool.className index = .ok name) :
    Sound base { s with classes := (name, index) :: s.classes } where
  extends_base := h.extends_base
  classes := by
    intro name' index' hm
    rcases List.mem_cons.1 hm with heq | hm
    · cases heq
      exact hi
    · exact h.classes name' index' hm
  members := h.members

theorem Sound.cacheMember {base : Pool} {s : SharedPool} (h : s.Sound base) {key : MemberKey}
    {index : UInt16} (hi : s.pool.member? index = some key) :
    Sound base { s with members := (key, index) :: s.members } where
  extends_base := h.extends_base
  classes := h.classes
  members := by
    intro key' index' hm
    rcases List.mem_cons.1 hm with heq | hm
    · cases heq
      exact hi
    · exact h.members key' index' hm

end SharedPool

namespace Lowering

variable {α β : Type} {base : Pool}

/-- A result that satisfies `post` in a pool, or an error: the pool was full, or `refuses` holds of
the error. -/
def Answers (post : Pool → α → Prop) (refuses : ClassFileError → Prop) (p : Pool) :
    Except ClassFileError α → Prop
  | .ok a => post p a
  | .error e => e = .numberTooLarge ∨ refuses e

/-- A step keeps what was there, and its result answers `post` in the pool that it leaves. -/
def Ensures (step : Lowering α) (post : Pool → α → Prop) (refuses : ClassFileError → Prop) : Prop :=
  ∀ base s r t, s.Sound base → runOn step s = (r, t) →
    t.Sound base ∧ s.pool.Extends t.pool ∧ Answers post refuses t.pool r

def Lasting (post : Pool → α → Prop) : Prop :=
  ∀ p q a, p.Extends q → post p a → post q a

theorem ensures_pure {post : Pool → α → Prop} {refuses : ClassFileError → Prop} {a : α}
    (h : ∀ p, post p a) : Ensures (pure a) post refuses := by
  rintro base s r t hs ⟨⟩
  exact ⟨hs, .refl _, h _⟩

theorem ensures_throw {post : Pool → α → Prop} {refuses : ClassFileError → Prop}
    {e : ClassFileError} (h : refuses e) : Ensures (throw e : Lowering α) post refuses := by
  rintro base s r t hs ⟨⟩
  exact ⟨hs, .refl _, .inr h⟩

theorem Ensures.mono {step : Lowering α} {post post' : Pool → α → Prop}
    {refuses refuses' : ClassFileError → Prop} (h : step.Ensures post refuses)
    (hp : ∀ p a, post p a → post' p a) (hr : ∀ e, refuses e → refuses' e) :
    step.Ensures post' refuses' := by
  intro base s r t hs hrun
  obtain ⟨ht, hext, ha⟩ := h base s r t hs hrun
  refine ⟨ht, hext, ?_⟩
  cases r with
  | ok a => exact hp _ a ha
  | error e => exact ha.imp_right (hr e)

/-- What the first step ensures still holds in the pool that the second one leaves. -/
theorem Ensures.bind {x : Lowering α} {f : α → Lowering β} {mid : Pool → α → Prop}
    {post : Pool → β → Prop} {refuses : ClassFileError → Prop} (hx : x.Ensures mid refuses)
    (hlast : Lasting mid)
    (hf : ∀ a, (f a).Ensures (fun p b => mid p a → post p b)
      (fun e => (∃ p, mid p a) → refuses e)) :
    (x >>= f).Ensures post refuses := by
  intro base s r t hs hrun
  rw [runOn_bind] at hrun
  cases hxs : runOn x s with
  | mk rx u =>
    obtain ⟨hu, hsu, hmid⟩ := hx base s rx u hs hxs
    rw [hxs] at hrun
    cases rx with
    | error e =>
      cases hrun
      exact ⟨hu, hsu, hmid⟩
    | ok a =>
      obtain ⟨ht, hut, hr⟩ := hf a base u r t hu hrun
      refine ⟨ht, hsu.trans hut, ?_⟩
      cases r with
      | ok b => exact hr (hlast _ _ a hut hmid)
      | error e => exact hr.imp_right fun h => h ⟨_, hmid⟩

def Adds (step : Lowering α) (post : Pool → α → Prop) : Prop :=
  step.Ensures post fun _ => False

theorem Adds.bind {x : Lowering α} {f : α → Lowering β} {mid : Pool → α → Prop}
    {post : Pool → β → Prop} (hx : x.Adds mid) (hlast : Lasting mid)
    (hf : ∀ a, (f a).Adds fun p b => mid p a → post p b) : (x >>= f).Adds post :=
  Ensures.bind hx hlast fun a => (hf a).mono (fun _ _ h => h) fun _ h => h.elim

theorem Adds.mono {step : Lowering α} {post post' : Pool → α → Prop} (h : step.Adds post)
    (hp : ∀ p a, post p a → post' p a) : step.Adds post' :=
  Ensures.mono h hp fun _ h => h

theorem lasting_get? (c : Constant) : Lasting fun p index => p.get? index = some c :=
  fun _ _ _ h hc => h.get?_some hc

theorem lasting_className (name : String) : Lasting fun p index => p.className index = .ok name :=
  fun _ _ _ h hn => h.className_ok hn

theorem lasting_member? (key : MemberKey) : Lasting fun p index => p.member? index = some key :=
  fun _ _ _ h hk => h.member?_some hk

theorem runOn_add (c : Constant) (s : SharedPool) :
    runOn (add c) s =
      match s.pool.next with
      | .ok index => (.ok index, { s with pool := s.pool.push c })
      | .error e => (.error e, s) := by
  rw [add, runOn_bind, runOn_get]
  dsimp only
  rw [runOn_bind, runOn_liftM]
  cases s.pool.next <;> rfl

theorem adds_add (c : Constant) : (add c).Adds fun p index => p.get? index = some c := by
  intro base s r t hs hrun
  rw [runOn_add] at hrun
  cases hn : s.pool.next with
  | error e =>
    rw [hn] at hrun
    cases hrun
    exact ⟨hs, .refl _, .inl (Pool.next_eq_error hn)⟩
  | ok index =>
    rw [hn] at hrun
    cases hrun
    exact ⟨hs.push c, Pool.extends_push _ c, Pool.get?_push_next hn⟩

theorem adds_cached (lookup : SharedPool → Option UInt16) {make : Lowering UInt16}
    (store : UInt16 → SharedPool → SharedPool) {post : Pool → UInt16 → Prop}
    (hmake : make.Adds post)
    (hfound : ∀ base s index, s.Sound base → lookup s = some index → post s.pool index)
    (hstore : ∀ base s index, s.Sound base → post s.pool index → (store index s).Sound base ∧
      (store index s).pool = s.pool) :
    Adds (do
      match lookup (← get) with
      | some index => pure index
      | none =>
        let index ← make
        modify (store index)
        pure index) post := by
  intro base s r t hs hrun
  rw [runOn_bind, runOn_get] at hrun
  dsimp only at hrun
  cases hl : lookup s with
  | some index =>
    rw [hl] at hrun
    cases hrun
    exact ⟨hs, .refl _, hfound base s index hs hl⟩
  | none =>
    rw [hl] at hrun
    dsimp only at hrun
    rw [runOn_bind] at hrun
    cases hm : runOn make s with
    | mk rm u =>
      obtain ⟨hu, hsu, ha⟩ := hmake base s rm u hs hm
      rw [hm] at hrun
      cases rm with
      | error e =>
        cases hrun
        exact ⟨hu, hsu, ha⟩
      | ok index =>
        obtain ⟨hst, hpool⟩ := hstore base u index hu ha
        cases hrun
        refine ⟨hst, ?_, ?_⟩
        · rw [hpool]
          exact hsu
        · rw [hpool]
          exact ha

def freshClass (name : String) : Lowering UInt16 := do
  let text ← add (.utf8 name)
  add (.classInfo text)

theorem adds_freshClass (name : String) :
    (freshClass name).Adds fun p index => p.className index = .ok name := by
  refine (adds_add (.utf8 name)).bind (lasting_get? _) fun text => ?_
  refine (adds_add (.classInfo text)).mono ?_
  intro p index hi ht
  exact Pool.className_eq_ok.2 ⟨text, hi, Pool.text_eq_ok.2 ht⟩

theorem adds_classIndex (name : String) :
    (classIndex name).Adds fun p index => p.className index = .ok name := by
  have hcached := adds_cached (fun s => s.classes.lookup name)
    (fun index s => { s with classes := (name, index) :: s.classes }) (adds_freshClass name)
    (fun base s index hs hl => by
      obtain ⟨_, _, hmem, -⟩ := List.lookup_eq_some_iff.1 hl
      exact hs.classes name index (by simp [hmem]))
    (fun base s index hs hi => ⟨hs.cacheClass hi, rfl⟩)
  simp only [freshClass, bind_assoc] at hcached
  exact hcached

def freshMember (kind : MemberKind) (m : MemberRef) : Lowering UInt16 := do
  let owner ← classIndex m.owner
  let name ← add (.utf8 m.name)
  let descriptor ← add (.utf8 m.descriptor)
  let nameAndType ← add (.nameAndType name descriptor)
  add (kind.constant owner nameAndType)

theorem adds_freshMember (kind : MemberKind) (m : MemberRef) :
    (freshMember kind m).Adds fun p index => p.member? index = some (m.key kind) := by
  refine (adds_classIndex m.owner).bind (lasting_className _) fun owner => ?_
  refine (adds_add (.utf8 m.name)).bind (lasting_get? _) fun name => ?_
  refine (adds_add (.utf8 m.descriptor)).bind (lasting_get? _) fun descriptor => ?_
  refine (adds_add (.nameAndType name descriptor)).bind (lasting_get? _) fun nameAndType => ?_
  refine (adds_add (kind.constant owner nameAndType)).mono ?_
  intro p index hi hn hd ht ho
  rw [Pool.member?_constant hi]
  exact Pool.memberOf?_eq_some.2
    ⟨name, descriptor, hn, rfl, ho, Pool.text_eq_ok.2 ht, Pool.text_eq_ok.2 hd⟩

theorem adds_memberIndex (kind : MemberKind) (m : MemberRef) :
    (memberIndex kind m).Adds fun p index => p.member? index = some (m.key kind) := by
  have hcached := adds_cached (fun s => s.members.lookup (m.key kind))
    (fun index s => { s with members := (m.key kind, index) :: s.members })
    (adds_freshMember kind m)
    (fun base s index hs hl => by
      obtain ⟨_, _, hmem, -⟩ := List.lookup_eq_some_iff.1 hl
      exact hs.members _ index (by simp [hmem]))
    (fun base s index hs hi => ⟨hs.cacheMember hi, rfl⟩)
  simp only [freshMember, bind_assoc] at hcached
  exact hcached

end Lowering

end StubLinker
