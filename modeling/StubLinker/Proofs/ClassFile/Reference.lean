import Mathlib.Algebra.BigOperators.Group.Finset.Basic
import StubLinker.Proofs.ClassFile.Lowering

namespace StubLinker

/-- What a number that lowering gives out stands for. -/
inductive Reference where
  | className (name : String)
  | member (key : MemberKey)
  deriving DecidableEq, Repr

namespace Reference

/-- The constants of a reference: a class has a text, a member has two texts and the pair of them. Its
owner is a reference of its own. -/
def constants : Reference → Nat
  | className _ => 2
  | member _ => 4

def withOwner : Reference → List Reference
  | className name => [className name]
  | member key => [className key.owner, member key]

def Resolves (p : Pool) : Reference → UInt16 → Prop
  | className name, index => p.className index = .ok name
  | member key, index => p.member? index = some key

/-- A number stands for one reference only, since classes and members have constants of their own. -/
theorem Resolves.unique {p : Pool} {r r' : Reference} {index : UInt16} (h : r.Resolves p index)
    (h' : r'.Resolves p index) : r = r' := by
  have hapart {name : String} {key : MemberKey} (hc : p.className index = .ok name)
      (hm : p.member? index = some key) : False := by
    obtain ⟨text, hi, -⟩ := Pool.className_eq_ok.1 hc
    rw [Pool.member?, hi] at hm
    cases hm
  cases r with
  | className name =>
    cases r' with
    | className name' =>
      have hname : name = name' := Except.ok.inj (h.symm.trans h')
      rw [hname]
    | member key => exact (hapart h h').elim
  | member key =>
    cases r' with
    | className name => exact (hapart h' h).elim
    | member key' =>
      have hkey : key = key' := Option.some.inj (h.symm.trans h')
      rw [hkey]

end Reference

namespace Op

def reference? : Op → Option Reference
  | checkCast name => some (.className name)
  | new name => some (.className name)
  | getField m => some (.member (m.key .field))
  | getStatic m => some (.member (m.key .field))
  | putField m => some (.member (m.key .field))
  | putStatic m => some (.member (m.key .field))
  | invokeSpecial m => some (.member (m.key .method))
  | invokeStatic m => some (.member (m.key .method))
  | invokeVirtual m => some (.member (m.key .method))
  | invokeInterface m => some (.member (m.key .interfaceMethod))
  | load _ _ => none
  | dup => none
  | «return» _ => none

def references (op : Op) : List Reference :=
  op.reference?.toList.flatMap Reference.withOwner

end Op

namespace Instruction

def index? : Instruction → Option UInt16
  | .short _ index => some index
  | .interfaceCall index _ => some index
  | _ => none

/-- An instruction that reads in a pool as the operation it was lowered from: both say the same, and
the slots that a call of an interface method pops fit in its count. -/
structure Decodes (p : Pool) (op : Op) (i : Instruction) : Prop where
  same : i.symbol? p = op.symbol?
  defined : op.symbol?.isSome = true
  fits : op.crowded? = none

end Instruction

namespace SharedPool

def index? (s : SharedPool) : Reference → Option UInt16
  | .className name => s.classes.lookup name
  | .member key => s.members.lookup key

def Keeps (s t : SharedPool) : Prop :=
  ∀ r index, s.index? r = some index → t.index? r = some index

variable {s t u : SharedPool} {base : Pool} {r : Reference} {index : UInt16}

theorem Keeps.refl (s : SharedPool) : s.Keeps s :=
  fun _ _ h => h

theorem Keeps.trans (hst : s.Keeps t) (htu : t.Keeps u) : s.Keeps u :=
  fun r index h => htu r index (hst r index h)

theorem Sound.resolves (h : s.Sound base) (hr : s.index? r = some index) :
    r.Resolves s.pool index := by
  cases r with
  | className name =>
    obtain ⟨_, _, hmem, -⟩ := List.lookup_eq_some_iff.1 hr
    exact h.classes name index (by simp [hmem])
  | member key =>
    obtain ⟨_, _, hmem, -⟩ := List.lookup_eq_some_iff.1 hr
    exact h.members key index (by simp [hmem])

def give (r : Reference) (index : UInt16) (s : SharedPool) : SharedPool :=
  match r with
  | .className name => { s with classes := (name, index) :: s.classes }
  | .member key => { s with members := (key, index) :: s.members }

theorem index?_give (r r' : Reference) (index : UInt16) (s : SharedPool) :
    (s.give r index).index? r' = if r' = r then some index else s.index? r' := by
  by_cases h : r' = r
  · subst h
    rw [if_pos rfl]
    cases r' <;> exact List.lookup_cons_self
  · rw [if_neg h]
    cases r with
    | className name =>
      cases r' with
      | className name' =>
        have hne : name' ≠ name := fun he => h (congrArg Reference.className he)
        show List.lookup name' ((name, index) :: s.classes) = s.classes.lookup name'
        rw [List.lookup_cons, beq_false_of_ne hne]
      | member key => rfl
    | member key =>
      cases r' with
      | className name => rfl
      | member key' =>
        have hne : key' ≠ key := fun he => h (congrArg Reference.member he)
        show List.lookup key' ((key, index) :: s.members) = s.members.lookup key'
        rw [List.lookup_cons, beq_false_of_ne hne]

@[simp] theorem pool_give (r : Reference) (index : UInt16) (s : SharedPool) :
    (s.give r index).pool = s.pool := by
  cases r <;> rfl

theorem Keeps.give (h : s.Keeps t) (hr : s.index? r = none) : s.Keeps (t.give r index) := by
  intro r' index' h'
  rw [index?_give, if_neg, h r' index' h']
  rintro rfl
  rw [hr] at h'
  cases h'

/-- The references that have numbers, and a pool that has grown by their constants since it was
`base`. -/
structure Counts (base : Pool) (refs : Finset Reference) (s : SharedPool) : Prop where
  known : ∀ r, (s.index? r).isSome ↔ r ∈ refs
  owners : ∀ key, .member key ∈ refs → .className key.owner ∈ refs
  size : s.pool.size = base.size + ∑ r ∈ refs, r.constants

theorem Counts.initial (base : Pool) : Counts base ∅ { pool := base } where
  known := fun r => by cases r <;> simp [index?]
  owners := fun key h => by simp at h
  size := by simp

variable {refs : Finset Reference}

theorem Counts.give (h : Counts base refs s) (hr : s.index? r = none)
    (hsame : t.index? = s.index?) (hsize : t.pool.size = s.pool.size + r.constants)
    (howner : ∀ key, r = .member key → .className key.owner ∈ refs) (index : UInt16) :
    Counts base (refs ∪ {r}) (t.give r index) where
  known := by
    intro r'
    rw [index?_give, hsame, Finset.mem_union, Finset.mem_singleton, ← h.known r']
    split <;> simp [*]
  owners := by
    intro key hkey
    apply Finset.mem_union_left
    rcases Finset.mem_union.1 hkey with hkey | hkey
    · exact h.owners key hkey
    · exact howner key (Finset.mem_singleton.1 hkey).symm
  size := by
    have hnew : r ∉ refs := by
      intro hmem
      have hsome := (h.known r).2 hmem
      rw [hr] at hsome
      cases hsome
    rw [pool_give, hsize, h.size, Finset.sum_union (Finset.disjoint_singleton_right.2 hnew),
      Finset.sum_singleton, Nat.add_assoc]

end SharedPool

namespace Lowering

variable {α β : Type}

/-- A step that keeps the numbers of references, and whose result satisfies `post` with those it
leaves. -/
def Grants (step : Lowering α) (post : SharedPool → α → Prop) : Prop :=
  ∀ s r t, runOn step s = (r, t) → s.Keeps t ∧ ∀ a, r = .ok a → post t a

/-- Facts about the numbers of references that hold as long as these are kept. -/
def Kept (post : SharedPool → α → Prop) : Prop :=
  ∀ s t a, s.Keeps t → post s a → post t a

theorem grants_liftM (r : Except ClassFileError α) :
    (liftM r : Lowering α).Grants fun _ a => r = .ok a := by
  intro s r' t h
  cases h
  exact ⟨.refl s, fun a h => h⟩

theorem Grants.mono {step : Lowering α} {post post' : SharedPool → α → Prop}
    (h : step.Grants post) (hp : ∀ t a, post t a → post' t a) : step.Grants post' := by
  intro s r t hrun
  obtain ⟨hkeeps, hpost⟩ := h s r t hrun
  exact ⟨hkeeps, fun a ha => hp t a (hpost a ha)⟩

theorem Grants.bind {x : Lowering α} {f : α → Lowering β} {mid : SharedPool → α → Prop}
    {post : SharedPool → β → Prop} (hx : x.Grants mid) (hkept : Kept mid)
    (hf : ∀ a, (f a).Grants fun t b => mid t a → post t b) : (x >>= f).Grants post := by
  intro s r t hrun
  rw [runOn_bind] at hrun
  rcases hxs : runOn x s with ⟨rx, u⟩
  obtain ⟨hsu, hmid⟩ := hx s rx u hxs
  rw [hxs] at hrun
  cases rx with
  | error e =>
    cases hrun
    exact ⟨hsu, fun b hb => by cases hb⟩
  | ok a =>
    obtain ⟨hut, hpost⟩ := hf a u r t hrun
    refine ⟨hsu.trans hut, ?_⟩
    intro b hb
    exact hpost b hb (hkept u t a hut (hmid a rfl))

theorem kept_index? (r : Reference) : Kept fun t index => t.index? r = some index :=
  fun _ _ index h hr => h r index hr

/-- A step that gives references numbers: those it asks for, if it succeeds. -/
def Tallies (step : Lowering α) (asked : List Reference) : Prop :=
  ∀ base refs s a t, SharedPool.Counts base refs s → runOn step s = (.ok a, t) →
    SharedPool.Counts base (refs ∪ asked.toFinset) t

theorem tallies_liftM (r : Except ClassFileError α) : (liftM r : Lowering α).Tallies [] := by
  intro base refs s a t hs hrun
  cases hrun
  rw [List.toFinset_nil, Finset.union_empty]
  exact hs

theorem Tallies.bind {x : Lowering α} {f : α → Lowering β} {asked askedNext : List Reference}
    (hx : x.Tallies asked) (hf : ∀ a, (f a).Tallies askedNext) :
    (x >>= f).Tallies (asked ++ askedNext) := by
  intro base refs s b t hs hrun
  obtain ⟨a, u, hxs, hfu⟩ := runOn_bind_eq_ok.1 hrun
  rw [List.toFinset_append, ← Finset.union_assoc]
  exact hf a base _ u b t (hx base refs s a u hs hxs) hfu

theorem Tallies.map {x : Lowering α} {asked : List Reference} (hx : x.Tallies asked) (f : α → β) :
    (x >>= fun a => pure (f a)).Tallies asked := by
  have h := hx.bind fun a => tallies_liftM (.ok (f a))
  rw [List.append_nil] at h
  exact h

/-- A step that leaves the numbers of references alone and fills a number of slots if it succeeds. -/
def Fills (step : Lowering α) (n : Nat) : Prop :=
  ∀ s r t, runOn step s = (r, t) →
    t.index? = s.index? ∧ ∀ a, r = .ok a → t.pool.size = s.pool.size + n

theorem fills_add {c : Constant} (hc : c.isWide = false) : (add c).Fills 1 := by
  intro s r t hrun
  rw [runOn_add] at hrun
  cases hn : s.pool.next with
  | error e =>
    rw [hn] at hrun
    cases hrun
    exact ⟨rfl, fun a ha => by cases ha⟩
  | ok index =>
    rw [hn] at hrun
    cases hrun
    refine ⟨rfl, fun a _ => ?_⟩
    simp [Pool.push, hc, Pool.size]

theorem Fills.bind {x : Lowering α} {f : α → Lowering β} {n k : Nat} (hx : x.Fills n)
    (hf : ∀ a, (f a).Fills k) : (x >>= f).Fills (n + k) := by
  intro s r t hrun
  rw [runOn_bind] at hrun
  rcases hxs : runOn x s with ⟨rx, u⟩
  obtain ⟨hsame, hsize⟩ := hx s rx u hxs
  rw [hxs] at hrun
  cases rx with
  | error e =>
    cases hrun
    exact ⟨hsame, fun b hb => by cases hb⟩
  | ok a =>
    obtain ⟨hsame', hsize'⟩ := hf a u r t hrun
    refine ⟨hsame'.trans hsame, ?_⟩
    intro b hb
    rw [hsize' b hb, hsize a rfl, Nat.add_assoc]

theorem Fills.keeps {step : Lowering α} {n : Nat} (h : step.Fills n) {s t : SharedPool}
    {r : Except ClassFileError α} (hrun : runOn step s = (r, t)) : s.Keeps t := by
  intro r' index hr
  rw [(h s r t hrun).1]
  exact hr

theorem fills_freshClass (name : String) : (freshClass name).Fills 2 :=
  (fills_add rfl).bind fun _ => fills_add rfl

def memberConstants (kind : MemberKind) (m : MemberRef) (owner : UInt16) : Lowering UInt16 := do
  let name ← add (.utf8 m.name)
  let descriptor ← add (.utf8 m.descriptor)
  let nameAndType ← add (.nameAndType name descriptor)
  add (kind.constant owner nameAndType)

theorem fills_memberConstants (kind : MemberKind) (m : MemberRef) (owner : UInt16) :
    (memberConstants kind m owner).Fills 4 := by
  have hconstant (nameAndType : UInt16) : (kind.constant owner nameAndType).isWide = false := by
    cases kind <;> rfl
  exact (fills_add rfl).bind fun _ => (fills_add rfl).bind fun _ =>
    (fills_add rfl).bind fun nameAndType => fills_add (hconstant nameAndType)

theorem freshMember_eq (kind : MemberKind) (m : MemberRef) :
    freshMember kind m = classIndex m.owner >>= memberConstants kind m :=
  rfl

/-- The run of asking for a reference: its number, or one that is made and given to it. -/
def Asks (step make : Lowering UInt16) (r : Reference) : Prop :=
  ∀ s, runOn step s =
    match s.index? r with
    | some index => (.ok index, s)
    | none =>
      match runOn make s with
      | (.ok index, t) => (.ok index, t.give r index)
      | (.error e, t) => (.error e, t)

theorem asks_classIndex (name : String) :
    Asks (classIndex name) (freshClass name) (.className name) := by
  intro s
  have hcached : classIndex name = (do
      match (← get).classes.lookup name with
      | some index => pure index
      | none =>
        let index ← freshClass name
        modify (SharedPool.give (.className name) index)
        pure index) := by
    simp only [freshClass, bind_assoc]
    rfl
  rw [hcached, runOn_bind, runOn_get]
  dsimp only
  unfold SharedPool.index?
  dsimp only
  cases s.classes.lookup name with
  | some index => rfl
  | none =>
    dsimp only
    rw [runOn_bind]
    rcases runOn (freshClass name) s with ⟨r, t⟩
    cases r <;> rfl

theorem asks_memberIndex (kind : MemberKind) (m : MemberRef) :
    Asks (memberIndex kind m) (freshMember kind m) (.member (m.key kind)) := by
  intro s
  have hcached : memberIndex kind m = (do
      match (← get).members.lookup (m.key kind) with
      | some index => pure index
      | none =>
        let index ← freshMember kind m
        modify (SharedPool.give (.member (m.key kind)) index)
        pure index) := by
    simp only [freshMember, bind_assoc]
    rfl
  rw [hcached, runOn_bind, runOn_get]
  dsimp only
  unfold SharedPool.index?
  dsimp only
  cases s.members.lookup (m.key kind) with
  | some index => rfl
  | none =>
    dsimp only
    rw [runOn_bind]
    rcases runOn (freshMember kind m) s with ⟨r, t⟩
    cases r <;> rfl

/-- The number that is asked for is given from then on, if making one keeps the others. -/
theorem Asks.grants {step make : Lowering UInt16} {r : Reference} (h : Asks step make r)
    (hmake : ∀ s a t, runOn make s = (a, t) → s.Keeps t) :
    step.Grants fun t index => t.index? r = some index := by
  intro s a t hrun
  rw [h s] at hrun
  cases hr : s.index? r with
  | some index =>
    rw [hr] at hrun
    cases hrun
    refine ⟨.refl s, ?_⟩
    rintro index' ⟨⟩
    exact hr
  | none =>
    rw [hr] at hrun
    rcases hm : runOn make s with ⟨made, u⟩
    have hsu := hmake s made u hm
    dsimp only at hrun
    rw [hm] at hrun
    cases made with
    | error e =>
      cases hrun
      exact ⟨hsu, fun index hi => by cases hi⟩
    | ok index =>
      cases hrun
      refine ⟨hsu.give hr, ?_⟩
      rintro index' ⟨⟩
      rw [SharedPool.index?_give, if_pos rfl]

theorem grants_classIndex (name : String) :
    (classIndex name).Grants fun t index => t.index? (.className name) = some index :=
  (asks_classIndex name).grants fun _ _ _ hrun => (fills_freshClass name).keeps hrun

theorem grants_memberIndex (kind : MemberKind) (m : MemberRef) :
    (memberIndex kind m).Grants fun t index => t.index? (.member (m.key kind)) = some index := by
  apply (asks_memberIndex kind m).grants
  intro s a t hrun
  have hfresh : (freshMember kind m).Grants fun _ _ => True := by
    refine (grants_classIndex m.owner).bind (kept_index? _) fun owner => ?_
    intro s a t hrun
    exact ⟨(fills_memberConstants kind m owner).keeps hrun, fun _ _ _ => trivial⟩
  exact (hfresh s a t hrun).1

theorem tallies_classIndex (name : String) : (classIndex name).Tallies [.className name] := by
  intro base refs s index t hs hrun
  rw [asks_classIndex name s] at hrun
  rw [List.toFinset_cons, List.toFinset_nil, insert_empty_eq]
  cases hr : s.index? (.className name) with
  | some found =>
    rw [hr] at hrun
    cases hrun
    have hmem := (hs.known (.className name)).1 (by rw [hr]; rfl)
    rw [Finset.union_eq_left.2 (Finset.singleton_subset_iff.2 hmem)]
    exact hs
  | none =>
    rw [hr] at hrun
    rcases hm : runOn (freshClass name) s with ⟨made, u⟩
    dsimp only at hrun
    rw [hm] at hrun
    cases made with
    | error e => cases hrun
    | ok given =>
      cases hrun
      obtain ⟨hsame, hsize⟩ := fills_freshClass name s _ u hm
      exact hs.give hr hsame (hsize index rfl) (fun key hkey => by cases hkey) index

theorem tallies_memberIndex (kind : MemberKind) (m : MemberRef) :
    (memberIndex kind m).Tallies [.className m.owner, .member (m.key kind)] := by
  intro base refs s index t hs hrun
  rw [asks_memberIndex kind m s] at hrun
  rw [List.toFinset_cons, List.toFinset_cons, List.toFinset_nil, insert_empty_eq,
    Finset.insert_eq, ← Finset.union_assoc]
  cases hr : s.index? (.member (m.key kind)) with
  | some found =>
    rw [hr] at hrun
    cases hrun
    have hmem := (hs.known (.member (m.key kind))).1 (by rw [hr]; rfl)
    have howner : Reference.className m.owner ∈ refs := hs.owners (m.key kind) hmem
    rw [Finset.union_eq_left.2 (Finset.singleton_subset_iff.2 howner),
      Finset.union_eq_left.2 (Finset.singleton_subset_iff.2 hmem)]
    exact hs
  | none =>
    rw [hr] at hrun
    rcases hm : runOn (freshMember kind m) s with ⟨made, u⟩
    dsimp only at hrun
    rw [hm] at hrun
    cases made with
    | error e => cases hrun
    | ok given =>
      cases hrun
      rw [freshMember_eq] at hm
      obtain ⟨owner, v, hv, hu⟩ := runOn_bind_eq_ok.1 hm
      have hcounts := tallies_classIndex m.owner base refs s owner v hs hv
      rw [List.toFinset_cons, List.toFinset_nil, insert_empty_eq] at hcounts
      -- Asking for the owner gives no number to the member.
      have hnew : v.index? (.member (m.key kind)) = none := by
        rw [← Option.not_isSome_iff_eq_none, hcounts.known, Finset.mem_union, Finset.mem_singleton,
          ← hs.known, hr]
        simp
      obtain ⟨hsame, hsize⟩ := fills_memberConstants kind m owner v _ u hu
      refine hcounts.give hnew hsame (hsize index rfl) ?_ index
      rintro key ⟨⟩
      exact Finset.mem_union_right _ (Finset.mem_singleton_self _)

/-- How an operation is lowered: by itself, or on the number of what it refers to. -/
inductive Lowers (op : Op) : Lowering Instruction → Prop where
  | plain (r : Except ClassFileError Instruction) (h : op.reference? = none) : Lowers op (liftM r)
  | refused (e : ClassFileError) : Lowers op (throw e)
  | onClass (name : String) (make : UInt16 → Instruction)
      (h : op.reference? = some (.className name))
      (hmake : ∀ index, (make index).index? = some index) :
      Lowers op (classIndex name >>= fun index => pure (make index))
  | onMember (kind : MemberKind) (m : MemberRef) (make : UInt16 → Instruction)
      (h : op.reference? = some (.member (m.key kind)))
      (hmake : ∀ index, (make index).index? = some index) :
      Lowers op (memberIndex kind m >>= fun index => pure (make index))

theorem lowers_lower (op : Op) : Lowers op (lower op) := by
  cases op with
  | load t slot => exact .plain (Instruction.load t slot) rfl
  | checkCast name => exact .onClass name (.short 192) rfl fun _ => rfl
  | new name => exact .onClass name (.short 187) rfl fun _ => rfl
  | dup => exact .plain (.ok (.plain 89)) rfl
  | getField m => exact .onMember .field m (.short 180) rfl fun _ => rfl
  | getStatic m => exact .onMember .field m (.short 178) rfl fun _ => rfl
  | putField m => exact .onMember .field m (.short 181) rfl fun _ => rfl
  | putStatic m => exact .onMember .field m (.short 179) rfl fun _ => rfl
  | invokeSpecial m => exact .onMember .method m (.short 183) rfl fun _ => rfl
  | invokeStatic m => exact .onMember .method m (.short 184) rfl fun _ => rfl
  | invokeVirtual m => exact .onMember .method m (.short 182) rfl fun _ => rfl
  | invokeInterface m =>
    rw [lower]
    by_cases h : 0xFF < (Op.invokeInterface m).pops
    · rw [if_pos h]
      exact .refused (.tooManyArguments m)
    · rw [if_neg h]
      exact .onMember .interfaceMethod m
        (.interfaceCall · (Op.invokeInterface m).pops.toUInt8) rfl fun _ => rfl
  | «return» t => exact .plain (.ok (.ret t)) rfl

/-- The number in an instruction is the one of what the operation refers to. -/
def Granted (t : SharedPool) (op : Op) (i : Instruction) : Prop :=
  ∀ r, op.reference? = some r → ∃ index, i.index? = some index ∧ t.index? r = some index

theorem kept_granted (op : Op) : Kept fun t i => Granted t op i := by
  intro s t i h hi r hr
  obtain ⟨index, hindex, hs⟩ := hi r hr
  exact ⟨index, hindex, h r index hs⟩

theorem grants_lower (op : Op) : (lower op).Grants fun t i => Granted t op i := by
  have hnumber {x : Lowering UInt16} {r : Reference} {make : UInt16 → Instruction}
      (hr : op.reference? = some r) (hmake : ∀ index, (make index).index? = some index)
      (hx : x.Grants fun t index => t.index? r = some index) :
      (x >>= fun index => pure (make index)).Grants fun t i => Granted t op i := by
    refine hx.bind (kept_index? r) fun index => ?_
    apply (grants_liftM (.ok (make index))).mono
    rintro t i ⟨⟩ ht r' hr'
    rw [hr] at hr'
    cases hr'
    exact ⟨index, hmake index, ht⟩
  have h := lowers_lower op
  generalize lower op = step at h ⊢
  cases h with
  | plain r h =>
    apply (grants_liftM r).mono
    intro t i _ r' hr'
    rw [h] at hr'
    cases hr'
  | refused e =>
    apply (grants_liftM (.error e)).mono
    intro t i h
    cases h
  | onClass name make h hmake => exact hnumber h hmake (grants_classIndex name)
  | onMember kind m make h hmake => exact hnumber h hmake (grants_memberIndex kind m)

theorem tallies_lower (op : Op) : (lower op).Tallies op.references := by
  unfold Op.references
  have h := lowers_lower op
  generalize lower op = step at h ⊢
  cases h with
  | plain r h =>
    rw [h]
    exact tallies_liftM r
  | refused e =>
    intro base refs s a t hs hrun
    cases hrun
  | onClass name make h hmake =>
    rw [h]
    exact (tallies_classIndex name).map make
  | onMember kind m make h hmake =>
    rw [h]
    exact (tallies_memberIndex kind m).map make

theorem grants_lowerAll (ops : List Op) :
    (lowerAll ops).Grants fun t is => List.Forall₂ (Granted t) ops is := by
  induction ops with
  | nil =>
    apply (grants_liftM (.ok [])).mono
    rintro t is ⟨⟩
    exact .nil
  | cons op ops ih =>
    refine (grants_lower op).bind (kept_granted op) fun i => ?_
    have hrest : Kept fun t is => List.Forall₂ (Granted t) ops is := by
      intro s t is h his
      exact his.imp fun op i hi => kept_granted op s t i h hi
    refine ih.bind hrest fun is => ?_
    apply (grants_liftM (.ok (i :: is))).mono
    rintro t is' ⟨⟩ his hi
    exact .cons hi his

theorem tallies_lowerAll (ops : List Op) :
    (lowerAll ops).Tallies (ops.flatMap Op.references) := by
  induction ops with
  | nil => exact tallies_liftM (.ok [])
  | cons op ops ih =>
    rw [List.flatMap_cons]
    exact (tallies_lower op).bind fun i => ih.map (i :: ·)

theorem ensures_decodes (op : Op) :
    (lower op).Ensures (fun p i => Instruction.Decodes p op i) fun _ => True := by
  by_cases hop : op.symbol?.isSome = true
  · apply (ensures_lower hop).mono
    · intro p i hi
      exact ⟨hi.1, hop, hi.2⟩
    · intro e _
      trivial
  · have hload : ∃ e, lower op = throw e := by
      cases op with
      | load t slot =>
        rw [Op.symbol?, Option.isSome_map, Option.not_isSome_iff_eq_none] at hop
        rw [lower, Instruction.load, hop]
        exact ⟨.loadOfVoid, rfl⟩
      | _ => exact absurd rfl hop
    obtain ⟨e, he⟩ := hload
    rw [he]
    exact ensures_throw trivial

theorem lasting_decodes (op : Op) : Lasting fun p i => Instruction.Decodes p op i := by
  intro p q i h hi
  exact ⟨lasting_symbol? hi.defined p q i h hi.same, hi.defined, hi.fits⟩

theorem lasting_decodesAll (ops : List Op) :
    Lasting fun p is => List.Forall₂ (Instruction.Decodes p) ops is := by
  intro p q is h his
  exact his.imp fun op i hi => lasting_decodes op p q i h hi

theorem ensures_decodesAll (ops : List Op) :
    (lowerAll ops).Ensures (fun p is => List.Forall₂ (Instruction.Decodes p) ops is)
      fun _ => True := by
  induction ops with
  | nil => exact ensures_pure fun _ => .nil
  | cons op ops ih =>
    refine Ensures.bind (ensures_decodes op) (lasting_decodes op) fun i => ?_
    have hrest : (lowerAll ops).Ensures (fun p is => List.Forall₂ (Instruction.Decodes p) ops is)
        fun _ => (∃ p, Instruction.Decodes p op i) → True :=
      ih.mono (fun p is his => his) fun _ _ _ => trivial
    refine hrest.bind (lasting_decodesAll ops) fun is => ?_
    exact ensures_pure fun p his hi => .cons hi his

end Lowering

end StubLinker
