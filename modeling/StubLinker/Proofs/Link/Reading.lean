import StubLinker.Proofs.Link.Refinement

namespace StubLinker

namespace Except

variable {ε ε' α β : Type}

/-- The second result is the first one, unless that is an error. -/
def Persists (x y : Except ε α) : Prop :=
  ∀ a, x = .ok a → y = .ok a

theorem Persists.refl (x : Except ε α) : Persists x x :=
  fun _ h => h

theorem Persists.bind {x y : Except ε α} {f g : α → Except ε β} (hx : Persists x y)
    (hf : ∀ a, Persists (f a) (g a)) : Persists (x >>= f) (y >>= g) := by
  intro b h
  obtain ⟨a, ha, hb⟩ := bind_eq_ok.1 h
  exact bind_eq_ok.2 ⟨a, hx a ha, hf a b hb⟩

theorem Persists.map {x y : Except ε α} (h : Persists x y) (f : α → β) :
    Persists (x.map f) (y.map f) := by
  intro b hb
  cases x with
  | error e => cases hb
  | ok a =>
    rw [h a rfl]
    exact hb

theorem Persists.mapError {x y : Except ε α} (h : Persists x y) (f : ε → ε') :
    Persists (x.mapError f) (y.mapError f) := by
  intro a ha
  cases x with
  | error e => cases ha
  | ok b =>
    rw [h b rfl]
    exact ha

theorem persists_mapM {f g : α → Except ε β} (h : ∀ a, Persists (f a) (g a)) (as : List α) :
    Persists (as.mapM f) (as.mapM g) := by
  induction as with
  | nil => exact .refl _
  | cons a as ih =>
    rw [List.mapM_cons, List.mapM_cons]
    exact (h a).bind fun b => ih.bind fun bs => .refl _

theorem persists_foldlM {f g : β → α → Except ε β} (h : ∀ b a, Persists (f b a) (g b a))
    (as : List α) (b : β) : Persists (as.foldlM f b) (as.foldlM g b) := by
  induction as generalizing b with
  | nil => exact .refl _
  | cons a as ih =>
    rw [List.foldlM_cons, List.foldlM_cons]
    exact (h b a).bind fun c => ih c

end Except

theorem Pool.Extends.persists_text {p q : Pool} (h : p.Extends q) (index : UInt16) :
    Except.Persists (p.text index) (q.text index) :=
  fun _ ht => h.text_ok ht

theorem RawAnnotationUse.persists_resolve {p q : Pool} (h : p.Extends q) (a : RawAnnotationUse) :
    Except.Persists (a.resolve p) (a.resolve q) := by
  have hvalue (v : RawValue) : Except.Persists (resolveValue p v) (resolveValue q v) := by
    cases v with
    | text index => exact (h.persists_text index).map _
    | classLiteral index => exact (h.persists_text index).map _
    | other bytes => exact .refl _
  have helement (e : UInt16 × RawValue) :
      Except.Persists (resolveElement p e) (resolveElement q e) :=
    (h.persists_text e.1).bind fun name => (hvalue e.2).bind fun value => .refl _
  exact (h.persists_text a.type).bind fun type =>
    (Except.persists_mapM helement a.elements).bind fun elements => .refl _

namespace Member

variable {p q : Pool}

theorem persists_annotations (h : p.Extends q) (m : Member) :
    Except.Persists (m.annotations p) (m.annotations q) := by
  have hentries (entries : List RawAnnotationUse) :
      Except.Persists (entries.mapM (RawAnnotationUse.resolve p))
        (entries.mapM (RawAnnotationUse.resolve q)) :=
    Except.persists_mapM (RawAnnotationUse.persists_resolve h) entries
  refine Except.persists_foldlM (fun found a => ?_) m.attributes ({} : MethodAnnotations)
  cases a with
  | annotations name entries => exact (hentries entries).bind fun entries => .refl _
  | parameterAnnotations name parameters =>
    exact (Except.persists_mapM hentries parameters).bind fun parameters => .refl _
  | _ => exact .refl _

/-- The attributes of a method with new code: in place of the first one, under its name, or at the end
if there is none. -/
inductive Recoded (p : Pool) : List Attribute → List Attribute → Prop where
  | replaced {front back : List Attribute} {name : UInt16} {old new : Code}
      (h : ∀ a ∈ front, codeOf? a = none) :
      Recoded p (front ++ .code name old :: back) (front ++ .code name new :: back)
  | appended {as : List Attribute} {name : UInt16} {new : Code} (h : ∀ a ∈ as, codeOf? a = none)
      (hn : p.text name = .ok "Code") : Recoded p as (as ++ [.code name new])

theorem Recoded.of_extends {as as' : List Attribute} (hpq : p.Extends q) (h : Recoded p as as') :
    Recoded q as as' := by
  cases h with
  | replaced h => exact .replaced h
  | appended h hn => exact .appended h (hpq.text_ok hn)

theorem replaceCode_of_codeName? {as : List Attribute} {name : UInt16}
    (h : codeName? as = some name) : ∃ front old back, as = front ++ .code name old :: back ∧
      (∀ a ∈ front, codeOf? a = none) ∧ ∀ new, replaceCode new as = front ++ new :: back := by
  induction as with
  | nil => cases h
  | cons a as ih =>
    cases a with
    | code n old =>
      obtain rfl : n = name := Option.some.inj h
      exact ⟨[], old, as, rfl, fun a ha => (List.not_mem_nil ha).elim, fun _ => rfl⟩
    | _ =>
      obtain ⟨front, old, back, rfl, hfront, hnew⟩ := ih h
      exact ⟨_ :: front, old, back, rfl, List.forall_mem_cons.2 ⟨rfl, hfront⟩,
        fun new => congrArg (List.cons _) (hnew new)⟩

theorem replaceCode_of_codeName?_eq_none {as : List Attribute} (h : codeName? as = none)
    (new : Attribute) : (∀ a ∈ as, codeOf? a = none) ∧ replaceCode new as = as ++ [new] := by
  induction as with
  | nil => exact ⟨fun a ha => (List.not_mem_nil ha).elim, rfl⟩
  | cons a as ih =>
    cases a with
    | code n old => cases h
    | _ =>
      obtain ⟨hall, hnew⟩ := ih h
      exact ⟨List.forall_mem_cons.2 ⟨rfl, hall⟩, congrArg (List.cons _) hnew⟩

theorem Linked.recoded {b : Body} {m m' : Member} (h : Linked b m p m') :
    m' = { m with attributes := m'.attributes } ∧ Recoded p m.attributes m'.attributes := by
  obtain ⟨name, code, -, hname, rfl⟩ := h
  refine ⟨rfl, ?_⟩
  dsimp only
  rcases hname with hname | ⟨hnone, htext⟩
  · obtain ⟨front, old, back, has, hfront, hnew⟩ := replaceCode_of_codeName? hname
    rw [hnew, has]
    exact .replaced hfront
  · obtain ⟨hall, hnew⟩ := replaceCode_of_codeName?_eq_none hnone (.code name code)
    rw [hnew]
    exact .appended hall htext

theorem annotations_of_recoded {m m' : Member} (h : Recoded p m.attributes m'.attributes) :
    m'.annotations q = m.annotations q := by
  have hcode (found : MethodAnnotations) (name : UInt16) (code : Code) :
      readAnnotations q found (.code name code) = .ok found := rfl
  unfold annotations
  generalize m.attributes = as at h ⊢
  generalize m'.attributes = as' at h ⊢
  cases h with
  | replaced h => simp only [List.foldlM_append, List.foldlM_cons, hcode]
  | appended h hn =>
    rw [List.foldlM_append]
    simp only [List.foldlM_cons, List.foldlM_nil, hcode, Except.ok_bind]
    exact bind_pure _

end Member

namespace Stub

variable {settings : Settings} {className : String} {p q : Pool} {m m' : Member}

theorem persists_ofMember (h : p.Extends q) :
    Except.Persists (ofMember settings p className m) (ofMember settings q className m) :=
  ((h.persists_text m.name).mapError _).bind fun _ =>
    ((h.persists_text m.descriptor).mapError _).bind fun _ =>
      ((Member.persists_annotations h m).mapError _).bind fun _ => .refl _

theorem ofMember_of_recoded (hm : m' = { m with attributes := m'.attributes })
    (h : Member.Recoded p m.attributes m'.attributes) :
    ofMember settings q className m' = ofMember settings q className m := by
  have hannotations : m'.annotations q = m.annotations q := Member.annotations_of_recoded h
  have hname : m'.name = m.name := by rw [hm]
  have hdescriptor : m'.descriptor = m.descriptor := by rw [hm]
  rw [ofMember, ofMember, hannotations, hname, hdescriptor]

end Stub

end StubLinker
