import StubLinker.Link
import StubLinker.Proofs.ClassFile.Lowering
import StubLinker.Proofs.Except
import StubLinker.Proofs.Stub.Plan

namespace StubLinker

namespace Pool

def holds (p : Pool) (index : UInt16) : Bool :=
  index.toNat ≤ p.size

variable {p q : Pool} {index : UInt16}

theorem Extends.text_of_holds (h : p.Extends q) (hi : p.holds index = true) :
    q.text index = p.text index :=
  h.text_eq (of_decide_eq_true hi)

end Pool

namespace RawAnnotationUse

/-- Whether the numbers of an annotation lie within a pool. -/
def isWithin (p : Pool) (a : RawAnnotationUse) : Bool :=
  p.holds a.type && a.elements.all fun e =>
    p.holds e.1 &&
      match e.2 with
      | .text index => p.holds index
      | .classLiteral index => p.holds index
      | .other _ => true

theorem resolve_of_extends {p q : Pool} {a : RawAnnotationUse} (h : p.Extends q)
    (ha : a.isWithin p = true) : a.resolve q = a.resolve p := by
  simp only [isWithin, Bool.and_eq_true, List.all_eq_true] at ha
  obtain ⟨htype, helements⟩ := ha
  have heach : ∀ e ∈ a.elements, resolveElement q e = resolveElement p e := by
    rintro ⟨name, value⟩ he
    obtain ⟨hname, hvalue⟩ := helements _ he
    have hv : resolveValue q value = resolveValue p value := by
      cases value with
      | text index => rw [resolveValue, resolveValue, h.text_of_holds hvalue]
      | classLiteral index => rw [resolveValue, resolveValue, h.text_of_holds hvalue]
      | other bytes => rfl
    rw [resolveElement, resolveElement, h.text_of_holds hname, hv]
  rw [resolve, resolve, h.text_of_holds htype, Except.mapM_congr heach]

end RawAnnotationUse

namespace Attribute

/-- Whether the numbers in annotations and declared exceptions lie within a pool. -/
def isWithin (p : Pool) : Attribute → Bool
  | annotations _ entries => entries.all (RawAnnotationUse.isWithin p)
  | parameterAnnotations _ parameters =>
    parameters.all fun entries => entries.all (RawAnnotationUse.isWithin p)
  | exceptions _ classes => classes.all p.holds
  | _ => true

/-- Whether the classes of declared exceptions have their names within a pool. -/
def namesWithin (p : Pool) : Attribute → Bool
  | exceptions _ classes => classes.all fun index =>
      match p.get? index with
      | some (.classInfo name) => p.holds name
      | _ => true
  | _ => true

end Attribute

namespace Member

/-- Whether the numbers of a method's name and descriptor and of its annotations and exceptions lie
within a pool. -/
def isWithin (p : Pool) (m : Member) : Bool :=
  p.holds m.name && p.holds m.descriptor && m.attributes.all (Attribute.isWithin p)

/-- Whether the classes of the exceptions that a method declares have their names within a pool. -/
def namesWithin (p : Pool) (m : Member) : Bool :=
  m.attributes.all (Attribute.namesWithin p)

variable {p q : Pool} {m : Member}

theorem readAnnotations_of_extends {a : Attribute} (h : p.Extends q) (ha : a.isWithin p = true)
    (found : MethodAnnotations) : readAnnotations q found a = readAnnotations p found a := by
  have hentries {entries : List RawAnnotationUse}
      (he : entries.all (RawAnnotationUse.isWithin p) = true) :
      entries.mapM (RawAnnotationUse.resolve q) = entries.mapM (RawAnnotationUse.resolve p) :=
    Except.mapM_congr fun a ha =>
      RawAnnotationUse.resolve_of_extends h (List.all_eq_true.1 he a ha)
  cases a with
  | annotations name entries => rw [readAnnotations, readAnnotations, hentries ha]
  | parameterAnnotations name parameters =>
    rw [readAnnotations, readAnnotations, Except.mapM_congr fun entries he =>
      hentries (List.all_eq_true.1 ha entries he)]
  | _ => rfl

theorem annotations_of_extends (h : p.Extends q) (hm : m.isWithin p = true) :
    m.annotations q = m.annotations p := by
  simp only [isWithin, Bool.and_eq_true, List.all_eq_true] at hm
  exact Except.foldlM_congr (fun a ha => readAnnotations_of_extends h (hm.2 a ha)) _

theorem failures_of_extends (h : p.Extends q) (hm : m.isWithin p = true)
    (hn : m.namesWithin p = true) : m.failures q = m.failures p := by
  simp only [isWithin, Bool.and_eq_true, List.all_eq_true] at hm
  refine Except.mapM_congr fun index hi => ?_
  obtain ⟨a, ha, hia⟩ := List.mem_flatMap.1 hi
  have hwithin := hm.2 a ha
  have hnames := List.all_eq_true.1 hn a ha
  cases a with
  | exceptions name classes =>
    have hindex : p.holds index = true := List.all_eq_true.1 hwithin index hia
    have hname := List.all_eq_true.1 hnames index hia
    rw [Pool.className, Pool.className, h.get?_eq (of_decide_eq_true hindex)]
    cases hc : p.get? index with
    | none => rfl
    | some c =>
      cases c with
      | classInfo text =>
        rw [hc] at hname
        exact h.text_of_holds hname
      | _ => rfl
  | _ => cases hia

end Member

namespace Stub

variable {settings : Settings} {className : String} {p q : Pool} {m : Member}

theorem ofMember_of_extends (h : p.Extends q) (hm : m.isWithin p = true) :
    ofMember settings q className m = ofMember settings p className m := by
  have hnumbers := hm
  simp only [Member.isWithin, Bool.and_eq_true] at hnumbers
  rw [ofMember, ofMember, h.text_of_holds hnumbers.1.1, h.text_of_holds hnumbers.1.2,
    Member.annotations_of_extends h hm]

theorem body_of_extends {s : Stub} (h : p.Extends q) (hm : m.isWithin p = true)
    (hn : m.namesWithin p = true) : s.body settings q m = s.body settings p m := by
  rw [body, body, Member.failures_of_extends h hm hn]

theorem body_eq_ok {s : Stub} {b : Body} :
    s.body settings p m = .ok b ↔
      ∃ descriptor failures plan, MethodDescriptor.ofText s.descriptor = .ok descriptor ∧
        m.failures p = .ok failures ∧
        Shape.plan ⟨m.access, descriptor, failures⟩ s.directive settings.linkFailure = .ok plan ∧
        plan.body = b := by
  unfold body
  cases hd : MethodDescriptor.ofText s.descriptor with
  | error e => simp [Except.mapError_error, bind, Except.bind]
  | ok descriptor =>
  cases hf : m.failures p with
  | error e => simp [Except.mapError_ok, Except.mapError_error, bind, Except.bind]
  | ok failures =>
  cases hp : Shape.plan ⟨m.access, descriptor, failures⟩ s.directive settings.linkFailure with
  | error e => simp [Except.mapError_ok, Except.mapError_error, bind, Except.bind, hp]
  | ok plan => simp [Except.mapError_ok, bind, Except.bind, pure, Except.pure, hp]

end Stub

end StubLinker
