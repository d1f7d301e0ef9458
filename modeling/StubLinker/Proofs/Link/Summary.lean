import StubLinker.Link
import StubLinker.Proofs.JavaType.Display
import StubLinker.Proofs.Stub.Names

namespace StubLinker

section Maps

variable {α β : Type} {f : α → β} {s : Set α}

theorem eq_of_map_eq {as bs : List α} (hf : Set.InjOn f s) (has : ∀ a ∈ as, a ∈ s)
    (hbs : ∀ b ∈ bs, b ∈ s) (h : as.map f = bs.map f) : as = bs := by
  induction as generalizing bs with
  | nil => exact (List.map_eq_nil_iff.1 h.symm).symm
  | cons a as ih =>
    obtain ⟨b, bs, rfl, hb, hmap⟩ := List.map_eq_cons_iff.1 h.symm
    obtain ⟨ha, has⟩ := List.forall_mem_cons.1 has
    obtain ⟨hb', hbs⟩ := List.forall_mem_cons.1 hbs
    rw [hf ha hb' hb.symm, ih has hbs hmap.symm]

theorem eq_of_option_map_eq {o o' : Option α} (hf : Set.InjOn f s) (ho : ∀ a, o = some a → a ∈ s)
    (ho' : ∀ a, o' = some a → a ∈ s) (h : o.map f = o'.map f) : o = o' := by
  cases o with
  | none => exact (Option.map_eq_none_iff.1 h.symm).symm
  | some a =>
    obtain ⟨b, rfl, hb⟩ := Option.map_eq_some_iff.1 h.symm
    rw [hf (ho a rfl) (ho' b rfl) hb.symm]

end Maps

namespace Directive

variable {settings settings' : Settings} {annotations annotations' : MethodAnnotations}
  {d d' : Directive} {t : JavaType}

/-- Source text can tell the types of the directive apart: class names have only `/` between their
segments, and none is a keyword. -/
def Unambiguous (d : Directive) : Prop :=
  ∀ t ∈ d.types, t.Slashed ∧ t.Unreserved

theorem mem_types : t ∈ d.types ↔
    d.target = some t ∨ t ∈ d.parameterOverrides.map Prod.snd ∨ d.returnOverride = some t := by
  rw [types, List.append_assoc, List.mem_append, List.mem_append, Option.mem_toList,
    Option.mem_toList]

theorem denotable_of_collect (h : collect settings annotations = .ok (some d)) (ht : t ∈ d.types) :
    t.Denotable := by
  have hread : NormalOrSpelled settings annotations "" t := by
    rcases mem_types.1 ht with htarget | hoverride
    · exact normalOrSpelled_target h htarget
    · exact normalOrSpelled_override h hoverride
  exact hread.1

theorem subset_of_unambiguous (h : collect settings annotations = .ok (some d))
    (hd : d.Unambiguous) :
    ∀ t ∈ d.types, t ∈ {t : JavaType | t.Denotable ∧ t.Slashed ∧ t.Unreserved} := by
  intro t ht
  exact ⟨denotable_of_collect h ht, hd t ht⟩

theorem injOn_override {s : Set JavaType} (hs : Set.InjOn JavaType.display s) :
    Set.InjOn (fun o : Nat × JavaType => (o.1, o.2.display)) {o | o.2 ∈ s} := by
  intro o ho o' ho' h
  obtain ⟨hindex, hdisplay⟩ := Prod.mk.inj h
  exact Prod.ext hindex (hs ho ho' hdisplay)

theorem eq_of_summary {s : Set JavaType} {className name descriptor : String}
    (hs : Set.InjOn JavaType.display s) (hd : ∀ t ∈ d.types, t ∈ s) (hd' : ∀ t ∈ d'.types, t ∈ s)
    (h : Stub.summary ⟨className, name, descriptor, d⟩ =
      Stub.summary ⟨className, name, descriptor, d'⟩) : d = d' := by
  obtain ⟨-, -, -, hoperation, htarget, hmember, hparameters, hreturn⟩ := StubSummary.mk.inj h
  have htargets := eq_of_option_map_eq hs (fun t ht => hd t (mem_types.2 (.inl ht)))
    (fun t ht => hd' t (mem_types.2 (.inl ht))) htarget
  have hreturns := eq_of_option_map_eq hs (fun t ht => hd t (mem_types.2 (.inr (.inr ht))))
    (fun t ht => hd' t (mem_types.2 (.inr (.inr ht)))) hreturn
  have hoverrides := eq_of_map_eq (injOn_override hs)
    (fun o ho => hd o.2 (mem_types.2 (.inr (.inl (List.mem_map_of_mem ho)))))
    (fun o ho => hd' o.2 (mem_types.2 (.inr (.inl (List.mem_map_of_mem ho))))) hparameters
  cases d
  cases d'
  simp only at hoperation hmember htargets hreturns hoverrides
  rw [hoperation, hmember, htargets, hreturns, hoverrides]

/-- Two directives that methods' annotations give have the same summary, for one method, exactly if
they are the same. Their types are among those of which no two are shown alike. -/
theorem summary_tells_directive (h : collect settings annotations = .ok (some d))
    (h' : collect settings' annotations' = .ok (some d')) (hd : d.Unambiguous)
    (hd' : d'.Unambiguous) (className name descriptor : String) :
    (Stub.summary ⟨className, name, descriptor, d⟩ =
        Stub.summary ⟨className, name, descriptor, d'⟩ ↔ d = d') ∧
      (∀ t ∈ d.types ++ d'.types, t.Denotable ∧ t.Slashed ∧ t.Unreserved) ∧
      Set.InjOn JavaType.display {t | t.Denotable ∧ t.Slashed ∧ t.Unreserved} := by
  have hsubset := subset_of_unambiguous h hd
  have hsubset' := subset_of_unambiguous h' hd'
  refine ⟨⟨eq_of_summary JavaType.injOn_display hsubset hsubset', ?_⟩, ?_, JavaType.injOn_display⟩
  · rintro rfl
    rfl
  · intro t ht
    rcases List.mem_append.1 ht with ht | ht
    · exact hsubset t ht
    · exact hsubset' t ht

/-- A directive with an array as its target and an override. -/
def onArray : Directive :=
  ⟨.invokeStaticMethod, some (.array (.object "p/A")), some "m", [(1, .primitive .int)], none⟩

/-- The same with the class in the array as its target. -/
def onElement : Directive :=
  { onArray with target := some (.object "p/A") }

/-- The annotations of a method with a target and an override of its second parameter. -/
def targeting (target : String) : MethodAnnotations :=
  ⟨[⟨"Lp/InvokeStatic;", [("className", .text target), ("memberName", .text "m")]⟩],
    [[], [⟨"Lp/TypeName;", [("value", .text "int")]⟩]]⟩

/-- A target that is an array is not shown like the class in the array. -/
theorem summary_tells_directive_onArray :
    collect ⟨"p", "E"⟩ (targeting "[Lp.A;") = .ok (some onArray) ∧
    collect ⟨"p", "E"⟩ (targeting "p.A") = .ok (some onElement) ∧
    onArray.Unambiguous ∧ onElement.Unambiguous ∧
    Stub.summary ⟨"C", "f", "(JI)V", onArray⟩ ≠ Stub.summary ⟨"C", "f", "(JI)V", onElement⟩ := by
  have harray : collect ⟨"p", "E"⟩ (targeting "[Lp.A;") = .ok (some onArray) := by decide +kernel
  have helement : collect ⟨"p", "E"⟩ (targeting "p.A") = .ok (some onElement) := by decide +kernel
  have hplain : onArray.Unambiguous := by
    simp [Unambiguous, types, onArray, JavaType.Slashed, JavaType.Unreserved]
    decide
  have hplain' : onElement.Unambiguous := by
    simp [Unambiguous, types, onElement, onArray, JavaType.Slashed, JavaType.Unreserved]
    decide
  have hiff := (summary_tells_directive harray helement hplain hplain' "C" "f" "(JI)V").1
  exact ⟨harray, helement, hplain, hplain', fun h => absurd (hiff.1 h) (by decide)⟩

end Directive

end StubLinker
