import Mathlib.Data.Set.Function
import StubLinker.Proofs.JavaType.BinaryName

namespace StubLinker

theorem Primitive.keyword_injective : Function.Injective keyword := by
  intro p q
  cases p <;> cases q <;> decide

namespace JavaType

variable {t u component : JavaType} {name : String}

/-- No class in the type is named like a keyword. -/
def Unreserved : JavaType → Prop
  | object name => name ∉ keywords
  | array component => component.Unreserved
  | _ => True

theorem dot_not_mem_of_mem_keywords {word : String} (h : word ∈ keywords) : '.' ∉ word.toList := by
  have hall : ∀ word ∈ keywords, '.' ∉ word.toList := by decide
  exact hall word h

theorem void_mem_keywords : "void" ∈ keywords :=
  List.mem_cons_self

theorem keyword_mem_keywords (p : Primitive) : p.keyword ∈ keywords := by
  cases p <;> decide

theorem void_ne_keyword (p : Primitive) : "void" ≠ p.keyword := by
  cases p <;> decide

theorem keyword_ne_display {word : String} (hword : word ∈ keywords) (h : name ∉ keywords) :
    word ≠ (object name).display := by
  rintro rfl
  apply h
  rwa [display, ClassName.source_eq_self (dot_not_mem_of_mem_keywords hword)] at hword

theorem bracket_not_mem_source (h : ClassName.IsName name.toList) :
    '[' ∉ (ClassName.source name).toList := by
  have hvalid := ClassName.isValid_iff.2 h
  rw [ClassName.source, Text.toList_replaceIf, List.mem_map]
  rintro ⟨c, hc, hbracket⟩
  split at hbracket
  · cases hbracket
  · exact (ClassName.not_punctuation_of_isValid hvalid hc).2 hbracket

theorem bracket_mem_display (h : t.Denotable) :
    '[' ∈ t.display.toList ↔ ∃ component, t = array component := by
  cases h with
  | void => exact iff_of_false (by decide) nofun
  | primitive p => exact iff_of_false (by cases p <;> decide) nofun
  | object h => exact iff_of_false (bracket_not_mem_source h) nofun
  | array h hv =>
    refine iff_of_true ?_ ⟨_, rfl⟩
    rw [display, String.toList_append]
    exact List.mem_append_right _ (by decide)

theorem eq_array_of_display (hu : u.Denotable) (h : (array component).display = u.display) :
    ∃ other, u = array other ∧ component.display = other.display := by
  have hbracket : '[' ∈ u.display.toList := by
    rw [← h, display, String.toList_append]
    exact List.mem_append_right _ (by decide)
  obtain ⟨other, rfl⟩ := (bracket_mem_display hu).1 hbracket
  refine ⟨other, rfl, ?_⟩
  apply String.toList_injective
  have hlist := congrArg String.toList h
  rw [display, display, String.toList_append, String.toList_append] at hlist
  exact List.append_cancel_right hlist

theorem display_ne_array (ht : t.Denotable) (hne : ∀ component, t ≠ array component) :
    t.display ≠ (array component).display := by
  intro h
  obtain ⟨other, rfl, -⟩ := eq_array_of_display ht h.symm
  exact hne other rfl

theorem injOn_display : Set.InjOn display {t | t.Denotable ∧ t.Slashed ∧ t.Unreserved} := by
  rintro t ⟨ht, hslashed, hplain⟩ u ⟨hu, hslashed', hplain'⟩ h
  -- each form is told from the other three, and an array by its component
  induction t generalizing u with
  | void =>
    cases u with
    | void => rfl
    | primitive p => exact absurd h (void_ne_keyword p)
    | object name => exact absurd h (keyword_ne_display void_mem_keywords hplain')
    | array component => exact absurd h (display_ne_array ht nofun)
  | primitive p =>
    cases u with
    | void => exact absurd h.symm (void_ne_keyword p)
    | primitive q => rw [Primitive.keyword_injective h]
    | object name => exact absurd h (keyword_ne_display (keyword_mem_keywords p) hplain')
    | array component => exact absurd h (display_ne_array ht nofun)
  | object name =>
    cases u with
    | void => exact absurd h.symm (keyword_ne_display void_mem_keywords hplain)
    | primitive p => exact absurd h.symm (keyword_ne_display (keyword_mem_keywords p) hplain)
    | object other =>
      have hname := congrArg ClassName.internal h
      rw [display, display, ClassName.internal_source hslashed,
        ClassName.internal_source hslashed'] at hname
      rw [hname]
    | array component => exact absurd h (display_ne_array ht nofun)
  | array component ih =>
    obtain ⟨other, rfl, hcomponent⟩ := eq_array_of_display hu h
    cases ht with
    | array ht hv =>
      cases hu with
      | array hu hv' => rw [ih ht hslashed hplain hu hslashed' hplain' hcomponent]

/-- A class that is named like a keyword looks like the type that the keyword stands for. -/
example : (array (object "int")).display = (array (primitive .int)).display :=
  rfl

end JavaType

end StubLinker
