import StubLinker.Proofs.Json.Layout
import StubLinker.Proofs.SortedMap
import StubLinker.Report.Basic

namespace StubLinker

namespace Operation

theorem name_injective : Function.Injective name := by
  intro o o'
  cases o <;> cases o' <;> decide

end Operation

namespace StubSummary

theorem null_append_ne_quote (t : String) (as bs : List Char) :
    "null".toList ++ as ≠ (Json.quote t).toList ++ bs := by
  rw [Json.toList_quote]
  intro h
  cases (List.cons.inj h).1

theorem framed_optionalText (s t : Option String) :
    Json.Framed (optionalText s) (optionalText t) := by
  intro as bs hs ht h
  cases s with
  | none =>
    cases t with
    | none => exact ⟨rfl, List.append_cancel_left h⟩
    | some t => exact absurd h (null_append_ne_quote t as bs)
  | some s =>
    cases t with
    | none => exact absurd h.symm (null_append_ne_quote s bs as)
    | some t => exact Json.framed_quote s t as bs hs ht h

theorem optionalText_injective {s t : Option String} (h : optionalText s = optionalText t) :
    s = t := by
  have hnull (t : String) : "null" ≠ Json.quote t := by
    intro h
    exact null_append_ne_quote t [] [] (by rw [← h])
  cases s with
  | none =>
    cases t with
    | none => rfl
    | some t => exact absurd h (hnull t)
  | some s =>
    cases t with
    | none => exact absurd h.symm (hnull s)
    | some t => rw [Json.quote_injective h]

variable {level : Nat} {os os' : List (Nat × String)}

theorem framedEach_overrides (os os' : List (Nat × String)) :
    Json.FramedEach ((os.map fun o => (toString o.1, Json.quote o.2)).map Prod.snd)
      ((os'.map fun o => (toString o.1, Json.quote o.2)).map Prod.snd) := by
  have heach : Json.FramedEach (os.map fun o => Json.quote o.2) (os'.map fun o => Json.quote o.2) :=
    Json.framedEach_map (fun o : Nat × String => Json.quote o.2)
      (fun o o' => Json.framed_quote o.2 o'.2) os os'
  simpa only [List.map_map, Function.comp_def] using heach

theorem overrides_injective
    (h : Json.prettyObject level (os.map fun o => (toString o.1, Json.quote o.2)) =
      Json.prettyObject level (os'.map fun o => (toString o.1, Json.quote o.2))) : os = os' := by
  have hfields := Json.prettyObject_injective (framedEach_overrides os os') h
  refine List.map_injective_iff.2 (fun o o' heq => ?_) hfields
  obtain ⟨hindex, htext⟩ := Prod.mk.inj heq
  exact Prod.ext (Json.toString_injective hindex) (Json.quote_injective htext)

variable {s t : StubSummary}

def fields (level : Nat) (s : StubSummary) : List (String × String) :=
  [("class", Json.quote s.className), ("method", Json.quote s.method),
    ("descriptor", Json.quote s.descriptor), ("kind", Json.quote s.operation.name),
    ("target_class", optionalText s.target), ("member_name", optionalText s.member),
    ("parameter_overrides",
      Json.prettyObject (level + 1)
        (s.parameterOverrides.map fun o => (toString o.1, Json.quote o.2))),
    ("return_override", optionalText s.returnOverride)]

theorem framedEach_fields (level : Nat) (s t : StubSummary) :
    Json.FramedEach ((fields level s).map Prod.snd) ((fields level t).map Prod.snd) :=
  ⟨Json.framed_quote _ _, Json.framed_quote _ _, Json.framed_quote _ _, Json.framed_quote _ _,
    framed_optionalText _ _, framed_optionalText _ _,
    Json.framed_prettyObject (framedEach_overrides _ _), framed_optionalText _ _, trivial⟩

theorem framed_toJson (level : Nat) (s t : StubSummary) : Json.Framed (s.toJson level) (t.toJson level) :=
  Json.framed_prettyObject (framedEach_fields level s t)

theorem toJson_injective (h : s.toJson level = t.toJson level) : s = t := by
  have hfields : fields level s = fields level t :=
    Json.prettyObject_injective (framedEach_fields level s t) h
  simp only [fields, List.cons.injEq, Prod.mk.injEq, true_and, and_true] at hfields
  obtain ⟨hclass, hmethod, hdescriptor, hkind, htarget, hmember, hoverrides, hreturn⟩ := hfields
  cases s
  cases t
  cases Json.quote_injective hclass
  cases Json.quote_injective hmethod
  cases Json.quote_injective hdescriptor
  cases Operation.name_injective (Json.quote_injective hkind)
  cases optionalText_injective htarget
  cases optionalText_injective hmember
  cases overrides_injective hoverrides
  cases optionalText_injective hreturn
  rfl

end StubSummary

namespace Report

variable {r r' : Report}

theorem framed_stubs (found found' : List StubSummary) :
    Json.Framed (Json.prettyList 2 (found.map (StubSummary.toJson 3)))
      (Json.prettyList 2 (found'.map (StubSummary.toJson 3))) :=
  Json.framed_prettyList (Json.framedEach_map _ (StubSummary.framed_toJson 3) found found')

theorem stubs_injective {found found' : List StubSummary}
    (h : Json.prettyList 2 (found.map (StubSummary.toJson 3)) =
      Json.prettyList 2 (found'.map (StubSummary.toJson 3))) : found = found' := by
  have hitems := Json.prettyList_injective
    (Json.framedEach_map _ (StubSummary.framed_toJson 3) found found') h
  exact List.map_injective_iff.2 (fun _ _ => StubSummary.toJson_injective) hitems

def written (r : Report) : List (String × String) :=
  r.classes.entries.map fun e => (e.1, Json.prettyList 2 (e.2.map (StubSummary.toJson 3)))

theorem framedEach_written (r r' : Report) :
    Json.FramedEach (r.written.map Prod.snd) (r'.written.map Prod.snd) := by
  have heach := Json.framedEach_map
    (fun e : String × List StubSummary => Json.prettyList 2 (e.2.map (StubSummary.toJson 3)))
    (fun e e' => framed_stubs e.2 e'.2) r.classes.entries r'.classes.entries
  simpa only [written, List.map_map, Function.comp_def] using heach

theorem written_injective (h : r.written = r'.written) : r.classes = r'.classes := by
  apply SortedMap.ext
  refine List.map_injective_iff.2 (fun e e' heq => ?_) h
  obtain ⟨hname, hstubs⟩ := Prod.mk.inj heq
  exact Prod.ext hname (stubs_injective hstubs)

def fields (r : Report) : List (String × String) :=
  [("stub_count", toString r.count), ("classes", Json.prettyObject 1 r.written)]

theorem framedEach_fields (r r' : Report) :
    Json.FramedEach (r.fields.map Prod.snd) (r'.fields.map Prod.snd) :=
  ⟨Json.framed_nat _ _, Json.framed_prettyObject (framedEach_written r r'), trivial⟩

theorem toJson_injective (h : r.toJson = r'.toJson) : r = r' := by
  have hfields : r.fields = r'.fields := Json.prettyObject_injective (framedEach_fields r r') h
  simp only [fields, List.cons.injEq, Prod.mk.injEq, true_and, and_true] at hfields
  obtain ⟨hcount, hclasses⟩ := hfields
  have hwritten := Json.prettyObject_injective (framedEach_written r r') hclasses
  cases r
  cases r'
  cases Json.toString_injective hcount
  cases written_injective hwritten
  rfl

end Report

end StubLinker
