import StubLinker.Disk.Folder

namespace StubLinker

/-- What an entry is, without what lies in it. -/
inductive Kind where
  | file (contents : Bytes)
  | folder
  deriving DecidableEq, Repr

namespace Entry

def kind : Entry → Kind
  | file contents => .file contents
  | folder _ => .folder

def at? : Entry → Location → Option Entry
  | folder inside, l => inside.at? l
  | file contents, [] => some (file contents)
  | file _, _ :: _ => none

def kind? (e : Entry) (l : Location) : Option Kind :=
  (e.at? l).map kind

end Entry

namespace Folder

variable {f g : Folder} {name n : String} {e : Entry} {k l : Location} {c : Bytes}

def kind? (f : Folder) (l : Location) : Option Kind :=
  (f.at? l).map Entry.kind

def fileAt? (f : Folder) (l : Location) : Option Bytes :=
  match f.kind? l with
  | some (.file contents) => some contents
  | _ => none

@[simp] theorem at?_nil (f : Folder) : f.at? [] = some (.folder f) := by
  cases f <;> rfl

theorem at?_cons (f : Folder) (name : String) (l : Location) :
    f.at? (name :: l) = (f.find? name).bind (Entry.at? · l) := by
  rw [at?.eq_def]
  dsimp only
  cases f.find? name with
  | none => rfl
  | some e =>
    cases e with
    | folder inside => rfl
    | file contents => cases l <;> rfl

theorem at?_append (f : Folder) (k l : Location) : f.at? (k ++ l) = (f.at? k).bind (Entry.at? · l) := by
  induction k generalizing f with
  | nil => simp [Entry.at?]
  | cons name k ih =>
    rw [List.cons_append, at?_cons, at?_cons]
    cases f.find? name with
    | none => rfl
    | some e =>
      cases e with
      | folder inside => exact ih inside
      | file contents => cases k <;> cases l <;> rfl

@[simp] theorem kind?_nil (f : Folder) : f.kind? [] = some .folder := by
  rw [kind?, at?_nil]
  rfl

theorem kind?_cons (f : Folder) (name : String) (l : Location) :
    f.kind? (name :: l) = (f.find? name).bind (Entry.kind? · l) := by
  rw [kind?, at?_cons]
  cases f.find? name <;> rfl

theorem kind?_append (h : f.at? k = some e) (l : Location) : f.kind? (k ++ l) = e.kind? l := by
  rw [kind?, at?_append, h]
  rfl

theorem kind?_append_of_folder (h : f.at? k = some (.folder g)) (l : Location) :
    f.kind? (k ++ l) = g.kind? l :=
  kind?_append h l

theorem kind?_of_append (h : (f.kind? (k ++ l)).isSome = true) (hl : l ≠ []) :
    f.kind? k = some .folder := by
  rw [kind?, at?_append] at h
  rw [kind?]
  cases hk : f.at? k with
  | none =>
    rw [hk] at h
    cases h
  | some e =>
    rw [hk] at h
    cases e with
    | folder inside => rfl
    | file contents =>
      cases l with
      | nil => exact absurd rfl hl
      | cons name l => cases h

theorem isSome_kind?_of_append (h : (f.kind? (k ++ l)).isSome = true) :
    (f.kind? k).isSome = true := by
  cases l with
  | nil => rwa [List.append_nil] at h
  | cons n l => rw [kind?_of_append h (List.cons_ne_nil n l)]; rfl

theorem fileAt?_eq_some : f.fileAt? l = some c ↔ f.kind? l = some (.file c) := by
  unfold fileAt?
  split
  · rename_i contents h
    rw [h]
    simp
  · rename_i h
    constructor
    · intro hc
      cases hc
    · intro hc
      exact absurd hc (h c)

theorem fileAt?_of_kind? (h : f.kind? k = g.kind? l) : f.fileAt? k = g.fileAt? l := by
  rw [fileAt?, fileAt?, h]

theorem kind?_eq_of_fileAt? (hfile : f.fileAt? k = g.fileAt? l)
    (hfolder : f.kind? k = some .folder ↔ g.kind? l = some .folder) : f.kind? k = g.kind? l := by
  apply Option.ext
  rintro (c | _)
  · rw [← fileAt?_eq_some, ← fileAt?_eq_some, hfile]
  · exact hfolder

theorem kind?_above (h : f.fileAt? l = some c) (hk : k <+: l) (hne : k ≠ l) :
    f.kind? k = some .folder := by
  obtain ⟨rest, rfl⟩ := hk
  rw [fileAt?_eq_some] at h
  exact kind?_of_append (by rw [h]; rfl) fun hnil => hne (by rw [hnil, List.append_nil])

theorem not_prefix_of_fileAt? {c' : Bytes} (h : f.fileAt? k = some c) (h' : f.fileAt? l = some c')
    (hne : k ≠ l) : ¬k <+: l := by
  intro hpre
  rw [fileAt?, kind?_above h' hpre hne] at h
  cases h

theorem kind?_put (h : f.kind? l.dropLast = some .folder) (hl : l ≠ []) (k : Location) :
    (f.put e l).kind? k = if l <+: k then e.kind? (k.drop l.length) else f.kind? k := by
  induction l generalizing f k with
  | nil => exact absurd rfl hl
  | cons name l ih =>
    cases k with
    | nil => simp
    | cons n k =>
      cases l with
      | nil =>
        rw [put, kind?_cons, find?_place]
        by_cases hn : name = n
        · simp [hn]
        · simp [hn, kind?_cons]
      | cons name' l =>
        rw [List.dropLast_cons_cons, kind?_cons] at h
        cases hf : f.find? name with
        | none =>
          rw [hf] at h
          cases h
        | some e' =>
          rw [hf] at h
          cases e' with
          | file contents => cases hd : (name' :: l).dropLast <;> rw [hd] at h <;> cases h
          | folder inside =>
            rw [put.eq_def]
            simp only [hf]
            rw [kind?_cons, find?_place]
            by_cases hn : name = n
            · subst hn
              have hi := ih (f := inside) h (by simp) k
              simp only [↓reduceIte, Option.bind_some, List.cons_prefix_cons, true_and,
                List.length_cons, List.drop_succ_cons]
              rw [kind?_cons, hf]
              exact hi
            · simp [hn, kind?_cons]

def names : Folder → List String
  | empty => []
  | file name _ rest => name :: rest.names
  | folder name _ rest => name :: rest.names

def IsPlain (name : String) : Prop :=
  name ≠ "" ∧ name ≠ "." ∧ name ≠ ".." ∧ '/' ∉ name.toList

instance (name : String) : Decidable (IsPlain name) :=
  inferInstanceAs (Decidable (name ≠ "" ∧ name ≠ "." ∧ name ≠ ".." ∧ '/' ∉ name.toList))

/-- Names are plain and in strict order, in every folder. -/
def WellFormed : Folder → Prop
  | empty => True
  | file name _ rest => IsPlain name ∧ (∀ n ∈ rest.names, name < n) ∧ rest.WellFormed
  | folder name inside rest =>
    IsPlain name ∧ (∀ n ∈ rest.names, name < n) ∧ inside.WellFormed ∧ rest.WellFormed

/-- Names are plain and none comes twice, in every folder. The entries of a folder may be listed in any
order. -/
def Distinct : Folder → Prop
  | empty => True
  | file name _ rest => IsPlain name ∧ (∀ n ∈ rest.names, name ≠ n) ∧ rest.Distinct
  | folder name inside rest =>
    IsPlain name ∧ (∀ n ∈ rest.names, name ≠ n) ∧ inside.Distinct ∧ rest.Distinct

theorem WellFormed.distinct {f : Folder} (hf : f.WellFormed) : f.Distinct := by
  have hne {name : String} {names : List String} (hlt : ∀ n ∈ names, name < n) :
      ∀ n ∈ names, name ≠ n := by
    rintro n hn rfl
    exact String.lt_irrefl name (hlt name hn)
  induction f with
  | empty => trivial
  | file name contents rest ih => exact ⟨hf.1, hne hf.2.1, ih hf.2.2⟩
  | folder name inside rest ihi ih => exact ⟨hf.1, hne hf.2.1, ihi hf.2.2.1, ih hf.2.2.2⟩

@[elab_as_elim]
theorem induction_cons {motive : Folder → Prop} (f : Folder) (empty : motive empty)
    (cons : ∀ name e rest, motive rest → motive (cons name e rest)) : motive f := by
  induction f with
  | empty => exact empty
  | file name contents rest ih => exact cons name (.file contents) rest ih
  | folder name inside rest _ ih => exact cons name (.folder inside) rest ih

theorem names_cons (name : String) (e : Entry) (f : Folder) :
    (cons name e f).names = name :: f.names := by
  cases e <;> rfl

theorem find?_isSome : (f.find? name).isSome = true ↔ name ∈ f.names := by
  induction f using induction_cons with
  | empty => simp [find?, names]
  | cons n e rest ih =>
    rw [find?_cons, names_cons, List.mem_cons]
    by_cases hn : n = name
    · simp [hn]
    · simp [hn, ih, Ne.symm hn]

theorem find?_eq_none : f.find? name = none ↔ name ∉ f.names := by
  rw [← find?_isSome]
  simp

end Folder

/-- The folders in an entry are in order. -/
def Entry.WellFormed : Entry → Prop
  | .file _ => True
  | .folder inside => inside.WellFormed

namespace Folder

variable {f g : Folder} {name n : String} {e : Entry} {k l : Location} {c : Bytes}

theorem wellFormed_cons_iff : (cons name e f).WellFormed ↔
    IsPlain name ∧ (∀ n ∈ f.names, name < n) ∧ e.WellFormed ∧ f.WellFormed := by
  cases e with
  | file contents => simp [cons, WellFormed, Entry.WellFormed]
  | folder inside => rfl

theorem wellFormed_cons (hn : IsPlain name) (hlt : ∀ n ∈ f.names, name < n) (he : e.WellFormed)
    (hf : f.WellFormed) : (cons name e f).WellFormed :=
  wellFormed_cons_iff.2 ⟨hn, hlt, he, hf⟩

theorem place_cons (name n : String) (e e' : Entry) (f : Folder) :
    (cons n e' f).place name e =
      if name < n then cons name e (cons n e' f)
      else if name = n then cons name e f
      else cons n e' (f.place name e) := by
  cases e' <;> rfl

theorem erase_cons (name n : String) (e : Entry) (f : Folder) :
    (cons n e f).erase name = if n = name then f else cons n e (f.erase name) := by
  cases e <;> rfl

theorem mem_names_place (h : n ∈ (f.place name e).names) : n = name ∨ n ∈ f.names := by
  rw [← find?_isSome, find?_place] at h
  split at h
  · rename_i hn
    exact .inl hn.symm
  · exact .inr (find?_isSome.1 h)

theorem WellFormed.find? (hf : f.WellFormed) (h : f.find? name = some e) : e.WellFormed := by
  induction f using induction_cons with
  | empty => cases h
  | cons n e' rest ih =>
    obtain ⟨-, -, he', hrest⟩ := wellFormed_cons_iff.1 hf
    rw [find?_cons] at h
    split at h
    · cases h
      exact he'
    · exact ih hrest h

theorem Distinct.find? (hf : f.Distinct) {inside : Folder}
    (h : f.find? name = some (.folder inside)) : inside.Distinct := by
  induction f with
  | empty => cases h
  | file n contents rest ih =>
    rw [Folder.find?] at h
    split at h
    · cases h
    · exact ih hf.2.2 h
  | folder n inside' rest _ ih =>
    rw [Folder.find?] at h
    split at h
    · cases h
      exact hf.2.2.1
    · exact ih hf.2.2.2 h

theorem WellFormed.at? (hf : f.WellFormed) (h : f.at? l = some e) : e.WellFormed := by
  induction l generalizing f with
  | nil =>
    rw [at?_nil] at h
    cases h
    exact hf
  | cons name l ih =>
    rw [at?_cons] at h
    cases hn : f.find? name with
    | none =>
      rw [hn] at h
      cases h
    | some e' =>
      rw [hn] at h
      cases e' with
      | file contents =>
        cases l with
        | nil =>
          cases h
          trivial
        | cons n l => cases h
      | folder inside => exact ih (hf.find? hn) h

theorem Distinct.isPlain (hf : f.Distinct) (h : name ∈ f.names) : IsPlain name := by
  induction f with
  | empty => cases h
  | file n contents rest ih =>
    rcases List.mem_cons.1 h with rfl | h
    · exact hf.1
    · exact ih hf.2.2 h
  | folder n inside rest _ ih =>
    rcases List.mem_cons.1 h with rfl | h
    · exact hf.1
    · exact ih hf.2.2.2 h

theorem Distinct.isPlain_of_kind? (hf : f.Distinct) (h : (f.kind? l).isSome = true) :
    ∀ n ∈ l, IsPlain n := by
  induction l generalizing f with
  | nil => simp
  | cons name l ih =>
    rw [kind?_cons] at h
    cases hn : f.find? name with
    | none =>
      rw [hn] at h
      cases h
    | some e =>
      rw [hn] at h
      refine List.forall_mem_cons.2 ⟨hf.isPlain (find?_isSome.1 (by rw [hn]; rfl)), ?_⟩
      cases e with
      | file contents =>
        cases l with
        | nil => simp
        | cons n l => cases h
      | folder inside => exact ih (hf.find? hn) h

theorem WellFormed.isPlain_of_kind? (hf : f.WellFormed) (h : (f.kind? l).isSome = true) :
    ∀ n ∈ l, IsPlain n :=
  hf.distinct.isPlain_of_kind? h

theorem wellFormed_place (hf : f.WellFormed) (hn : IsPlain name) (he : e.WellFormed) :
    (f.place name e).WellFormed := by
  induction f using induction_cons with
  | empty => exact wellFormed_cons hn (by simp [names]) he trivial
  | cons m e' rest ih =>
    obtain ⟨hm, hlt, he', hrest⟩ := wellFormed_cons_iff.1 hf
    rw [place_cons]
    split
    · rename_i hbefore
      refine wellFormed_cons hn (fun n h => ?_) he hf
      rw [names_cons] at h
      rcases List.mem_cons.1 h with rfl | h
      · exact hbefore
      · exact String.lt_trans hbefore (hlt n h)
    split
    · rename_i heq
      subst heq
      exact wellFormed_cons hn hlt he hrest
    · rename_i hbefore hne
      refine wellFormed_cons hm (fun n h => ?_) he' (ih hrest)
      rcases mem_names_place h with rfl | h
      · exact Std.lt_of_le_of_ne (String.not_lt.1 hbefore) fun h => hne h.symm
      · exact hlt n h

theorem names_erase_subset (h : n ∈ (f.erase name).names) : n ∈ f.names := by
  induction f using induction_cons with
  | empty => cases h
  | cons m e rest ih =>
    rw [names_cons]
    rw [erase_cons] at h
    split at h
    · exact List.mem_cons_of_mem _ h
    · rw [names_cons] at h
      rcases List.mem_cons.1 h with rfl | h
      · exact List.mem_cons_self
      · exact List.mem_cons_of_mem _ (ih h)

theorem wellFormed_erase (hf : f.WellFormed) (name : String) : (f.erase name).WellFormed := by
  induction f using induction_cons with
  | empty => trivial
  | cons m e rest ih =>
    obtain ⟨hm, hlt, he, hrest⟩ := wellFormed_cons_iff.1 hf
    rw [erase_cons]
    split
    · exact hrest
    · exact wellFormed_cons hm (fun n h => hlt n (names_erase_subset h)) he (ih hrest)

theorem find?_erase (hf : f.WellFormed) (name n : String) :
    (f.erase name).find? n = if name = n then none else f.find? n := by
  induction f using induction_cons with
  | empty => simp [erase, find?]
  | cons m e rest ih =>
    obtain ⟨-, hlt, -, hrest⟩ := wellFormed_cons_iff.1 hf
    -- names are in strict order, so no other entry of this name comes after the one taken out
    have hm : rest.find? m = none := find?_eq_none.2 fun h => String.lt_irrefl m (hlt m h)
    rw [erase_cons, find?_cons]
    by_cases hmn : m = name
    · subst hmn
      by_cases hn : m = n
      · subst hn
        simp [hm]
      · simp [hn]
    · rw [if_neg hmn, find?_cons, ih hrest]
      by_cases hn : name = n
      · subst hn
        simp [hmn]
      · simp [hn]

theorem wellFormed_put (hf : f.WellFormed) (he : e.WellFormed) (hl : ∀ n ∈ l, IsPlain n) :
    (f.put e l).WellFormed := by
  induction l generalizing f with
  | nil =>
    cases e with
    | file contents => exact hf
    | folder inside => exact he
  | cons name l ih =>
    obtain ⟨hn, hl⟩ := List.forall_mem_cons.1 hl
    cases l with
    | nil => exact wellFormed_place hf hn he
    | cons name' l =>
      rw [put.eq_def]
      dsimp only
      split
      · rename_i inside h
        exact wellFormed_place hf hn (ih (hf.find? h) hl)
      · exact hf

theorem wellFormed_remove (hf : f.WellFormed) (hl : ∀ n ∈ l, IsPlain n) :
    (f.remove l).WellFormed := by
  induction l generalizing f with
  | nil => exact hf
  | cons name l ih =>
    obtain ⟨hn, hl⟩ := List.forall_mem_cons.1 hl
    cases l with
    | nil => exact wellFormed_erase hf name
    | cons name' l =>
      rw [remove.eq_def]
      dsimp only
      split
      · rename_i inside h
        exact wellFormed_place hf hn (ih (hf.find? h) hl)
      · exact hf

theorem kind?_below_eq_none {name' : String} (hno : ∀ inside, f.find? name ≠ some (.folder inside))
    (h : name :: name' :: l <+: k) : f.kind? k = none := by
  obtain ⟨m, rfl⟩ := h
  rw [List.cons_append, List.cons_append, kind?_cons]
  cases hfind : f.find? name with
  | none => rfl
  | some e =>
    cases e with
    | file contents => rfl
    | folder inside => exact absurd hfind (hno inside)

/-- An entry that is taken out is not seen any more, nor what was below it. -/
theorem kind?_remove (hf : f.WellFormed) (hl : l ≠ []) (k : Location) :
    (f.remove l).kind? k = if l <+: k then none else f.kind? k := by
  -- along the location, into the folder of its first name
  induction l generalizing f k with
  | nil => exact absurd rfl hl
  | cons name l ih =>
    cases l with
    | nil =>
      cases k with
      | nil => simp
      | cons n k =>
        rw [remove, kind?_cons, find?_erase hf]
        by_cases hn : name = n
        · simp [hn]
        · simp [hn, kind?_cons]
    | cons name' l =>
      rw [remove.eq_def]
      dsimp only
      split
      · rename_i inside hfind
        cases k with
        | nil => simp
        | cons n k =>
          rw [kind?_cons, find?_place]
          by_cases hn : name = n
          · subst hn
            have hi := ih (hf.find? hfind) (by simp) k
            simp only [↓reduceIte, Option.bind_some, List.cons_prefix_cons, true_and]
            rw [kind?_cons, hfind]
            exact hi
          · simp [hn, kind?_cons]
      · rename_i hno
        split
        · rename_i hpre
          exact kind?_below_eq_none hno hpre
        · rfl

theorem kind?_eq_none (h : n ∉ f.names) (l : Location) : f.kind? (n :: l) = none := by
  rw [kind?_cons, find?_eq_none.2 h]
  rfl

theorem kind?_eq_none_of_lt (hf : ∀ n ∈ f.names, name < n) (l : Location) :
    f.kind? (name :: l) = none :=
  kind?_eq_none (fun h => String.lt_irrefl name (hf name h)) l

theorem mem_names_of_kind? (h : (f.kind? (n :: l)).isSome = true) : n ∈ f.names := by
  rw [kind?_cons] at h
  cases hn : f.find? n with
  | none =>
    rw [hn] at h
    cases h
  | some e => exact find?_isSome.1 (by rw [hn]; rfl)

theorem kind?_single_isSome (h : n ∈ f.names) : (f.kind? [n]).isSome = true := by
  rw [kind?_cons]
  obtain ⟨e, he⟩ := Option.isSome_iff_exists.1 (find?_isSome.2 h)
  rw [he]
  cases e <;> simp [Entry.kind?, Entry.at?]

theorem kind?_cons_entry (name : String) (e : Entry) (f : Folder) (n : String) (l : Location) :
    (cons name e f).kind? (n :: l) = if name = n then e.kind? l else f.kind? (n :: l) := by
  rw [kind?_cons, find?_cons]
  by_cases hn : name = n
  · rw [if_pos hn, if_pos hn]
    rfl
  · rw [if_neg hn, if_neg hn, kind?_cons]

theorem WellFormed.of_cons (h : (cons name e f).WellFormed) :
    (∀ n ∈ f.names, name < n) ∧ f.WellFormed :=
  ⟨(wellFormed_cons_iff.1 h).2.1, (wellFormed_cons_iff.1 h).2.2.2⟩

theorem exists_cons_of_mem_names (h : n ∈ f.names) : ∃ m e rest, f = cons m e rest := by
  cases f with
  | empty => cases h
  | file m contents rest => exact ⟨m, .file contents, rest, rfl⟩
  | folder m inside rest => exact ⟨m, .folder inside, rest, rfl⟩

theorem mem_names_of_forall_kind? (h : ∀ l, f.kind? l = g.kind? l) (hn : n ∈ f.names) :
    n ∈ g.names := by
  apply mem_names_of_kind? (l := [])
  rw [← h]
  exact kind?_single_isSome hn

theorem eq_cons_of_kind? (hf : (cons name e f).WellFormed) (hg : g.WellFormed)
    (h : ∀ l, (cons name e f).kind? l = g.kind? l) :
    ∃ e' f', g = cons name e' f' ∧ (∀ l, e.kind? l = e'.kind? l) ∧ ∀ l, f.kind? l = f'.kind? l := by
  have hgname : name ∈ g.names := mem_names_of_forall_kind? h (by simp [names_cons])
  obtain ⟨m, e', f', rfl⟩ := exists_cons_of_mem_names hgname
  have hm : m ∈ (cons name e f).names :=
    mem_names_of_forall_kind? (fun l => (h l).symm) (by simp [names_cons])
  obtain ⟨hflt, -⟩ := hf.of_cons
  obtain ⟨hglt, -⟩ := hg.of_cons
  -- each name is the least of its tree and occurs in the other one
  obtain rfl : m = name := by
    rw [names_cons] at hm hgname
    rcases List.mem_cons.1 hm with rfl | hm
    · rfl
    rcases List.mem_cons.1 hgname with rfl | hgname
    · rfl
    · exact absurd (hflt m hm) (String.lt_asymm (hglt name hgname))
  refine ⟨e', f', rfl, fun l => ?_, fun l => ?_⟩
  · have hl := h (m :: l)
    rw [kind?_cons_entry, kind?_cons_entry, if_pos rfl, if_pos rfl] at hl
    exact hl
  · cases l with
    | nil => simp
    | cons n l =>
      by_cases hn : m = n
      · subst hn
        rw [kind?_eq_none_of_lt hflt, kind?_eq_none_of_lt hglt]
      · have hl := h (n :: l)
        rw [kind?_cons_entry, kind?_cons_entry, if_neg hn, if_neg hn] at hl
        exact hl

theorem eq_of_kind? (hf : f.WellFormed) (hg : g.WellFormed) (h : ∀ l, f.kind? l = g.kind? l) :
    f = g := by
  induction f generalizing g with
  | empty =>
    cases g with
    | empty => rfl
    | file n contents rest =>
      cases mem_names_of_forall_kind? (n := n) (fun l => (h l).symm) List.mem_cons_self
    | folder n inside rest =>
      cases mem_names_of_forall_kind? (n := n) (fun l => (h l).symm) List.mem_cons_self
  | file name contents rest ih =>
    obtain ⟨e', rest', rfl, he, hrest⟩ := eq_cons_of_kind? (e := .file contents) hf hg h
    have hk := he []
    cases e' with
    | file contents' =>
      cases hk
      exact congrArg (file name contents) (ih hf.2.2 hg.2.2 hrest)
    | folder inside => simp [Entry.kind?, Entry.at?, Entry.kind] at hk
  | folder name inside rest ihi ih =>
    obtain ⟨e', rest', rfl, he, hrest⟩ := eq_cons_of_kind? (e := .folder inside) hf hg h
    have hk := he []
    cases e' with
    | file contents' => simp [Entry.kind?, Entry.at?, Entry.kind] at hk
    | folder inside' =>
      obtain rfl := ihi hf.2.2.1 hg.2.2.1 he
      exact congrArg (folder name inside) (ih hf.2.2.2 hg.2.2.2 hrest)

theorem at?_eq_of_kind? (hf : f.WellFormed) (hg : g.WellFormed)
    (h : ∀ k, f.kind? (l ++ k) = g.kind? k) : f.at? l = some (.folder g) := by
  have hl := h []
  rw [List.append_nil, kind?_nil, kind?, Option.map_eq_some_iff] at hl
  obtain ⟨e, he, hk⟩ := hl
  cases e with
  | file contents => cases hk
  | folder g' =>
    have hg' : g'.WellFormed := hf.at? he
    rw [he, eq_of_kind? hg' hg fun k => (kind?_append_of_folder he k).symm.trans (h k)]

@[simp] theorem fileAt?_nil (f : Folder) : f.fileAt? [] = none := by
  rw [fileAt?, kind?_nil]

theorem mem_files (hf : f.Distinct) : (l, c) ∈ f.files ↔ f.fileAt? l = some c := by
  induction f generalizing l with
  | empty =>
    cases l with
    | nil => simp [files]
    | cons n l => simp [files, fileAt?, kind?_cons, find?]
  | file name contents rest ih =>
    obtain ⟨-, hne, hrest⟩ := hf
    rw [files, List.mem_cons, ih hrest]
    cases l with
    | nil => simp
    | cons n l =>
      rw [fileAt?_eq_some, fileAt?_eq_some]
      have hcons := kind?_cons_entry name (.file contents) rest n l
      rw [cons] at hcons
      rw [hcons]
      by_cases hn : name = n
      · subst hn
        rw [kind?_eq_none fun h => hne name h rfl, if_pos rfl]
        cases l <;> simp [Entry.kind?, Entry.at?, Entry.kind, eq_comm]
      · rw [if_neg hn]
        simp [Ne.symm hn]
  | folder name inside rest ihi ih =>
    obtain ⟨-, hne, hinside, hrest⟩ := hf
    rw [files, List.mem_append, ih hrest]
    cases l with
    | nil => simp
    | cons n l =>
      have hcons := kind?_cons_entry name (.folder inside) rest n l
      rw [cons] at hcons
      -- what is found below this name lies in the inside
      have hmap : (n :: l, c) ∈ inside.files.map (fun f => (name :: f.1, f.2)) ↔
          name = n ∧ inside.fileAt? l = some c := by
        rw [← ihi hinside]
        simp only [List.mem_map, Prod.mk.injEq, List.cons.injEq, Prod.exists]
        constructor
        · rintro ⟨l', c', h, ⟨rfl, rfl⟩, rfl⟩
          exact ⟨rfl, h⟩
        · rintro ⟨rfl, h⟩
          exact ⟨l, c, h, ⟨rfl, rfl⟩, rfl⟩
      rw [hmap, fileAt?_eq_some, fileAt?_eq_some, fileAt?_eq_some, hcons]
      by_cases hn : name = n
      · subst hn
        rw [kind?_eq_none fun h => hne name h rfl, if_pos rfl]
        simp [Entry.kind?, Entry.at?, kind?]
      · rw [if_neg hn]
        simp [hn]

end Folder

end StubLinker
