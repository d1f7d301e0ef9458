import Mathlib.Data.List.Basic
import StubLinker.Proofs.Json.Object

namespace StubLinker.Json

variable {a b : String} {xs ys : List String} {es es' : List (String × String)}
  {as bs : List Char} {level : Nat}

/-- What stands behind a value: nothing, the next value, or the end of its line. -/
def Stops (cs : List Char) : Prop :=
  ∀ c ∈ cs.head?, c = ',' ∨ c = '\n'

/-- Two values in front of other text: each shows where it ends. -/
def Framed (a b : String) : Prop :=
  ∀ as bs, Stops as → Stops bs → a.toList ++ as = b.toList ++ bs → a = b ∧ as = bs

def FramedEach : List String → List String → Prop
  | x :: xs, y :: ys => Framed x y ∧ FramedEach xs ys
  | _, _ => True

theorem framed_quote (s t : String) : Framed (quote s) (quote t) := by
  intro as bs _ _ h
  obtain ⟨rfl, rfl⟩ := quote_append_injective h
  exact ⟨rfl, rfl⟩

theorem quote_injective {s t : String} (h : quote s = quote t) : s = t := by
  have hlist : (quote s).toList ++ [] = (quote t).toList ++ [] := by rw [h]
  exact (quote_append_injective hlist).1

theorem framed_field (j k : String) (h : Framed a b) :
    Framed (quote j ++ ": " ++ a) (quote k ++ ": " ++ b) := by
  intro as bs hs ht htext
  simp only [String.toList_append, List.append_assoc] at htext
  obtain ⟨rfl, hvalue⟩ := quote_append_injective htext
  obtain ⟨rfl, rfl⟩ := h as bs hs ht (List.append_cancel_left hvalue)
  exact ⟨rfl, rfl⟩

theorem field_injective {e e' : String × String}
    (h : quote e.1 ++ ": " ++ e.2 = quote e'.1 ++ ": " ++ e'.2) : e = e' := by
  have hlist := congrArg String.toList h
  simp only [String.toList_append, List.append_assoc] at hlist
  obtain ⟨hkey, hvalue⟩ := quote_append_injective hlist
  exact Prod.ext hkey (String.toList_injective (List.append_cancel_left hvalue))

theorem not_isDigit_of_stops (hs : Stops as) : ∀ c ∈ as.head?, c.isDigit = false := by
  intro c hc
  rcases hs c hc with rfl | rfl <;> decide

theorem framed_nat (m n : Nat) : Framed (toString m) (toString n) := by
  have hdigits (n : Nat) : ∀ c ∈ (toString n).toList, c.isDigit = true := by
    intro c hc
    rw [Nat.toString_eq_repr, Nat.repr, String.toList_ofList] at hc
    exact Nat.isDigit_of_mem_toDigits (by decide) (by decide) hc
  have htake (n : Nat) {cs : List Char} (hs : Stops cs) :
      ((toString n).toList ++ cs).takeWhile Char.isDigit = (toString n).toList := by
    rw [List.takeWhile_append_of_pos (hdigits n)]
    cases cs with
    | nil => simp
    | cons c cs => simp [not_isDigit_of_stops hs c rfl]
  intro as bs hs ht h
  have hsame : (toString m).toList = (toString n).toList := by
    rw [← htake m hs, h, htake n ht]
  rw [hsame] at h
  exact ⟨String.toList_injective hsame, List.append_cancel_left h⟩

theorem toString_injective {m n : Nat} (h : toString m = toString n) : m = n := by
  have hvalue := congrArg (fun s : String => Nat.ofDigitChars 10 s.toList 0) h
  simpa [Nat.toString_eq_ofList_toDigits] using hvalue

theorem framedEach_map {α : Type} (write : α → String)
    (h : ∀ x y, Framed (write x) (write y)) (xs ys : List α) :
    FramedEach (xs.map write) (ys.map write) := by
  induction xs generalizing ys with
  | nil => trivial
  | cons x xs ih =>
    cases ys with
    | nil => trivial
    | cons y ys => exact ⟨h x y, ih ys⟩

def moreItems (level : Nat) (closing : Char) (items : List String) (rest : List Char) : List Char :=
  items.flatMap (fun item => ',' :: ((indent (level + 1)).toList ++ item.toList)) ++
    ((indent level).toList ++ closing :: rest)

theorem moreItems_nil (level : Nat) (closing : Char) (rest : List Char) :
    moreItems level closing [] rest = (indent level).toList ++ closing :: rest :=
  rfl

theorem moreItems_cons (level : Nat) (closing : Char) (x : String) (xs : List String)
    (rest : List Char) : moreItems level closing (x :: xs) rest =
      ',' :: ((indent (level + 1)).toList ++ (x.toList ++ moreItems level closing xs rest)) := by
  simp [moreItems]

theorem toList_layOut (level : Nat) (opening closing : String) {c : Char}
    (hclosing : closing.toList = [c]) (x : String) (xs : List String) (rest : List Char) :
    (layOut level opening closing (x :: xs)).toList ++ rest =
      opening.toList ++ ((indent (level + 1)).toList ++ (x.toList ++ moreItems level c xs rest)) := by
  rw [layOut, if_neg (by simp), String.toList_append, String.toList_append, String.toList_append,
    String.toList_intercalate, List.map_cons, List.map_cons, intercalate_cons, hclosing]
  simp [moreItems, List.flatMap_map]

theorem indent_cons (level : Nat) :
    (indent level).toList = '\n' :: List.replicate (2 * level) ' ' :=
  String.toList_ofList

theorem stops_moreItems (level : Nat) (closing : Char) (xs : List String) (rest : List Char) :
    Stops (moreItems level closing xs rest) := by
  intro c hc
  cases xs with
  | nil =>
    rw [moreItems_nil, indent_cons] at hc
    exact .inr (Option.some.inj hc).symm
  | cons x xs =>
    rw [moreItems_cons] at hc
    exact .inl (Option.some.inj hc).symm

theorem moreItems_injective {closing : Char} (h : FramedEach xs ys)
    (htext : moreItems level closing xs as = moreItems level closing ys bs) : xs = ys ∧ as = bs := by
  -- another item follows just if a comma does
  induction xs generalizing ys with
  | nil =>
    cases ys with
    | nil => exact ⟨rfl, (List.cons.inj (List.append_cancel_left htext)).2⟩
    | cons y ys =>
      rw [moreItems_cons, moreItems_nil, indent_cons level] at htext
      cases (List.cons.inj htext).1
  | cons x xs ih =>
    cases ys with
    | nil =>
      rw [moreItems_cons, moreItems_nil, indent_cons level] at htext
      cases (List.cons.inj htext).1
    | cons y ys =>
      obtain ⟨hfirst, hrest⟩ := h
      rw [moreItems_cons, moreItems_cons] at htext
      have hitems := List.append_cancel_left (List.cons.inj htext).2
      obtain ⟨rfl, hmore⟩ := hfirst _ _ (stops_moreItems _ _ _ _) (stops_moreItems _ _ _ _) hitems
      obtain ⟨rfl, rfl⟩ := ih hrest hmore
      exact ⟨rfl, rfl⟩

section LayOut

variable {opening closing : String} {c : Char} (hclosing : closing.toList = [c]) (hc : c ≠ '\n')
  (h : FramedEach xs ys)

include hclosing hc h

theorem layOut_append_injective
    (htext : (layOut level opening closing xs).toList ++ as =
      (layOut level opening closing ys).toList ++ bs) : xs = ys ∧ as = bs := by
  have hnil (rest : List Char) : (layOut level opening closing []).toList ++ rest =
      opening.toList ++ c :: rest := by
    simp [layOut, hclosing]
  cases xs with
  | nil =>
    cases ys with
    | nil => exact ⟨rfl, List.append_cancel_left htext⟩
    | cons y ys =>
      rw [hnil, toList_layOut level opening closing hclosing, indent_cons] at htext
      exact absurd (List.cons.inj (List.append_cancel_left htext)).1 hc
  | cons x xs =>
    cases ys with
    | nil =>
      rw [hnil, toList_layOut level opening closing hclosing, indent_cons] at htext
      exact absurd (List.cons.inj (List.append_cancel_left htext)).1.symm hc
    | cons y ys =>
      obtain ⟨hfirst, hrest⟩ := h
      rw [toList_layOut level opening closing hclosing,
        toList_layOut level opening closing hclosing] at htext
      have hitems := List.append_cancel_left (List.append_cancel_left htext)
      obtain ⟨rfl, hmore⟩ := hfirst _ _ (stops_moreItems _ _ _ _) (stops_moreItems _ _ _ _) hitems
      obtain ⟨rfl, rfl⟩ := moreItems_injective hrest hmore
      exact ⟨rfl, rfl⟩

theorem framed_layOut : Framed (layOut level opening closing xs) (layOut level opening closing ys) := by
  intro as bs _ _ htext
  obtain ⟨rfl, rfl⟩ := layOut_append_injective hclosing hc h htext
  exact ⟨rfl, rfl⟩

theorem layOut_injective (htext : layOut level opening closing xs = layOut level opening closing ys) :
    xs = ys := by
  have hlist : (layOut level opening closing xs).toList ++ [] =
      (layOut level opening closing ys).toList ++ [] := by rw [htext]
  exact (layOut_append_injective hclosing hc h hlist).1

end LayOut

theorem framedEach_fields (h : FramedEach (es.map Prod.snd) (es'.map Prod.snd)) :
    FramedEach (es.map fun e => quote e.1 ++ ": " ++ e.2)
      (es'.map fun e => quote e.1 ++ ": " ++ e.2) := by
  induction es generalizing es' with
  | nil => trivial
  | cons e es ih =>
    cases es' with
    | nil => trivial
    | cons e' es' => exact ⟨framed_field e.1 e'.1 h.1, ih h.2⟩

theorem framed_prettyObject (h : FramedEach (es.map Prod.snd) (es'.map Prod.snd)) :
    Framed (prettyObject level es) (prettyObject level es') :=
  framed_layOut rfl (by decide) (framedEach_fields h)

theorem prettyObject_injective (h : FramedEach (es.map Prod.snd) (es'.map Prod.snd))
    (htext : prettyObject level es = prettyObject level es') : es = es' := by
  have hfields := layOut_injective rfl (by decide) (framedEach_fields h) htext
  exact List.map_injective_iff.2 (fun _ _ => field_injective) hfields

theorem framed_prettyList (h : FramedEach xs ys) :
    Framed (prettyList level xs) (prettyList level ys) :=
  framed_layOut rfl (by decide) h

theorem prettyList_injective (h : FramedEach xs ys) (htext : prettyList level xs = prettyList level ys) :
    xs = ys :=
  layOut_injective rfl (by decide) h htext

end StubLinker.Json
