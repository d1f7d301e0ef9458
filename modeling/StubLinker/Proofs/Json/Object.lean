import StubLinker.Json.Reader
import StubLinker.Json.Writer
import StubLinker.Proofs.Except
import StubLinker.Proofs.Json.Quoted

namespace StubLinker.Json

variable {σ : Type} {field : σ → String → List Char → Except JsonFault (σ × List Char)}
  {ws cs rest : List Char} {c : Char}

theorem skipSpace_append (hws : ∀ c ∈ ws, isSpace c = true) (cs : List Char) :
    skipSpace (ws ++ cs) = skipSpace cs :=
  List.dropWhile_append_of_pos hws

theorem skipSpace_cons (hc : isSpace c = false) (cs : List Char) : skipSpace (c :: cs) = c :: cs :=
  List.dropWhile_cons_of_neg (by simp [hc])

theorem isSpace_indent (level : Nat) : ∀ c ∈ (indent level).toList, isSpace c = true := by
  intro c hc
  rw [indent, String.toList_ofList] at hc
  rcases List.mem_cons.1 hc with rfl | hc
  · decide
  · rw [List.eq_of_mem_replicate hc]
    decide

theorem toList_quote (s : String) : (quote s).toList = '"' :: (s.toList.flatMap escape ++ ['"']) :=
  String.toList_ofList

theorem quote_append_injective {s t : String} {as bs : List Char}
    (h : (quote s).toList ++ as = (quote t).toList ++ bs) : s = t ∧ as = bs := by
  have hs := readQuoted_flatMap_escape s.toList as
  have ht := readQuoted_flatMap_escape t.toList bs
  rw [toList_quote, toList_quote, List.cons_append, List.cons_append, List.append_assoc,
    List.append_assoc, List.singleton_append, List.singleton_append] at h
  rw [(List.cons.inj h).2, ht] at hs
  obtain ⟨hlist, hrest⟩ := Prod.mk.inj (Except.ok.inj hs)
  exact ⟨String.toList_injective hlist.symm, hrest.symm⟩

theorem readText_quote (hws : ∀ c ∈ ws, isSpace c = true) (s : String) (rest : List Char) :
    readText (ws ++ ((quote s).toList ++ rest)) = .ok (s, rest) := by
  have hskip : skipSpace (ws ++ ((quote s).toList ++ rest)) =
      '"' :: (s.toList.flatMap escape ++ '"' :: rest) := by
    rw [skipSpace_append hws, toList_quote, List.cons_append, skipSpace_cons (by decide),
      List.append_assoc, List.singleton_append]
  rw [readText, hskip]
  simp [readQuoted_flatMap_escape, Except.map]

theorem readColon_colon (rest : List Char) : readColon (':' :: rest) = .ok rest := by
  rw [readColon, skipSpace_cons (by decide)]
  rfl

theorem nextKey_first (hws : ∀ c ∈ ws, isSpace c = true) (rest : List Char) :
    nextKey true (ws ++ '"' :: rest) = .ok (some rest) := by
  rw [nextKey, skipSpace_append hws, skipSpace_cons (by decide)]
  rfl

theorem nextKey_next (hws : ∀ c ∈ ws, isSpace c = true) (rest : List Char) :
    nextKey false (',' :: (ws ++ '"' :: rest)) = .ok (some rest) := by
  have hnext : skipSpace (ws ++ '"' :: rest) = '"' :: rest := by
    rw [skipSpace_append hws, skipSpace_cons (by decide)]
  rw [nextKey, skipSpace_cons (by decide)]
  simp [hnext]

theorem nextKey_close (hws : ∀ c ∈ ws, isSpace c = true) (first : Bool) (rest : List Char) :
    nextKey first (ws ++ '}' :: rest) = .ok none := by
  rw [nextKey, skipSpace_append hws, skipSpace_cons (by decide)]
  rfl

theorem close_object (hws : ∀ c ∈ ws, isSpace c = true) (rest : List Char) :
    close .object (ws ++ '}' :: rest) = .ok rest := by
  rw [close, skipSpace_append hws, skipSpace_cons (by decide)]
  rfl

/-- The fields of an object, written one after the other, take a reader from a state to another. -/
inductive Reads (field : σ → String → List Char → Except JsonFault (σ × List Char)) :
    σ → List (String × String) → σ → Prop
  | nil (st : σ) : Reads field st [] st
  | cons {st st1 st' : σ} {k v : String} {items : List (String × String)}
      (hfirst : ∀ rest, field st k (':' :: ' ' :: (v.toList ++ rest)) = .ok (st1, rest))
      (hrest : Reads field st1 items st') : Reads field st ((k, v) :: items) st'

variable {st st1 st' : σ} {k v : String} {items : List (String × String)} {fuel level : Nat}

def fieldLine (level : Nat) (item : String × String) : List Char :=
  (indent (level + 1)).toList ++ ((quote item.1).toList ++ ':' :: ' ' :: item.2.toList)

theorem readFields_step {first : Bool} (h : nextKey first cs = .ok (some rest))
    (fuel : Nat) : readFields field (fuel + 1) first st cs =
      readQuoted rest >>= fun p => field st (String.ofList p.1) p.2 >>= fun q =>
        readFields field fuel false q.1 q.2 := by
  rw [readFields, h]
  rfl

theorem readFields_line {first : Bool} (hkey : ∀ rest, nextKey first (cs ++ '"' :: rest) = .ok (some rest))
    (hfield : ∀ rest, field st k (':' :: ' ' :: (v.toList ++ rest)) = .ok (st1, rest))
    (fuel : Nat) (rest : List Char) :
    readFields field (fuel + 1) first st
      (cs ++ ((quote k).toList ++ ':' :: ' ' :: (v.toList ++ rest))) =
        readFields field fuel false st1 rest := by
  rw [toList_quote, List.cons_append, readFields_step (hkey _), List.append_assoc,
    List.singleton_append, readQuoted_flatMap_escape, Except.ok_bind]
  dsimp only
  rw [String.ofList_toList, hfield, Except.ok_bind]

theorem readFields_more (h : Reads field st items st') (hws : ∀ c ∈ ws, isSpace c = true)
    (hfuel : items.length < fuel) (rest : List Char) :
    readFields field fuel false st
      (items.flatMap (fun i => ',' :: fieldLine level i) ++ (ws ++ '}' :: rest)) =
        .ok (st', ws ++ '}' :: rest) := by
  induction h generalizing fuel with
  | nil st =>
    obtain ⟨fuel, rfl⟩ := Nat.exists_eq_succ_of_ne_zero (Nat.ne_of_gt hfuel)
    rw [List.flatMap_nil, List.nil_append, readFields, nextKey_close hws]
    rfl
  | cons hfirst hrest ih =>
    rename_i st st1 st' k v items
    rw [List.length_cons] at hfuel
    obtain ⟨fuel, rfl⟩ := Nat.exists_eq_succ_of_ne_zero (Nat.ne_of_gt (Nat.zero_lt_of_lt hfuel))
    have hkey (rest : List Char) :
        nextKey false (',' :: (indent (level + 1)).toList ++ '"' :: rest) = .ok (some rest) :=
      nextKey_next (isSpace_indent _) rest
    have hline := readFields_line hkey hfirst fuel
      (items.flatMap (fun i => ',' :: fieldLine level i) ++ (ws ++ '}' :: rest))
    rw [ih (by omega)] at hline
    rw [← hline, List.flatMap_cons, fieldLine]
    simp

theorem intercalate_cons (separator x : List Char) (xs : List (List Char)) :
    separator.intercalate (x :: xs) = x ++ xs.flatMap (separator ++ ·) := by
  induction xs generalizing x with
  | nil => simp
  | cons y ys ih => simp [List.intercalate_cons_cons, ih]

theorem toList_prettyObject (level : Nat) (item : String × String) :
    (prettyObject level (item :: items)).toList =
      '{' :: (fieldLine level item ++ (items.flatMap (fun i => ',' :: fieldLine level i) ++
        ((indent level).toList ++ ['}']))) := by
  have hline (i : String × String) :
      (indent (level + 1) ++ (quote i.1 ++ ": " ++ i.2)).toList = fieldLine level i := by
    simp [fieldLine]
  have hlines : (((item :: items).map fun i => quote i.1 ++ ": " ++ i.2).map
      fun i => indent (level + 1) ++ i).map String.toList = (item :: items).map (fieldLine level) := by
    rw [List.map_map, List.map_map]
    exact List.map_congr_left fun i _ => hline i
  rw [prettyObject, layOut, if_neg (by simp), String.toList_append, String.toList_append,
    String.toList_append, String.toList_intercalate, hlines, List.map_cons, intercalate_cons]
  simp [List.flatMap_map]

theorem length_le_flatMap (items : List (String × String)) (level : Nat) :
    items.length ≤ (items.flatMap fun i => ',' :: fieldLine level i).length := by
  induction items with
  | nil => exact Nat.le_refl 0
  | cons i items ih =>
    rw [List.flatMap_cons, List.length_append, List.length_cons, List.length_cons]
    omega

theorem readObject_prettyObject (h : Reads field st items st') (level : Nat) :
    ∃ body tail, (prettyObject level items).toList = '{' :: body ∧
      ∀ rest, readObject field st (body ++ rest) = .ok (st', tail ++ rest) ∧
        close .object (tail ++ rest) = .ok rest := by
  have hnone : ∀ c ∈ ([] : List Char), isSpace c = true := by simp
  cases h with
  | nil =>
    refine ⟨['}'], ['}'], by simp [prettyObject, layOut], fun rest => ⟨?_, close_object hnone rest⟩⟩
    rw [readObject, readFields, List.singleton_append, ← List.nil_append ('}' :: rest),
      nextKey_close hnone]
    rfl
  | cons hfirst hrest =>
    rename_i st1 k v items
    refine ⟨_, (indent level).toList ++ ['}'], toList_prettyObject level (k, v), fun rest => ?_⟩
    have htail : (indent level).toList ++ ['}'] ++ rest = (indent level).toList ++ '}' :: rest := by
      simp
    rw [htail]
    refine ⟨?_, close_object (isSpace_indent level) rest⟩
    have hkey (rest : List Char) :
        nextKey true ((indent (level + 1)).toList ++ '"' :: rest) = .ok (some rest) :=
      nextKey_first (isSpace_indent _) rest
    have hbody : fieldLine level (k, v) ++ (items.flatMap (fun i => ',' :: fieldLine level i) ++
        ((indent level).toList ++ ['}'])) ++ rest = (indent (level + 1)).toList ++
          ((quote k).toList ++ ':' :: ' ' :: (v.toList ++
            (items.flatMap (fun i => ',' :: fieldLine level i) ++
              ((indent level).toList ++ '}' :: rest)))) := by
      simp [fieldLine]
    -- each field takes at least one character, so the fuel lasts
    have hfuel : items.length < (fieldLine level (k, v) ++
        (items.flatMap (fun i => ',' :: fieldLine level i) ++
          ((indent level).toList ++ ['}'])) ++ rest).length := by
      have hle := length_le_flatMap items level
      simp only [List.length_append, List.length_cons]
      omega
    rw [readObject, hbody, readFields_line hkey hfirst, ← hbody]
    exact readFields_more hrest (isSpace_indent level) hfuel rest

end StubLinker.Json
