namespace StubLinker

variable {ε σ α β : Type}

/-- The result of a computation and the state it leaves. -/
def runOn (x : ExceptT ε (StateM σ) α) (s : σ) : Except ε α × σ :=
  x.run.run s

theorem runOn_eq_of_fst {x : ExceptT ε (StateM σ) α} {s : σ} {r : Except ε α}
    (h : (runOn x s).1 = r) : runOn x s = (r, (runOn x s).2) := by
  rw [← h]

theorem runOn_pure (a : α) (s : σ) : runOn (pure a : ExceptT ε (StateM σ) α) s = (.ok a, s) :=
  rfl

theorem runOn_bind (x : ExceptT ε (StateM σ) α) (f : α → ExceptT ε (StateM σ) β) (s : σ) :
    runOn (x >>= f) s =
      match runOn x s with
      | (.ok a, t) => runOn (f a) t
      | (.error e, t) => (.error e, t) := by
  unfold runOn
  simp only [ExceptT.run_bind, StateT.run_bind]
  rcases (ExceptT.run x).run s with ⟨r, t⟩
  cases r <;> rfl

theorem runOn_get (s : σ) : runOn (get : ExceptT ε (StateM σ) σ) s = (.ok s, s) :=
  rfl

theorem runOn_modify (f : σ → σ) (s : σ) :
    runOn (modify f : ExceptT ε (StateM σ) PUnit) s = (.ok ⟨⟩, f s) :=
  rfl

theorem runOn_liftM (r : Except ε α) (s : σ) :
    runOn (liftM r : ExceptT ε (StateM σ) α) s = (r, s) :=
  rfl

theorem runOn_bind_eq_ok {x : ExceptT ε (StateM σ) α} {f : α → ExceptT ε (StateM σ) β} {s u : σ}
    {b : β} : runOn (x >>= f) s = (.ok b, u) ↔
      ∃ a t, runOn x s = (.ok a, t) ∧ runOn (f a) t = (.ok b, u) := by
  rw [runOn_bind]
  rcases runOn x s with ⟨_ | a, t⟩
  · simp
  · constructor
    · intro h
      exact ⟨a, t, rfl, h⟩
    · rintro ⟨a', t', h, hf⟩
      cases h
      exact hf

theorem runOn_bind_eq_error {x : ExceptT ε (StateM σ) α} {f : α → ExceptT ε (StateM σ) β} {s u : σ}
    {e : ε} : runOn (x >>= f) s = (.error e, u) ↔ runOn x s = (.error e, u) ∨
      ∃ a t, runOn x s = (.ok a, t) ∧ runOn (f a) t = (.error e, u) := by
  rw [runOn_bind]
  rcases runOn x s with ⟨e' | a, t⟩
  · simp
  · constructor
    · intro h
      exact .inr ⟨a, t, rfl, h⟩
    · rintro (h | ⟨a', t', h, hf⟩)
      · cases h
      · cases h
        exact hf

theorem runOn_foldlM_eq_error {f : β → α → ExceptT ε (StateM σ) β} {as : List α} {b : β} {s u : σ}
    {e : ε} (h : runOn (as.foldlM f b) s = (.error e, u)) :
    ∃ front a rest c t, as = front ++ a :: rest ∧ runOn (front.foldlM f b) s = (.ok c, t) ∧
      runOn (f c a) t = (.error e, u) := by
  induction as generalizing b s with
  | nil =>
    rw [List.foldlM_nil, runOn_pure] at h
    cases h
  | cons a as ih =>
    rw [List.foldlM_cons] at h
    rcases runOn_bind_eq_error.1 h with h | ⟨c, t, ha, h⟩
    · exact ⟨[], a, as, b, s, rfl, rfl, h⟩
    · obtain ⟨front, a', rest, c', t', rfl, hfront, ha'⟩ := ih h
      refine ⟨a :: front, a', rest, c', t', rfl, ?_, ha'⟩
      rw [List.foldlM_cons]
      exact runOn_bind_eq_ok.2 ⟨c, t, ha, hfront⟩

theorem runOn_foldlM_eq_ok_of_mem {f : β → α → ExceptT ε (StateM σ) β} {as : List α} {a : α} {b c : β}
    {s u : σ} (h : runOn (as.foldlM f b) s = (.ok c, u)) (ha : a ∈ as) :
    ∃ b' s' c' u', runOn (f b' a) s' = (.ok c', u') := by
  induction as generalizing b s with
  | nil => cases ha
  | cons a' as ih =>
    rw [List.foldlM_cons] at h
    obtain ⟨c', t, hfirst, h⟩ := runOn_bind_eq_ok.1 h
    rcases List.mem_cons.1 ha with rfl | ha
    · exact ⟨b, s, c', t, hfirst⟩
    · exact ih h ha

/-- However a computation ends, the state that it leaves is related to the one it started from. -/
def Relates (R : σ → σ → Prop) (x : ExceptT ε (StateM σ) α) : Prop :=
  ∀ s, R s (runOn x s).2

section Relates

variable {R : σ → σ → Prop} {x : ExceptT ε (StateM σ) α} {f : α → ExceptT ε (StateM σ) β}

theorem relates_pure (hrefl : ∀ s, R s s) (a : α) :
    Relates R (pure a : ExceptT ε (StateM σ) α) :=
  hrefl

theorem Relates.bind (htrans : ∀ s t u, R s t → R t u → R s u) (hx : Relates R x)
    (hf : ∀ a, Relates R (f a)) : Relates R (x >>= f) := by
  intro s
  have hfirst := hx s
  rw [runOn_bind]
  rcases hrun : runOn x s with ⟨_ | a, t⟩
  · rw [hrun] at hfirst
    exact hfirst
  · rw [hrun] at hfirst
    exact htrans s t _ hfirst (hf a t)

theorem Relates.foldlM {g : β → α → ExceptT ε (StateM σ) β} {as : List α}
    (hrefl : ∀ s, R s s) (htrans : ∀ s t u, R s t → R t u → R s u)
    (hg : ∀ a ∈ as, ∀ b, Relates R (g b a)) (b : β) : Relates R (as.foldlM g b) := by
  induction as generalizing b with
  | nil => exact hrefl
  | cons a as ih =>
    obtain ⟨ha, has⟩ := List.forall_mem_cons.1 hg
    rw [List.foldlM_cons]
    exact (ha b).bind htrans fun c => ih has c

end Relates

end StubLinker
