import StubLinker.Proofs.ClassFile.Reference

namespace StubLinker

/-- What is asked of a pool: the number of a class, or the instructions of operations. -/
inductive Request where
  | classIndex (name : String)
  | lowerAll (ops : List Op)

/-- A request with what it ended with. -/
inductive Call where
  | classIndex (name : String) (result : Except ClassFileError UInt16)
  | lowerAll (ops : List Op) (result : Except ClassFileError (List Instruction))

namespace Call

def succeeds : Call → Bool
  | classIndex _ result => result.isOk
  | lowerAll _ result => result.isOk

def grantedBy (p : Op × Instruction) : Option (Reference × UInt16) :=
  match p.1.reference?, p.2.index? with
  | some r, some index => some (r, index)
  | _, _ => none

/-- The numbers that were returned or stand in instructions, with what they were asked for. -/
def granted : Call → List (Reference × UInt16)
  | classIndex name (.ok index) => [(.className name, index)]
  | lowerAll ops (.ok is) => (ops.zip is).filterMap grantedBy
  | _ => []

/-- The instructions that were returned read in a pool as what they were lowered from. -/
def Decodes (p : Pool) : Call → Prop
  | lowerAll ops (.ok is) => List.Forall₂ (Instruction.Decodes p) ops is
  | _ => True

theorem Decodes.of_extends {p q : Pool} {c : Call} (h : p.Extends q) (hc : c.Decodes p) :
    c.Decodes q := by
  cases c with
  | classIndex name result => trivial
  | lowerAll ops result =>
    cases result with
    | error e => trivial
    | ok is => exact Lowering.lasting_decodesAll ops p q is h hc

end Call

namespace Request

def references : Request → List Reference
  | classIndex name => [.className name]
  | lowerAll ops => ops.flatMap Op.references

/-- Carries out the request. What a failed one added stays. -/
def run (s : SharedPool) : Request → Call × SharedPool
  | classIndex name => Prod.map (Call.classIndex name) id (runOn (Lowering.classIndex name) s)
  | lowerAll ops => Prod.map (Call.lowerAll ops) id (runOn (Lowering.lowerAll ops) s)

/-- Carries out requests one after the other, each on what the one before it left. -/
def serve (s : SharedPool) : List Request → List Call × SharedPool
  | [] => ([], s)
  | r :: rs => ((r.run s).1 :: (serve (r.run s).2 rs).1, (serve (r.run s).2 rs).2)

theorem serve_append (s : SharedPool) (rs later : List Request) :
    serve s (rs ++ later) = ((serve s rs).1 ++ (serve (serve s rs).2 later).1,
      (serve (serve s rs).2 later).2) := by
  induction rs generalizing s with
  | nil => rfl
  | cons r rs ih => rw [List.cons_append, serve, ih]; rfl

variable {s t : SharedPool} {base : Pool} {refs : Finset Reference} {r : Request} {c : Call}

/-- What one request does, whether it succeeds or fails. -/
structure Answers (s : SharedPool) (c : Call) (t : SharedPool) : Prop where
  extends_pool : s.pool.Extends t.pool
  keeps : s.Keeps t
  granted : ∀ g ∈ c.granted, t.index? g.1 = some g.2
  decodes : c.Decodes t.pool

theorem run_answers (hs : s.Sound base) (r : Request) :
    (r.run s).2.Sound base ∧ Answers s (r.run s).1 (r.run s).2 := by
  cases r with
  | classIndex name =>
    rcases hrun : runOn (Lowering.classIndex name) s with ⟨result, t⟩
    obtain ⟨ht, hext, -⟩ := Lowering.adds_classIndex name base s result t hs hrun
    obtain ⟨hkeeps, hgrants⟩ := Lowering.grants_classIndex name s result t hrun
    simp only [run, hrun]
    refine ⟨ht, hext, hkeeps, ?_, trivial⟩
    intro g hg
    cases result with
    | error e => cases hg
    | ok index =>
      rw [List.mem_singleton.1 hg]
      exact hgrants index rfl
  | lowerAll ops =>
    rcases hrun : runOn (Lowering.lowerAll ops) s with ⟨result, t⟩
    obtain ⟨ht, hext, hdecodes⟩ := Lowering.ensures_decodesAll ops base s result t hs hrun
    obtain ⟨hkeeps, hgrants⟩ := Lowering.grants_lowerAll ops s result t hrun
    simp only [run, hrun]
    cases result with
    | error e => exact ⟨ht, hext, hkeeps, fun g hg => (List.not_mem_nil hg).elim, trivial⟩
    | ok is =>
      refine ⟨ht, hext, hkeeps, ?_, hdecodes⟩
      intro g hg
      obtain ⟨⟨op, i⟩, hmem, hg⟩ := List.mem_filterMap.1 hg
      have hop := List.forall₂_zip (hgrants is rfl) hmem
      unfold Call.grantedBy at hg
      dsimp only at hg
      split at hg
      · rename_i hr hi
        cases hg
        obtain ⟨index, hindex, ht⟩ := hop _ hr
        rw [hi] at hindex
        cases hindex
        exact ht
      · cases hg

theorem run_counts (hs : s.Counts base refs) (hc : (r.run s).1.succeeds = true) :
    (r.run s).2.Counts base (refs ∪ r.references.toFinset) := by
  cases r with
  | classIndex name =>
    rcases hrun : runOn (Lowering.classIndex name) s with ⟨result, t⟩
    simp only [run, hrun] at hc ⊢
    cases result with
    | error e => cases hc
    | ok index => exact Lowering.tallies_classIndex name base refs s index t hs hrun
  | lowerAll ops =>
    rcases hrun : runOn (Lowering.lowerAll ops) s with ⟨result, t⟩
    simp only [run, hrun] at hc ⊢
    cases result with
    | error e => cases hc
    | ok is => exact Lowering.tallies_lowerAll ops base refs s is t hs hrun

theorem serve_sound (hs : s.Sound base) (rs : List Request) :
    (serve s rs).2.Sound base ∧ s.pool.Extends (serve s rs).2.pool ∧ s.Keeps (serve s rs).2 ∧
      ∀ c ∈ (serve s rs).1, (∀ g ∈ c.granted, (serve s rs).2.index? g.1 = some g.2) ∧
        c.Decodes (serve s rs).2.pool := by
  induction rs generalizing s with
  | nil => exact ⟨hs, .refl s.pool, .refl s, fun c hc => by cases hc⟩
  | cons r rs ih =>
    obtain ⟨ht, hfirst⟩ := run_answers hs r
    obtain ⟨hu, hext, hkeeps, hrest⟩ := ih ht
    refine ⟨hu, hfirst.extends_pool.trans hext, hfirst.keeps.trans hkeeps, ?_⟩
    intro c hc
    rcases List.mem_cons.1 hc with rfl | hc
    · refine ⟨?_, hfirst.decodes.of_extends hext⟩
      intro g hg
      exact hkeeps g.1 g.2 (hfirst.granted g hg)
    · exact hrest c hc

theorem serve_counts (hs : s.Counts base refs) (rs : List Request)
    (h : ∀ c ∈ (serve s rs).1, c.succeeds = true) :
    (serve s rs).2.Counts base (refs ∪ (rs.flatMap references).toFinset) := by
  induction rs generalizing s refs with
  | nil =>
    rw [List.flatMap_nil, List.toFinset_nil, Finset.union_empty]
    exact hs
  | cons r rs ih =>
    obtain ⟨hr, hrs⟩ := List.forall_mem_cons.1 h
    rw [List.flatMap_cons, List.toFinset_append, ← Finset.union_assoc]
    exact ih (run_counts hs hr) hrs

/-- What requests to a pool have led to: old constants are where they were, numbers and references
correspond, instructions are read as what was lowered, and unless a request failed the pool has the
constants of every reference once. -/
structure Shares (base : Pool) (rs : List Request) (calls : List Call) (reached : SharedPool) :
    Prop where
  extends_base : base.Extends reached.pool
  resolves : ∀ c ∈ calls, ∀ g ∈ c.granted, g.1.Resolves reached.pool g.2
  corresponds : ∀ c ∈ calls, ∀ g ∈ c.granted, ∀ c' ∈ calls, ∀ g' ∈ c'.granted,
    g.1 = g'.1 ↔ g.2 = g'.2
  decodes : ∀ c ∈ calls, c.Decodes reached.pool
  size : (∀ c ∈ calls, c.succeeds = true) →
    reached.pool.size = base.size + ∑ r ∈ (rs.flatMap references).toFinset, r.constants

theorem serve_shares (base : Pool) (rs later : List Request) :
    Shares base rs (serve { pool := base } rs).1 (serve { pool := base } rs).2 ∧
      (serve { pool := base } rs).1 <+: (serve { pool := base } (rs ++ later)).1 ∧
      (serve { pool := base } rs).2.pool.Extends (serve { pool := base } (rs ++ later)).2.pool := by
  obtain ⟨hsound, hext, -, hcalls⟩ := serve_sound (.initial base) rs
  have hresolves : ∀ c ∈ (serve { pool := base } rs).1, ∀ g ∈ c.granted,
      g.1.Resolves (serve { pool := base } rs).2.pool g.2 := by
    intro c hc g hg
    exact hsound.resolves ((hcalls c hc).1 g hg)
  refine ⟨⟨hext, hresolves, ?_, fun c hc => (hcalls c hc).2, ?_⟩, ?_, ?_⟩
  · intro c hc g hg c' hc' g' hg'
    constructor
    · intro hsame
      have hnumber := (hcalls c hc).1 g hg
      rw [hsame, (hcalls c' hc').1 g' hg'] at hnumber
      exact (Option.some.inj hnumber).symm
    · intro hsame
      have hr := hresolves c hc g hg
      rw [hsame] at hr
      exact hr.unique (hresolves c' hc' g' hg')
  · intro hall
    have hcounts := (serve_counts (.initial base) rs hall).size
    rw [Finset.empty_union] at hcounts
    exact hcounts
  · rw [serve_append]
    exact List.prefix_append _ _
  · rw [serve_append]
    exact (serve_sound hsound later).2.1

end Request

end StubLinker
