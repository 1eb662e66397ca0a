/-
Operations on a map that touch different keys commute, and what that says about
interleavings.

`Within f R W` bounds what an operation has to do with the keys: its result
depends on the entries at `R`, it changes no entry outside `W`, and what it leaves
at `W` depends on the entries at `R` and `W`. Two operations neither of which
writes what the other reads or writes commute, with their results
(`Within.commutes`).

Several threads send operations into one queue. The order of the operations of
one thread is the thread's own; the interleaving is not. If operations of
different threads commute, it does not matter: the map at the end is the same,
and so is what each thread gets (`run_interleaving`).
-/
import Mathlib.Data.Set.Function

set_option autoImplicit false

namespace Interleaving

/-! ## Operations -/

section Operations

variable {κ β ρ ρ' : Type}

/-- The operation looks at the entries at `R`, and changes only those at `W`. -/
structure Within (f : (κ → β) → ρ × (κ → β)) (R W : Set κ) : Prop where
  result : ∀ s t, Set.EqOn s t R → (f s).1 = (f t).1
  frame : ∀ s k, k ∉ W → (f s).2 k = s k
  written : ∀ s t, Set.EqOn s t (R ∪ W) → Set.EqOn (f s).2 (f t).2 W

/-- Either order leaves the same state, and gives each operation its result. -/
structure Commutes {σ : Type} (f : σ → ρ × σ) (g : σ → ρ' × σ) : Prop where
  state : ∀ s, (g (f s).2).2 = (f (g s).2).2
  first : ∀ s, (f (g s).2).1 = (f s).1
  second : ∀ s, (g (f s).2).1 = (g s).1

/-- An operation leaves the keys alone that it does not write. -/
theorem Within.eqOn {f : (κ → β) → ρ × (κ → β)} {R W S : Set κ} (h : Within f R W)
    (hS : ∀ k ∈ W, k ∉ S) (s : κ → β) : Set.EqOn (f s).2 s S :=
  fun k hk => h.frame s k fun hw => hS k hw hk

/-- **Operations on different keys commute.** -/
theorem Within.commutes {f : (κ → β) → ρ × (κ → β)} {g : (κ → β) → ρ' × (κ → β)}
    {R W R' W' : Set κ} (hf : Within f R W) (hg : Within g R' W') (h : ∀ k ∈ W, k ∉ R' ∪ W')
    (h' : ∀ k ∈ W', k ∉ R ∪ W) : Commutes f g where
  state s := by
    funext k
    by_cases hk : k ∈ W
    · -- `f` decides, on entries that `g` has left alone
      have hk' : k ∉ W' := fun hw => h k hk (Or.inr hw)
      rw [hg.frame _ k hk']
      exact (hf.written _ _ (hg.eqOn h' s) hk).symm
    · rw [hf.frame _ k hk]
      by_cases hk' : k ∈ W'
      · exact hg.written _ _ (hf.eqOn h s) hk'
      · rw [hg.frame _ k hk', hg.frame _ k hk', hf.frame _ k hk]
  first s := hf.result _ _ ((hg.eqOn h' s).mono Set.subset_union_left)
  second s := hg.result _ _ ((hf.eqOn h s).mono Set.subset_union_left)

/-- Reporting the results in another form changes nothing. -/
theorem Commutes.report {σ τ τ' : Type} {f : σ → ρ × σ} {g : σ → ρ' × σ} (h : Commutes f g)
    (u : ρ → τ) (v : ρ' → τ') :
    Commutes (fun s => (u (f s).1, (f s).2)) (fun s => (v (g s).1, (g s).2)) where
  state := h.state
  first s := congrArg u (h.first s)
  second s := congrArg v (h.second s)

end Operations

/-! ## Queues -/

section Queues

variable {ι α σ ρ : Type} (act : α → σ → ρ × σ)

/-- A queue of operations, each with the thread that sent it, carried out in
order: the results with their threads, and the state at the end. -/
def run : List (ι × α) → σ → List (ι × ρ) × σ
  | [], s => ([], s)
  | x :: queue, s =>
      let done := run queue (act x.2 s).2
      ((x.1, (act x.2 s).1) :: done.1, done.2)

variable [DecidableEq ι]

/-- What one thread has in a queue, in order. -/
def of_thread {γ : Type} (i : ι) (queue : List (ι × γ)) : List γ :=
  (queue.filter fun x => x.1 = i).map Prod.snd

theorem of_thread_cons_self {γ : Type} (i : ι) (c : γ) (queue : List (ι × γ)) :
    of_thread i ((i, c) :: queue) = c :: of_thread i queue := by
  unfold of_thread
  rw [List.filter_cons_of_pos (by simp), List.map_cons]

theorem of_thread_cons_of_ne {γ : Type} {i j : ι} (h : j ≠ i) (c : γ) (queue : List (ι × γ)) :
    of_thread i ((j, c) :: queue) = of_thread i queue := by
  unfold of_thread
  rw [List.filter_cons_of_neg (by simpa using h)]

theorem of_thread_append {γ : Type} (i : ι) (front queue : List (ι × γ)) :
    of_thread i (front ++ queue) = of_thread i front ++ of_thread i queue := by
  unfold of_thread
  rw [List.filter_append, List.map_append]

/-- What a thread has in a queue is in the queue. -/
theorem mem_of_thread {γ : Type} {i : ι} {c : γ} {queue : List (ι × γ)} :
    c ∈ of_thread i queue ↔ (i, c) ∈ queue := by
  unfold of_thread
  simp

/-- The operations in another form are still those of the thread. -/
theorem of_thread_map {γ δ : Type} (i : ι) (f : γ → δ) (queue : List (ι × γ)) :
    of_thread i (queue.map (Prod.map id f)) = (of_thread i queue).map f := by
  induction queue with
  | nil => rfl
  | cons x queue ih =>
      obtain ⟨j, c⟩ := x
      show of_thread i ((j, f c) :: queue.map (Prod.map id f)) = _
      by_cases hj : j = i
      · subst hj
        rw [of_thread_cons_self, of_thread_cons_self, List.map_cons, ih]
      · rw [of_thread_cons_of_ne hj, of_thread_cons_of_ne hj, ih]

/-- A thread whose first operation is `c` has it somewhere in the queue, behind
operations of other threads only. -/
theorem exists_front {γ : Type} {i : ι} {c : γ} {rest : List γ} {queue : List (ι × γ)}
    (h : of_thread i queue = c :: rest) :
    ∃ front back, queue = front ++ (i, c) :: back ∧ ∀ y ∈ front, i ≠ y.1 := by
  unfold of_thread at h
  obtain ⟨⟨j, c'⟩, tail, hfilter, rfl, -⟩ := List.map_eq_cons_iff.mp h
  obtain ⟨front, back, hqueue, hfront, hj, -⟩ := List.filter_eq_cons_iff.mp hfilter
  have hij : j = i := by simpa using hj
  subst hij
  refine ⟨front, back, hqueue, fun y hy heq => hfront y hy ?_⟩
  simp [heq]

/-- Two runs that no thread can tell apart, and no one afterwards. -/
structure SameRun (done done' : List (ι × ρ) × σ) : Prop where
  state : done.2 = done'.2
  results : ∀ i, of_thread i done.1 = of_thread i done'.1

variable {act}

omit [DecidableEq ι] in
theorem run_cons (x : ι × α) (queue : List (ι × α)) (s : σ) :
    run act (x :: queue) s = ((x.1, (act x.2 s).1) :: (run act queue (act x.2 s).2).1,
      (run act queue (act x.2 s).2).2) := rfl

/-- The same first operation, and then runs that are the same. -/
theorem SameRun.cons {x : ι × α} {queue queue' : List (ι × α)} {s : σ}
    (h : SameRun (run act queue (act x.2 s).2) (run act queue' (act x.2 s).2)) :
    SameRun (run act (x :: queue) s) (run act (x :: queue') s) := by
  refine ⟨h.state, fun i => ?_⟩
  rw [run_cons, run_cons]
  dsimp only
  by_cases hi : x.1 = i
  · subst hi
    rw [of_thread_cons_self, of_thread_cons_self, h.results]
  · rw [of_thread_cons_of_ne hi, of_thread_cons_of_ne hi, h.results]

theorem SameRun.trans {done done' done'' : List (ι × ρ) × σ} (h : SameRun done done')
    (h' : SameRun done' done'') : SameRun done done'' :=
  ⟨h.state.trans h'.state, fun i => (h.results i).trans (h'.results i)⟩

theorem SameRun.symm {done done' : List (ι × ρ) × σ} (h : SameRun done done') :
    SameRun done' done :=
  ⟨h.state.symm, fun i => (h.results i).symm⟩

/-- Two neighbours of different threads change places. -/
theorem SameRun.swap {x y : ι × α} (hne : x.1 ≠ y.1) (h : Commutes (act x.2) (act y.2))
    (queue : List (ι × α)) (s : σ) :
    SameRun (run act (x :: y :: queue) s) (run act (y :: x :: queue) s) := by
  rw [run_cons, run_cons, run_cons, run_cons]
  dsimp only
  rw [h.state s, h.first s, h.second s]
  refine ⟨rfl, fun i => ?_⟩
  dsimp only
  by_cases hx : x.1 = i
  · -- the other one is of another thread
    have hy : y.1 ≠ i := fun hy => hne (hx.trans hy.symm)
    subst hx
    rw [of_thread_cons_self, of_thread_cons_of_ne hy, of_thread_cons_of_ne hy, of_thread_cons_self]
  · rw [of_thread_cons_of_ne hx]
    by_cases hy : y.1 = i
    · subst hy
      rw [of_thread_cons_self, of_thread_cons_self, of_thread_cons_of_ne hx]
    · rw [of_thread_cons_of_ne hy, of_thread_cons_of_ne hy, of_thread_cons_of_ne hx]

/-- An operation moves to the front past those of other threads. -/
theorem SameRun.to_front {x : ι × α} {front : List (ι × α)} (hne : ∀ y ∈ front, x.1 ≠ y.1)
    (h : ∀ y ∈ front, Commutes (act x.2) (act y.2)) (queue : List (ι × α)) (s : σ) :
    SameRun (run act (x :: (front ++ queue)) s) (run act (front ++ x :: queue) s) := by
  induction front generalizing s with
  | nil => exact ⟨rfl, fun _ => rfl⟩
  | cons y front ih =>
      have hfirst := SameRun.swap (hne y List.mem_cons_self) (h y List.mem_cons_self)
        (front ++ queue) s
      refine hfirst.trans (SameRun.cons ?_)
      exact ih (fun z hz => hne z (List.mem_cons_of_mem y hz))
        (fun z hz => h z (List.mem_cons_of_mem y hz)) _

/-- **The interleaving does not matter.** Two queues that hold the same operations
for each thread, in its order, run the same if operations of different threads
commute. -/
theorem run_interleaving {queue queue' : List (ι × α)}
    (hsame : ∀ i, of_thread i queue = of_thread i queue')
    (h : ∀ x ∈ queue, ∀ y ∈ queue, x.1 ≠ y.1 → Commutes (act x.2) (act y.2)) (s : σ) :
    SameRun (run act queue s) (run act queue' s) := by
  -- the first operation of the one queue is brought to the front of the other
  induction queue generalizing queue' s with
  | nil =>
      have hnil : queue' = [] := by
        rw [List.eq_nil_iff_forall_not_mem]
        intro x hx
        have hmem := mem_of_thread.mpr hx
        rw [← hsame] at hmem
        simp [of_thread] at hmem
      rw [hnil]
      exact ⟨rfl, fun _ => rfl⟩
  | cons x queue ih =>
      have hx := hsame x.1
      rw [of_thread_cons_self] at hx
      obtain ⟨front, back, rfl, hfront⟩ := exists_front hx.symm
      have hmem : ∀ y ∈ front, y ∈ x :: queue := by
        intro y hy
        rw [← mem_of_thread, hsame, mem_of_thread]
        exact List.mem_append_left _ hy
      have hcommutes : ∀ y ∈ front, Commutes (act x.2) (act y.2) := fun y hy =>
        h x List.mem_cons_self y (hmem y hy) (hfront y hy)
      refine SameRun.trans (SameRun.cons ?_) (SameRun.to_front hfront hcommutes back s)
      refine ih (fun i => ?_)
        (fun y hy z hz => h y (List.mem_cons_of_mem x hy) z (List.mem_cons_of_mem x hz)) _
      -- without `x` the queues still hold the same for each thread
      have hi := hsame i
      rw [of_thread_append] at hi ⊢
      by_cases hxi : x.1 = i
      · -- nothing of this thread stood in front
        subst hxi
        have hnone : of_thread x.1 front = [] := by
          rw [List.eq_nil_iff_forall_not_mem]
          intro c hc
          exact hfront _ (mem_of_thread.mp hc) rfl
        rw [of_thread_cons_self, of_thread_cons_self, hnone] at hi
        rw [hnone]
        exact List.tail_eq_of_cons_eq hi
      · rw [of_thread_cons_of_ne hxi, of_thread_cons_of_ne hxi] at hi
        exact hi

omit [DecidableEq ι] in
/-- A run seen through `abs`, with operations and results in another form. -/
theorem run_abstract {α' ρ' τ : Type} {act' : α' → τ → ρ' × τ} {abs : σ → τ} {form : α → α'}
    {report : ρ → ρ'} {queue : List (ι × α)}
    (h : ∀ x ∈ queue, ∀ s, act' (form x.2) (abs s) = (report (act x.2 s).1, abs (act x.2 s).2))
    (s : σ) :
    run act' (queue.map (Prod.map id form)) (abs s) =
      ((run act queue s).1.map (Prod.map id report), abs (run act queue s).2) := by
  induction queue generalizing s with
  | nil => rfl
  | cons x queue ih =>
      have hx := h x List.mem_cons_self s
      rw [List.map_cons, run_cons, run_cons]
      show ((x.1, (act' (form x.2) (abs s)).1) :: _, _) = _
      dsimp only [Prod.map_snd, Prod.map_fst]
      rw [hx]
      dsimp only
      rw [ih (fun y hy => h y (List.mem_cons_of_mem x hy))]
      rfl

end Queues

end Interleaving
