/-
Threads that share what a mutex protects.

A thread tells what it does next (`Next`): it takes the lock, gives it back,
takes a step of its own, or is at its end. The mutex is one that a panic poisons:
a thread that panics drops its guard, and whoever finds the lock poisoned goes
down as well.

The discipline is that of code that uses guards (`Disciplined`): a thread takes
the lock only when it has no guard, gives it back only when it has one, has none
at its end, and gets there after a bounded number of steps, whatever it finds
under the lock. Then no two threads have a guard at a time, every run is bounded
(`run_bounded`), and the system stops only when all threads are at their ends
(`stuck_finished`).
-/
import Mathlib.Algebra.Order.BigOperators.Group.Finset
import WgpuRemote.Lib.Transition

set_option autoImplicit false

namespace Mutex

open Transition

/-- What a thread does next: `σ` is what the threads share, `τ` a thread. -/
inductive Next (σ τ : Type*) where
  | finish
  /-- Wait for the lock and take it. A thread that finds it poisoned goes on as
  `poisoned`. -/
  | acquire (enter : σ → τ) (poisoned : τ)
  | release (leave : τ)
  /-- A step of its own. `panicked` is what is left of the thread if it panics
  here, `none` if it cannot. -/
  | act (go : σ → σ × τ) (panicked : Option τ)

/-- The mutex and its threads. -/
structure State (ι σ τ : Type*) where
  shared : σ
  holder : Option ι
  poisoned : Bool
  threads : ι → τ

/-- The thread that goes on, and whether it panics. -/
inductive Label (ι : Type*) where
  | step (i : ι)
  | panic (i : ι)

/-- The thread of a label. -/
def Label.thread {ι : Type*} : Label ι → ι
  | .step i | .panic i => i

section System

variable {ι σ τ : Type*} [DecidableEq ι] (next : τ → Next σ τ)

/-- Thread `i` does what it does next. It cannot if it is at its end, or if it
waits for a lock that another one has. -/
def State.go (s : State ι σ τ) (i : ι) : Next σ τ → Option (State ι σ τ)
  | .finish => none
  | .acquire enter dead =>
      match s.holder with
      | some _ => none
      | none =>
          if s.poisoned then some { s with threads := Function.update s.threads i dead }
          else
            some
              { s with
                holder := some i
                threads := Function.update s.threads i (enter s.shared) }
  | .release t => some { s with holder := none, threads := Function.update s.threads i t }
  | .act go _ =>
      some
        { s with
          shared := (go s.shared).1
          threads := Function.update s.threads i (go s.shared).2 }

/-- Thread `i` panics in what it does next, and its guard is dropped. -/
def State.fail (s : State ι σ τ) (i : ι) : Next σ τ → Option (State ι σ τ)
  | .act _ (some dead) =>
      some
        { s with
          holder := if s.holder = some i then none else s.holder
          poisoned := s.poisoned || decide (s.holder = some i)
          threads := Function.update s.threads i dead }
  | _ => none

/-- One thread goes on, or panics. -/
def step (s : State ι σ τ) : Label ι → Option (State ι σ τ)
  | .step i => s.go i (next (s.threads i))
  | .panic i => s.fail i (next (s.threads i))

/-! ## What a step can do -/

/-- Takes the lock and finds it poisoned, takes it, gives it back, or takes a step
of its own. -/
theorem State.go_cases {s s' : State ι σ τ} {i : ι} {n : Next σ τ} (h : s.go i n = some s') :
    (∃ enter dead, n = .acquire enter dead ∧ s.holder = none ∧ s.poisoned = true ∧
      s' = { s with threads := Function.update s.threads i dead }) ∨
    (∃ enter dead, n = .acquire enter dead ∧ s.holder = none ∧ s.poisoned = false ∧
      s' =
        { s with
          holder := some i
          threads := Function.update s.threads i (enter s.shared) }) ∨
    (∃ t, n = .release t ∧
      s' = { s with holder := none, threads := Function.update s.threads i t }) ∨
    ∃ go dead, n = .act go dead ∧
      s' =
        { s with
          shared := (go s.shared).1
          threads := Function.update s.threads i (go s.shared).2 } := by
  -- a thread acquires, releases or acts
  rcases n with _ | ⟨enter, dead⟩ | t | ⟨go, dead⟩
  · cases h
  · simp only [go] at h
    split at h
    · cases h
    · rename_i hholder
      by_cases hp : s.poisoned = true
      · rw [if_pos hp] at h
        exact Or.inl ⟨enter, dead, rfl, hholder, hp, (Option.some.inj h).symm⟩
      · rw [if_neg hp] at h
        exact Or.inr (Or.inl
          ⟨enter, dead, rfl, hholder, Bool.eq_false_iff.mpr hp, (Option.some.inj h).symm⟩)
  · exact Or.inr (Or.inr (Or.inl ⟨t, rfl, (Option.some.inj h).symm⟩))
  · exact Or.inr (Or.inr (Or.inr ⟨go, dead, rfl, (Option.some.inj h).symm⟩))

theorem State.fail_cases {s s' : State ι σ τ} {i : ι} {n : Next σ τ} (h : s.fail i n = some s') :
    ∃ go dead, n = .act go (some dead) ∧
      s' =
        { s with
          holder := if s.holder = some i then none else s.holder
          poisoned := s.poisoned || decide (s.holder = some i)
          threads := Function.update s.threads i dead } := by
  rcases n with _ | ⟨enter, dead⟩ | t | ⟨go, _ | dead⟩
  · cases h
  · cases h
  · cases h
  · cases h
  · exact ⟨go, dead, rfl, (Option.some.inj h).symm⟩

/-- A thread that cannot go on is at its end, or waits for the lock. -/
theorem State.go_eq_none {s : State ι σ τ} {i : ι} {n : Next σ τ} (h : s.go i n = none) :
    n = .finish ∨ ∃ enter dead k, n = .acquire enter dead ∧ s.holder = some k := by
  rcases n with _ | ⟨enter, dead⟩ | t | ⟨go, dead⟩
  · exact Or.inl rfl
  · simp only [go] at h
    split at h
    · rename_i k hholder
      exact Or.inr ⟨enter, dead, k, rfl, hholder⟩
    · by_cases hp : s.poisoned = true
      · rw [if_pos hp] at h
        cases h
      · rw [if_neg hp] at h
        cases h
  · cases h
  · cases h

variable {next} in
/-- A step leaves the other threads alone. -/
theorem step_other {s s' : State ι σ τ} {l : Label ι} (hstep : step next s l = some s') {j : ι}
    (hj : j ≠ l.thread) : s'.threads j = s.threads j := by
  rcases l with i | i
  · rcases State.go_cases hstep with
      ⟨_, _, _, _, _, rfl⟩ | ⟨_, _, _, _, _, rfl⟩ | ⟨_, _, rfl⟩ | ⟨_, _, _, rfl⟩
    all_goals exact Function.update_of_ne hj _ _
  · obtain ⟨_, _, _, rfl⟩ := State.fail_cases hstep
    exact Function.update_of_ne hj _ _

/-! ## What is true of each thread -/

/-- Whatever becomes of the thread has `P`. -/
def Next.Leads (P : τ → Prop) : Next σ τ → Prop
  | .finish => True
  | .acquire enter dead => (∀ x, P (enter x)) ∧ P dead
  | .release t => P t
  | .act go dead => (∀ x, P (go x).2) ∧ ∀ t ∈ dead, P t

variable {next} in
/-- What no thread loses by what it does next, it does not lose in a step of the
system. -/
theorem step_leads {P : τ → Prop} (hP : ∀ t, P t → (next t).Leads P) {s s' : State ι σ τ}
    {l : Label ι} (hstep : step next s l = some s') {i : ι} (hi : P (s.threads i)) :
    P (s'.threads i) := by
  by_cases hthread : i = l.thread
  -- a step of the thread itself keeps `P`, whatever it is
  · have hleads := hP _ hi
    have hself : ∀ t, P t → P (Function.update s.threads i t i) := fun t ht => by
      rw [Function.update_self]
      exact ht
    rcases l with j | j
    · change i = j at hthread
      rw [← hthread] at hstep
      rcases State.go_cases hstep with ⟨enter, dead, hnext, -, -, rfl⟩ |
        ⟨enter, dead, hnext, -, -, rfl⟩ | ⟨t, hnext, rfl⟩ | ⟨go, dead, hnext, rfl⟩
      · rw [hnext] at hleads
        exact hself _ hleads.2
      · rw [hnext] at hleads
        exact hself _ (hleads.1 _)
      · rw [hnext] at hleads
        exact hself _ hleads
      · rw [hnext] at hleads
        exact hself _ (hleads.1 _)
    -- so does its panic
    · change i = j at hthread
      rw [← hthread] at hstep
      obtain ⟨go, dead, hnext, rfl⟩ := State.fail_cases hstep
      rw [hnext] at hleads
      exact hself _ (hleads.2 dead rfl)
  · rw [step_other hstep hthread]
    exact hi

variable {next} in
theorem run_leads {P : τ → Prop} (hP : ∀ t, P t → (next t).Leads P) {s s' : State ι σ τ}
    {ls : List (Label ι)} (hrun : run (step next) s ls = some s') {i : ι} (hi : P (s.threads i)) :
    P (s'.threads i) := by
  have hstep : ∀ (s : State ι σ τ) l s', P (s.threads i) → step next s l = some s' →
      P (s'.threads i) := fun _ _ _ h hstep => step_leads hP hstep h
  exact run_invariant _ hstep hi hrun

/-! ## The discipline -/

/-- Nobody can go on. -/
def Stuck (s : State ι σ τ) : Prop := ∀ l, step next s l = none

/-- What a thread with the guard or without (`held`), that has at most `n` steps
to go, may do next. -/
def Next.Keeps (guard : τ → Bool) (Within : ℕ → τ → Prop) (held : Bool) (n : ℕ) :
    Next σ τ → Prop
  | .finish => held = false
  | .acquire enter dead =>
      held = false ∧ guard dead = false ∧ (∀ x, guard (enter x) = true) ∧
        ∃ m < n, (∀ x, Within m (enter x)) ∧ Within m dead
  | .release t => held = true ∧ guard t = false ∧ ∃ m < n, Within m t
  | .act go dead =>
      (∀ x, guard (go x).2 = held) ∧ (∀ t ∈ dead, guard t = false) ∧
        ∃ m < n, (∀ x, Within m (go x).2) ∧ ∀ t ∈ dead, Within m t

/-- The discipline. `guard t` tells whether `t` has a guard, and `Within n t` is
an invariant of threads that are at their ends after at most `n` steps. -/
def Disciplined (guard : τ → Bool) (Within : ℕ → τ → Prop) : Prop :=
  ∀ n t, Within n t → (next t).Keeps guard Within (guard t) n

/-- The thread that has the guard is the holder, and thread `i` has at most
`budget i` steps to go. -/
structure Inv (guard : τ → Bool) (Within : ℕ → τ → Prop) (budget : ι → ℕ) (s : State ι σ τ) :
    Prop where
  holds : ∀ i, guard (s.threads i) = true ↔ s.holder = some i
  within : ∀ i, Within (budget i) (s.threads i)

variable {next} {guard : τ → Bool} {Within : ℕ → τ → Prop}

/-- Replacing thread `i` and the holder, when the others keep their guards. -/
theorem Inv.replace {budget : ι → ℕ} {s s' : State ι σ τ} (h : Inv guard Within budget s) {i : ι}
    {t : τ} {n : ℕ} (hthreads : s'.threads = Function.update s.threads i t)
    (hi : guard t = true ↔ s'.holder = some i)
    (hothers : ∀ j, j ≠ i → (s'.holder = some j ↔ s.holder = some j)) (hn : Within n t) :
    Inv guard Within (Function.update budget i n) s' where
  holds j := by
    rw [hthreads]
    by_cases hj : j = i
    · rw [hj, Function.update_self]
      exact hi
    · rw [Function.update_of_ne hj, hothers j hj]
      exact h.holds j
  within j := by
    rw [hthreads]
    by_cases hj : j = i
    · rw [hj, Function.update_self, Function.update_self]
      exact hn
    · rw [Function.update_of_ne hj, Function.update_of_ne hj]
      exact h.within j

/-- A thread that does what it does next keeps the invariant, and has less to go. -/
theorem Disciplined.go_inv (hD : Disciplined next guard Within) {budget : ι → ℕ}
    {s s' : State ι σ τ} {i : ι} (h : Inv guard Within budget s)
    (hgo : s.go i (next (s.threads i)) = some s') :
    ∃ n < budget i, Inv guard Within (Function.update budget i n) s' := by
  have hkeeps := hD _ _ (h.within i)
  rcases State.go_cases hgo with ⟨enter, dead, hnext, hfree, -, rfl⟩ |
    ⟨enter, dead, hnext, hfree, -, rfl⟩ | ⟨t, hnext, rfl⟩ | ⟨go, dead, hnext, rfl⟩
  · -- the lock is poisoned, and the thread goes down without it
    rw [hnext] at hkeeps
    obtain ⟨-, hdead, -, n, hn, -, hout⟩ := hkeeps
    refine ⟨n, hn, h.replace (t := dead) rfl ?_ (fun _ _ => Iff.rfl) hout⟩
    rw [hdead, hfree]
    simp
  · rw [hnext] at hkeeps
    -- the guard was free and is the thread's own now
    obtain ⟨-, -, henter, n, hn, hins, -⟩ := hkeeps
    refine ⟨n, hn, h.replace (t := enter s.shared) rfl ?_ (fun j hj => ?_) (hins _)⟩
    · rw [henter]
      simp
    · rw [hfree]
      simp [Ne.symm hj]
  · rw [hnext] at hkeeps
    obtain ⟨hyes, hleft, n, hn, hwt⟩ := hkeeps
    refine ⟨n, hn, h.replace (t := t) rfl ?_ (fun j hj => ?_) hwt⟩
    · rw [hleft]
      simp
    · rw [(h.holds i).mp hyes]
      simp [Ne.symm hj]
  -- an action keeps the guard where it was
  · rw [hnext] at hkeeps
    obtain ⟨hsame, -, n, hn, hwt, -⟩ := hkeeps
    refine ⟨n, hn, h.replace (t := (go s.shared).2) rfl ?_ (fun _ _ => Iff.rfl) (hwt _)⟩
    rw [hsame]
    exact h.holds i

/-- So does a thread that panics: its guard, if it has one, is dropped. -/
theorem Disciplined.fail_inv (hD : Disciplined next guard Within) {budget : ι → ℕ}
    {s s' : State ι σ τ} {i : ι} (h : Inv guard Within budget s)
    (hfail : s.fail i (next (s.threads i)) = some s') :
    ∃ n < budget i, Inv guard Within (Function.update budget i n) s' := by
  have hkeeps := hD _ _ (h.within i)
  obtain ⟨go, dead, hnext, rfl⟩ := State.fail_cases hfail
  rw [hnext] at hkeeps
  obtain ⟨-, hout, n, hn, -, hwt⟩ := hkeeps
  refine ⟨n, hn, h.replace (t := dead) rfl ?_ (fun j hj => ?_) (hwt dead rfl)⟩
  · rw [hout dead rfl]
    by_cases hi : s.holder = some i
    · simp [hi]
    · simp [hi]
  · by_cases hi : s.holder = some i
    · simp [hi, Ne.symm hj]
    · simp [hi]

/-- **One step** keeps the invariant, and costs the thread that takes it. -/
theorem Disciplined.step_inv (hD : Disciplined next guard Within) {budget : ι → ℕ}
    {s s' : State ι σ τ} {l : Label ι} (h : Inv guard Within budget s)
    (hstep : step next s l = some s') :
    ∃ n < budget l.thread, Inv guard Within (Function.update budget l.thread n) s' := by
  rcases l with i | i
  · exact hD.go_inv h hstep
  · exact hD.fail_inv h hstep

/-- **Every run is bounded**, by what all threads have to go at its start. -/
theorem Disciplined.run_bounded [Fintype ι] (hD : Disciplined next guard Within) {budget : ι → ℕ}
    {s s' : State ι σ τ} {ls : List (Label ι)} (h : Inv guard Within budget s)
    (hrun : run (step next) s ls = some s') :
    ∃ budget', Inv guard Within budget' s' ∧ ls.length + ∑ i, budget' i ≤ ∑ i, budget i := by
  induction ls generalizing s budget with
  | nil =>
      cases hrun
      exact ⟨budget, h, by simp⟩
  | cons l ls ih =>
      obtain ⟨s1, h1, hrun⟩ := run_cons_some _ hrun
      obtain ⟨n, hn, hinv⟩ := hD.step_inv h h1
      obtain ⟨budget', hinv', hsum⟩ := ih hinv hrun
      refine ⟨budget', hinv', ?_⟩
      -- one thread's budget went down, the others' did not change
      have hless : ∑ i, Function.update budget l.thread n i < ∑ i, budget i := by
        refine Finset.sum_lt_sum (fun i _ => ?_) ⟨l.thread, Finset.mem_univ _, ?_⟩
        · by_cases hi : i = l.thread
          · rw [hi, Function.update_self]
            omega
          · rw [Function.update_of_ne hi]
        · rw [Function.update_self]
          exact hn
      rw [List.length_cons]
      omega

/-- The thread that has the lock can go on. -/
theorem Disciplined.holder_goes (hD : Disciplined next guard Within) {budget : ι → ℕ}
    {s : State ι σ τ} (h : Inv guard Within budget s) {i : ι} (hi : s.holder = some i) :
    step next s (.step i) ≠ none := by
  have hyes := (h.holds i).mpr hi
  have hkeeps := hD _ _ (h.within i)
  rw [hyes] at hkeeps
  intro hnone
  rcases State.go_eq_none hnone with hnext | ⟨enter, dead, k, hnext, -⟩
  · rw [hnext] at hkeeps
    cases hkeeps
  · rw [hnext] at hkeeps
    cases hkeeps.1

/-- **No deadlock**: when nobody can go on, all threads are at their ends. -/
theorem Disciplined.stuck_finished (hD : Disciplined next guard Within) {budget : ι → ℕ}
    {s : State ι σ τ} (h : Inv guard Within budget s) (hstuck : Stuck next s) (i : ι) :
    next (s.threads i) = .finish := by
  rcases State.go_eq_none (hstuck (.step i)) with hnext | ⟨enter, dead, k, -, hholder⟩
  · exact hnext
  · -- whoever has the lock could go on
    exact absurd (hstuck (.step k)) (hD.holder_goes h hholder)

/-! ## Panics -/

/-- A thread that goes on as expected does not go down: only one that panics, or
that finds the lock poisoned, does. -/
def Next.StaysUp (down : τ → Bool) : Next σ τ → Prop
  | .finish => True
  | .acquire enter _ => ∀ x, down (enter x) = false
  | .release t => down t = false
  | .act go _ => ∀ x, down (go x).2 = false

/-- A poisoned lock stays so, and is poisoned by a panic. -/
theorem step_poisoned {s s' : State ι σ τ} {l : Label ι} (hstep : step next s l = some s') :
    (s.poisoned = true → s'.poisoned = true) ∧
      (s'.poisoned = true → s.poisoned = true ∨ l = .panic l.thread) := by
  rcases l with i | i
  · rcases State.go_cases hstep with
      ⟨_, _, _, _, _, rfl⟩ | ⟨_, _, _, _, _, rfl⟩ | ⟨_, _, rfl⟩ | ⟨_, _, _, rfl⟩
    all_goals exact ⟨id, Or.inl⟩
  · obtain ⟨_, _, _, rfl⟩ := State.fail_cases hstep
    exact ⟨fun hp => Bool.or_eq_true_iff.mpr (Or.inl hp), fun _ => Or.inr rfl⟩

theorem run_poisoned {s s' : State ι σ τ} {ls : List (Label ι)}
    (hrun : run (step next) s ls = some s') :
    (s.poisoned = true → s'.poisoned = true) ∧
      (s'.poisoned = true → s.poisoned = true ∨ ∃ i, .panic i ∈ ls) := by
  induction ls generalizing s with
  | nil =>
      cases hrun
      exact ⟨id, Or.inl⟩
  | cons l ls ih =>
      obtain ⟨s1, h1, hrun⟩ := run_cons_some _ hrun
      obtain ⟨hstay, hcause⟩ := step_poisoned h1
      obtain ⟨hstays, hcauses⟩ := ih hrun
      refine ⟨fun hp => hstays (hstay hp), fun hp => ?_⟩
      rcases hcauses hp with hp | ⟨i, hi⟩
      · rcases hcause hp with hp | hl
        · exact Or.inl hp
        · exact Or.inr ⟨l.thread, hl ▸ List.mem_cons_self⟩
      · exact Or.inr ⟨i, List.mem_cons_of_mem l hi⟩

/-- Who has gone down in a step has panicked, or has found the lock poisoned. -/
theorem step_down {down : τ → Bool} (hup : ∀ t, down t = false → (next t).StaysUp down)
    {s s' : State ι σ τ} {l : Label ι} (hstep : step next s l = some s') {i : ι}
    (hi : down (s'.threads i) = true) :
    down (s.threads i) = true ∨ l = .panic i ∨ s.poisoned = true := by
  by_cases hdown : down (s.threads i) = true
  · exact Or.inl hdown
  refine Or.inr ?_
  by_cases hthread : i = l.thread
  · have hstays := hup _ (Bool.eq_false_iff.mpr hdown)
    rcases l with j | j
    · change i = j at hthread
      rw [hthread] at hi hstays
      rcases State.go_cases hstep with ⟨enter, dead, hnext, -, hp, -⟩ |
        ⟨enter, dead, hnext, -, -, rfl⟩ | ⟨t, hnext, rfl⟩ | ⟨go, dead, hnext, rfl⟩
      · exact Or.inr hp
      -- who is down now but was not before would have gone down by a step of its own
      · rw [hnext] at hstays
        change down (Function.update s.threads j (enter s.shared) j) = true at hi
        rw [Function.update_self, hstays] at hi
        cases hi
      · rw [hnext] at hstays
        change down (Function.update s.threads j t j) = true at hi
        rw [Function.update_self, show down t = false from hstays] at hi
        cases hi
      · rw [hnext] at hstays
        change down (Function.update s.threads j (go s.shared).2 j) = true at hi
        rw [Function.update_self, hstays] at hi
        cases hi
    · exact Or.inl (congrArg Label.panic hthread.symm)
  · -- another thread's step
    rw [step_other hstep hthread] at hi
    exact absurd hi hdown

/-- Who has gone down in a run has panicked, or has found the lock poisoned. -/
theorem run_down {down : τ → Bool} (hup : ∀ t, down t = false → (next t).StaysUp down)
    {s s' : State ι σ τ} {ls : List (Label ι)} (hrun : run (step next) s ls = some s') {i : ι}
    (hi : down (s'.threads i) = true) :
    down (s.threads i) = true ∨ .panic i ∈ ls ∨ s'.poisoned = true := by
  induction ls generalizing s with
  | nil =>
      cases hrun
      exact Or.inl hi
  | cons l ls ih =>
      obtain ⟨s1, h1, hrun⟩ := run_cons_some _ hrun
      rcases ih hrun with hdown | hpanic | hp
      · rcases step_down hup h1 hdown with hdown | hl | hp
        · exact Or.inl hdown
        · exact Or.inr (Or.inl (hl ▸ List.mem_cons_self))
        · exact Or.inr (Or.inr ((run_poisoned hrun).1 ((step_poisoned h1).1 hp)))
      · exact Or.inr (Or.inl (List.mem_cons_of_mem l hpanic))
      · exact Or.inr (Or.inr hp)

end System

end Mutex
