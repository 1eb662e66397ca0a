/-
Guarded, executable transition systems.

A system is a step function `step : σ → ℓ → Option σ`: `some s'` when the
label is enabled in the state, `none` otherwise. The labels of a run carry the
scheduler's choices, so a run is a list of labels and "for every interleaving"
is "for every list of labels".

Three rules are proved once and used by every system built on top. An
invariant of one step is an invariant of a run (`run_invariant`). The same
holds when only the steps meeting a condition preserve it
(`guarded_invariant`). And when, under the invariant, a step keeps a property
exactly if it meets the condition, the property holds all along a run exactly
if every step of the run meets the condition (`always_iff_guarded`).
-/
import Mathlib.Tactic.Common

set_option autoImplicit false

namespace Transition

variable {σ ℓ : Type*} (step : σ → ℓ → Option σ)

/-! ## Runs -/

/-- Execute the labels in order; `none` as soon as one of them is disabled. -/
def run : σ → List ℓ → Option σ
  | s, [] => some s
  | s, l :: ls => (step s l).bind fun s' => run s' ls

@[simp] theorem run_nil (s : σ) : run step s [] = some s := rfl

theorem run_cons (s : σ) (l : ℓ) (ls : List ℓ) :
    run step s (l :: ls) = (step s l).bind fun s' => run step s' ls := rfl

/-- The first step of a run. -/
theorem run_cons_some {s s' : σ} {l : ℓ} {ls : List ℓ} (h : run step s (l :: ls) = some s') :
    ∃ s1, step s l = some s1 ∧ run step s1 ls = some s' := by
  rw [run_cons] at h
  exact Option.bind_eq_some_iff.mp h

theorem run_append (s : σ) (ls ms : List ℓ) :
    run step s (ls ++ ms) = (run step s ls).bind fun s' => run step s' ms := by
  induction ls generalizing s with
  | nil => rfl
  | cons l ls ih =>
      rw [List.cons_append, run_cons, run_cons]
      cases step s l with
      | none => rfl
      | some s1 => exact ih s1

/-- A run that is one step longer: the state before the last step, and the step. -/
theorem run_snoc {s s2 : σ} {ls : List ℓ} {l : ℓ} (h : run step s (ls ++ [l]) = some s2) :
    ∃ s1, run step s ls = some s1 ∧ step s1 l = some s2 := by
  rw [run_append] at h
  cases h1 : run step s ls with
  | none => rw [h1] at h; cases h
  | some s1 =>
      rw [h1, Option.bind_some, run_cons] at h
      cases h2 : step s1 l with
      | none => rw [h2] at h; cases h
      | some s3 =>
          rw [h2] at h
          exact ⟨s1, rfl, h2.trans h⟩

/-- What one step preserves, a run preserves. -/
theorem run_invariant {Inv : σ → Prop}
    (hstep : ∀ s l s', Inv s → step s l = some s' → Inv s')
    {s s' : σ} {ls : List ℓ} (hs : Inv s) (h : run step s ls = some s') : Inv s' := by
  induction ls generalizing s with
  | nil => cases h; exact hs
  | cons l ls ih =>
      rw [run_cons] at h
      cases h1 : step s l with
      | none => rw [h1] at h; cases h
      | some s1 =>
          rw [h1] at h
          exact ih (hstep s l s1 hs h1) h

/-- Two systems in lockstep: each step of the first is matched by a step of the
second, under a relation that may look at the labels so far. -/
theorem run_lockstep {τ m : Type*} {step' : τ → m → Option τ} {f : ℓ → m} {ok : ℓ → Prop}
    {R : σ → List ℓ → τ → Prop}
    (hstep : ∀ s past t l s', R s past t → ok l → step s l = some s' →
      ∃ t', step' t (f l) = some t' ∧ R s' (past ++ [l]) t')
    {s s' : σ} {past ls : List ℓ} {t : τ} (hR : R s past t) (hok : ∀ l ∈ ls, ok l)
    (h : run step s ls = some s') :
    ∃ t', run step' t (ls.map f) = some t' ∧ R s' (past ++ ls) t' := by
  induction ls generalizing s past t with
  | nil =>
      cases h
      rw [List.append_nil]
      exact ⟨t, rfl, hR⟩
  | cons l ls ih =>
      rw [run_cons] at h
      rcases h1 : step s l with _ | s1
      · rw [h1] at h
        cases h
      · rw [h1] at h
        obtain ⟨t1, ht1, hR1⟩ := hstep s past t l s1 hR (hok l List.mem_cons_self) h1
        obtain ⟨t', ht', hR'⟩ := ih hR1 (fun x hx => hok x (List.mem_cons_of_mem l hx)) h
        refine ⟨t', ?_, ?_⟩
        · rw [List.map_cons, run_cons, ht1]
          exact ht'
        · rw [List.append_assoc] at hR'
          exact hR'

/-- Forward simulation: each step of the first system is matched by some steps of
the second, and so is each run. -/
theorem run_simulated {τ m : Type*} {step' : τ → m → Option τ} {R : σ → τ → Prop}
    (hstep : ∀ s l s' t, R s t → step s l = some s' →
      ∃ ms t', run step' t ms = some t' ∧ R s' t')
    {s s' : σ} {ls : List ℓ} {t : τ} (hR : R s t) (h : run step s ls = some s') :
    ∃ ms t', run step' t ms = some t' ∧ R s' t' := by
  induction ls generalizing s t with
  | nil =>
      cases h
      exact ⟨[], t, rfl, hR⟩
  | cons l ls ih =>
      obtain ⟨s1, h1, hrest⟩ := run_cons_some step h
      obtain ⟨ms, t1, hrun1, hR1⟩ := hstep s l s1 t hR h1
      obtain ⟨ms', t', hrun', hR'⟩ := ih hR1 hrest
      refine ⟨ms ++ ms', t', ?_, hR'⟩
      rw [run_append, hrun1]
      exact hrun'

/-- A run is no longer than a measure that each of its steps lowers. -/
theorem run_length_le {μ : σ → ℕ} {ok : ℓ → Prop}
    (hstep : ∀ s l s', ok l → step s l = some s' → μ s' < μ s)
    {s s' : σ} {ls : List ℓ} (hok : ∀ l ∈ ls, ok l) (h : run step s ls = some s') :
    ls.length + μ s' ≤ μ s := by
  induction ls generalizing s with
  | nil =>
      cases h
      exact Nat.le_of_eq (Nat.zero_add _)
  | cons l ls ih =>
      obtain ⟨s1, h1, hrest⟩ := run_cons_some step h
      have hless := hstep s l s1 (hok l List.mem_cons_self) h1
      have hle := ih (fun m hm => hok m (List.mem_cons_of_mem l hm)) hrest
      rw [List.length_cons]
      omega

/-! ## Runs whose steps meet a condition -/

/-- Every enabled step of the run meets `ok`, a condition on the state before
the step and on the label. -/
def Guarded (ok : σ → ℓ → Prop) : σ → List ℓ → Prop
  | _, [] => True
  | s, l :: ls => ∀ s', step s l = some s' → ok s l ∧ Guarded ok s' ls

/-- `P` holds in every state the run goes through, the first and the last included. -/
def Always (P : σ → Prop) : σ → List ℓ → Prop
  | s, [] => P s
  | s, l :: ls => P s ∧ ∀ s', step s l = some s' → Always P s' ls

theorem Always.head {P : σ → Prop} {s : σ} {ls : List ℓ} (h : Always step P s ls) : P s := by
  rcases ls with _ | ⟨l, ls⟩
  · exact h
  · exact h.1

/-- A run is guarded whose first step meets the condition and whose rest is. -/
theorem Always.cons {P : σ → Prop} {s s1 : σ} {l : ℓ} {ls : List ℓ} (hs : P s)
    (h1 : step s l = some s1) (hrest : Always step P s1 ls) : Always step P s (l :: ls) := by
  refine ⟨hs, fun s' hs' => ?_⟩
  rw [h1] at hs'
  rw [← Option.some.inj hs']
  exact hrest

theorem Guarded.cons {ok : σ → ℓ → Prop} {s s1 : σ} {l : ℓ} {ls : List ℓ}
    (h1 : step s l = some s1) (hok : ok s l) (hrest : Guarded step ok s1 ls) :
    Guarded step ok s (l :: ls) := by
  intro s' hs'
  rw [h1] at hs'
  rw [← Option.some.inj hs']
  exact ⟨hok, hrest⟩

/-- A weaker condition guards at least as many runs. -/
theorem Guarded.mono {ok ok' : σ → ℓ → Prop} (himp : ∀ s l, ok s l → ok' s l)
    {s : σ} {ls : List ℓ} (h : Guarded step ok s ls) : Guarded step ok' s ls := by
  induction ls generalizing s with
  | nil => trivial
  | cons l ls ih =>
      intro s' hs'
      obtain ⟨hok, hrest⟩ := h s' hs'
      exact ⟨himp s l hok, ih hrest⟩

/-- The last step of a guarded run meets the condition. -/
theorem Guarded.last {ok : σ → ℓ → Prop} {s s1 s2 : σ} {ls : List ℓ} {l : ℓ}
    (h : Guarded step ok s (ls ++ [l])) (h1 : run step s ls = some s1)
    (h2 : step s1 l = some s2) : ok s1 l := by
  induction ls generalizing s with
  | nil =>
      cases h1
      exact (h s2 h2).1
  | cons m ls ih =>
      rw [run_cons] at h1
      cases hm : step s m with
      | none => rw [hm] at h1; cases h1
      | some s3 =>
          rw [hm] at h1
          exact ih (h s3 hm).2 h1

/-- An invariant that the steps meeting the condition preserve holds at the end
of a guarded run. -/
theorem guarded_invariant {ok : σ → ℓ → Prop} {Inv : σ → Prop}
    (hstep : ∀ s l s', Inv s → ok s l → step s l = some s' → Inv s')
    {s s' : σ} {ls : List ℓ} (hs : Inv s) (hg : Guarded step ok s ls)
    (h : run step s ls = some s') : Inv s' := by
  induction ls generalizing s with
  | nil => cases h; exact hs
  | cons l ls ih =>
      rw [run_cons] at h
      cases h1 : step s l with
      | none => rw [h1] at h; cases h
      | some s1 =>
          rw [h1] at h
          obtain ⟨hok, hrest⟩ := hg s1 h1
          exact ih (hstep s l s1 hs hok h1) hrest h

/-- The exact condition of a property of runs: when the invariant gives the
property, a step that meets the condition keeps the invariant, and a step that
misses it breaks the property at once. -/
theorem always_iff_guarded {ok : σ → ℓ → Prop} {Inv P : σ → Prop}
    (hP : ∀ s, Inv s → P s)
    (hok : ∀ s l s', Inv s → step s l = some s' → ok s l → Inv s')
    (hbad : ∀ s l s', Inv s → step s l = some s' → ¬ ok s l → ¬ P s')
    {s : σ} (ls : List ℓ) (hs : Inv s) :
    Always step P s ls ↔ Guarded step ok s ls := by
  induction ls generalizing s with
  | nil => exact ⟨fun _ => trivial, fun _ => hP s hs⟩
  | cons l ls ih =>
      constructor
      · rintro ⟨-, hrest⟩ s' hs'
        by_cases hc : ok s l
        · exact ⟨hc, (ih (hok s l s' hs hs' hc)).mp (hrest s' hs')⟩
        · exact absurd ((hrest s' hs').head step) (hbad s l s' hs hs' hc)
      · intro hg
        refine ⟨hP s hs, fun s' hs' => ?_⟩
        obtain ⟨hc, hrest⟩ := hg s' hs'
        exact (ih (hok s l s' hs hs' hc)).mpr hrest

/-- A property that holds all along a run holds in the state the run ends in. -/
theorem Always.last {P : σ → Prop} {s s' : σ} {ls : List ℓ}
    (h : Always step P s ls) (hr : run step s ls = some s') : P s' := by
  induction ls generalizing s with
  | nil => cases hr; exact h
  | cons l ls ih =>
      rw [run_cons] at hr
      cases h1 : step s l with
      | none => rw [h1] at hr; cases hr
      | some s1 =>
          rw [h1] at hr
          exact ih (h.2 s1 h1) hr

/-! ## Histories

A history is a list that only grows at its end. -/

/-- Splitting a history that has just grown: at the new element, or before it. -/
theorem split_snoc {α : Type*} {l pre post : List α} {x y : α} (h : l ++ [x] = pre ++ y :: post) :
    (pre = l ∧ y = x) ∨ ∃ front, l = pre ++ y :: front := by
  rcases List.eq_nil_or_concat post with rfl | ⟨front, z, rfl⟩
  · obtain ⟨hpre, hlast⟩ := List.append_inj' h rfl
    exact Or.inl ⟨hpre.symm, (List.singleton_inj.mp hlast).symm⟩
  · rw [List.concat_eq_append, ← List.cons_append, ← List.append_assoc] at h
    obtain ⟨hpre, -⟩ := List.append_inj' h rfl
    exact Or.inr ⟨front, hpre⟩

theorem filterMap_snoc {α β : Type*} (f : α → Option β) (l : List α) (x : α) :
    (l ++ [x]).filterMap f = l.filterMap f ++ (f x).toList := by
  rw [List.filterMap_append]
  rcases hx : f x with _ | y
  · rw [List.filterMap_cons_none hx]
    rfl
  · rw [List.filterMap_cons_some hx]
    rfl

theorem countP_snoc {α : Type*} (p : α → Bool) (l : List α) (x : α) :
    (l ++ [x]).countP p = l.countP p + if p x then 1 else 0 := by
  rw [List.countP_append, List.countP_singleton]

/-- What the elements of a history add one after the other, each seeing the ones
before it. -/
def along {α β : Type*} (f : List α → α → List β) : List α → List α → List β
  | _, [] => []
  | before, x :: l => f before x ++ along f (before ++ [x]) l

theorem along_snoc {α β : Type*} (f : List α → α → List β) (before l : List α) (x : α) :
    along f before (l ++ [x]) = along f before l ++ f (before ++ l) x := by
  induction l generalizing before with
  | nil =>
      rw [List.nil_append, List.append_nil]
      exact List.append_nil _
  | cons y l ih =>
      rw [List.cons_append, along, ih, ← List.append_assoc, List.append_assoc before]
      rfl

theorem along_flatMap {α β γ : Type*} (f : List α → α → List β) (g : β → List γ)
    (before l : List α) :
    (along f before l).flatMap g = along (fun past x => (f past x).flatMap g) before l := by
  induction l generalizing before with
  | nil => rfl
  | cons x l ih =>
      rw [along, along, List.flatMap_append, ih]

end Transition
