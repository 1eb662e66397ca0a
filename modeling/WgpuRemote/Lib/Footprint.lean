/-
Computations that look keys up in a map and fail on the first one missing.

`Resolves b good S` says what such a computation does in terms of its footprint
`S`, the keys it looks up: it sees nothing of the map but the entries at `S`;
it succeeds exactly when all of `S` is there and the computation has no defect
of its own (`good`); and when it fails, it is over a missing key or over such a
defect. The rules follow the computation's structure.
-/
import Mathlib.Tactic.Common

set_option autoImplicit false

namespace Footprint

variable {κ υ ε α β : Type}

/-- The two maps have the same entries at `S`. -/
def AgreeOn (S : List κ) (t t' : κ → Option υ) : Prop := ∀ k ∈ S, t k = t' k

/-- The map has an entry at every key of `S`. -/
def Present (S : List κ) (t : κ → Option υ) : Prop := ∀ k ∈ S, (t k).isSome

theorem AgreeOn.append {S S' : List κ} {t t' : κ → Option υ} :
    AgreeOn (S ++ S') t t' ↔ AgreeOn S t t' ∧ AgreeOn S' t t' := List.forall_mem_append

theorem Present.append {S S' : List κ} {t : κ → Option υ} :
    Present (S ++ S') t ↔ Present S t ∧ Present S' t := List.forall_mem_append

theorem AgreeOn.symm {S : List κ} {t t' : κ → Option υ} (h : AgreeOn S t t') : AgreeOn S t' t :=
  fun k hk => (h k hk).symm

/-- Maps that agree on `S` have the same part of it. -/
theorem AgreeOn.present {S : List κ} {t t' : κ → Option υ} (h : AgreeOn S t t') :
    Present S t ↔ Present S t' := by
  constructor
  · intro hp k hk
    rw [← h k hk]
    exact hp k hk
  · intro hp k hk
    rw [h k hk]
    exact hp k hk

@[simp] theorem Present.nil (t : κ → Option υ) : Present [] t := fun _ hk => by cases hk

theorem Present.singleton {k : κ} {t : κ → Option υ} : Present [k] t ↔ (t k).isSome := by
  constructor
  · intro h
    exact h k (List.mem_singleton_self k)
  · intro h x hx
    rw [List.mem_singleton.mp hx]
    exact h

variable (Missing Defect : ε → Prop)

/-- What a computation that looks up the keys `S` does. -/
structure Resolves (b : (κ → Option υ) → Except ε α) (good : Prop) (S : List κ) : Prop where
  congr : ∀ t t', AgreeOn S t t' → b t = b t'
  ok_iff : ∀ t, (∃ a, b t = .ok a) ↔ good ∧ Present S t
  fails : ∀ t e, b t = .error e → Missing e ∨ ¬ good ∧ Defect e

namespace Resolves

variable {Missing Defect}

theorem pure (a : α) : Resolves Missing Defect (fun _ : κ → Option υ => .ok a) True [] where
  congr _ _ _ := rfl
  ok_iff t := ⟨fun _ => ⟨trivial, Present.nil t⟩, fun _ => ⟨a, rfl⟩⟩
  fails _ _ h := by cases h

/-- A defect: the computation fails whatever the map holds. -/
theorem error {e : ε} (he : Defect e) (S : List κ) :
    Resolves Missing Defect (fun _ : κ → Option υ => (.error e : Except ε α)) False S where
  congr _ _ _ := rfl
  ok_iff _ := ⟨fun ⟨_, h⟩ => by (cases h), fun h => h.1.elim⟩
  fails _ _ h := by
    cases h
    exact Or.inr ⟨id, he⟩

/-- One lookup. -/
theorem lookup {k : κ} {b : (κ → Option υ) → Except ε α} {e : ε} {f : υ → α} (he : Missing e)
    (hnone : ∀ t, t k = none → b t = .error e) (hsome : ∀ t v, t k = some v → b t = .ok (f v)) :
    Resolves Missing Defect b True [k] where
  congr t t' h := by
    -- the two tables have the same entry at the key
    have hk := h k (List.mem_singleton_self k)
    cases hv : t k with
    | none => rw [hnone t hv, hnone t' (hk.symm.trans hv)]
    | some v => rw [hsome t v hv, hsome t' v (hk.symm.trans hv)]
  ok_iff t := by
    rw [Present.singleton]
    cases hv : t k with
    | none => simp [hnone t hv]
    | some v => simp [hsome t v hv]
  fails t e' h := by
    cases hv : t k with
    | none =>
        rw [hnone t hv] at h
        cases h
        exact Or.inl he
    | some v =>
        rw [hsome t v hv] at h
        cases h

/-- Sequencing adds up the footprints. -/
theorem bind {b : (κ → Option υ) → Except ε α} {f : (κ → Option υ) → α → Except ε β}
    {good good' : Prop} {S S' : List κ} (hb : Resolves Missing Defect b good S)
    (hf : ∀ a, Resolves Missing Defect (fun t => f t a) good' S') :
    Resolves Missing Defect (fun t => b t >>= f t) (good ∧ good') (S ++ S') where
  congr t t' h := by
    obtain ⟨h1, h2⟩ := AgreeOn.append.mp h
    rw [hb.congr t t' h1, show f t = f t' from funext fun a => (hf a).congr t t' h2]
  ok_iff t := by
    rw [Present.append]
    cases hv : b t with
    | error e =>
        -- the first part has failed, so it was not good or something is missing
        have hno : ¬ (good ∧ Present S t) := fun h => by
          obtain ⟨a, ha⟩ := (hb.ok_iff t).mpr h
          rw [hv] at ha
          cases ha
        constructor
        · rintro ⟨a, ha⟩
          cases ha
        · rintro ⟨⟨hg, -⟩, hp, -⟩
          exact absurd ⟨hg, hp⟩ hno
    | ok a =>
        obtain ⟨hg, hp⟩ := (hb.ok_iff t).mp ⟨a, hv⟩
        have hrest := (hf a).ok_iff t
        constructor
        · intro h
          obtain ⟨hg', hp'⟩ := hrest.mp h
          exact ⟨⟨hg, hg'⟩, hp, hp'⟩
        · rintro ⟨⟨-, hg'⟩, -, hp'⟩
          exact hrest.mpr ⟨hg', hp'⟩
  fails t e h := by
    change b t >>= f t = .error e at h
    cases hv : b t with
    | error e' =>
        rw [hv] at h
        cases h
        rcases hb.fails t e hv with hm | ⟨hg, hd⟩
        · exact Or.inl hm
        · exact Or.inr ⟨fun hgood => hg hgood.1, hd⟩
    | ok a =>
        rw [hv] at h
        rcases (hf a).fails t e h with hm | ⟨hg, hd⟩
        · exact Or.inl hm
        · exact Or.inr ⟨fun hgood => hg hgood.2, hd⟩

/-- Only the meaning of `good` and the keys of the footprint matter. -/
theorem of_iff {b : (κ → Option υ) → Except ε α} {good good' : Prop} {S S' : List κ}
    (h : Resolves Missing Defect b good S) (hg : good ↔ good') (hS : S = S') :
    Resolves Missing Defect b good' S' := by
  rw [← hg, ← hS]
  exact h

/-- A final `return`. -/
theorem bind_pure {b : (κ → Option υ) → Except ε α} {good : Prop} {S : List κ}
    (hb : Resolves Missing Defect b good S) (f : α → β) :
    Resolves Missing Defect (fun t => b t >>= fun a => Pure.pure (f a)) good S :=
  (hb.bind fun a => pure (f a)).of_iff (by simp) (List.append_nil S)

theorem map {b : (κ → Option υ) → Except ε α} {good : Prop} {S : List κ}
    (hb : Resolves Missing Defect b good S) (f : α → β) :
    Resolves Missing Defect (fun t => (b t).map f) good S := by
  have hmap : (fun t => (b t).map f) = fun t => b t >>= fun a => Pure.pure (f a) := by
    funext t
    cases b t with
    | error e => rfl
    | ok a => rfl
  rw [hmap]
  exact hb.bind_pure f

/-- `iter().map(f).collect::<Result<Vec<_>, _>>()`. -/
theorem mapM {f : (κ → Option υ) → α → Except ε β} {good : α → Prop} {S : α → List κ}
    (hf : ∀ a, Resolves Missing Defect (fun t => f t a) (good a) (S a)) (l : List α) :
    Resolves Missing Defect (fun t => l.mapM (f t)) (∀ a ∈ l, good a) (l.flatMap S) := by
  induction l with
  | nil =>
      have h : Resolves Missing Defect (fun _ : κ → Option υ => (.ok [] : Except ε (List β))) True [] :=
        pure []
      exact h.of_iff (by simp) rfl
  | cons a l ih =>
      simp only [List.mapM_cons]
      have h := (hf a).bind fun x => ih.bind fun xs => pure (x :: xs)
      exact h.of_iff (by simp) (by simp)

end Resolves

end Footprint
