/-
Computations that make one check after another and stop at the first that fails.

The checks are data, in the order in which the computation makes them; `fails`
gives the error of a check that fails in a state. `Stops b checks` says that this
is all there is to know about how `b` fails: its error is that of the first check
that fails, and without one it succeeds. The rules follow the computation's
structure.
-/
import Mathlib.Tactic.Common

set_option autoImplicit false

namespace Checks

variable {σ γ ε α β : Type}

/-- The error a computation ended in. -/
def error_of : Except ε α → Option ε
  | .error e => some e
  | .ok _ => none

theorem error_of_eq_none {r : Except ε α} : error_of r = none ↔ ∃ a, r = .ok a := by
  rcases r with e | a
  · exact ⟨fun h => absurd h (by simp [error_of]), fun ⟨a, ha⟩ => by cases ha⟩
  · exact ⟨fun _ => ⟨a, rfl⟩, fun _ => rfl⟩

theorem error_of_bind (r : Except ε α) (f : α → Except ε β) :
    error_of (r >>= f) = match r with
      | .error e => some e
      | .ok a => error_of (f a) := by
  rcases r with e | a
  · rfl
  · rfl

variable (fails : σ → γ → Option ε)

/-- The error of the first check that fails. -/
def first (checks : List γ) (s : σ) : Option ε := checks.findSome? (fails s)

theorem first_append (checks checks' : List γ) (s : σ) :
    first fails (checks ++ checks') s = (first fails checks s).or (first fails checks' s) :=
  List.findSome?_append

/-- It is an error of one of them. -/
theorem first_eq_none {checks : List γ} {s : σ} :
    first fails checks s = none ↔ ∀ c ∈ checks, fails s c = none :=
  List.findSome?_eq_none_iff

/-- The computation fails as its checks do. -/
def Stops (b : σ → Except ε α) (checks : List γ) : Prop :=
  ∀ s, error_of (b s) = first fails checks s

namespace Stops

variable {fails}

theorem pure (a : α) : Stops fails (fun _ => .ok a) [] := fun _ => rfl

/-- One check. -/
theorem check {b : σ → Except ε α} {c : γ} (h : ∀ s, error_of (b s) = fails s c) :
    Stops fails b [c] := by
  intro s
  rw [h s, first, List.findSome?_cons]
  rcases fails s c with _ | e
  · rfl
  · rfl

/-- Sequencing: the second computation's checks come after the first's. -/
theorem bind {b : σ → Except ε α} {f : σ → α → Except ε β} {checks checks' : List γ}
    (hb : Stops fails b checks) (hf : ∀ a, Stops fails (fun s => f s a) checks') :
    Stops fails (fun s => b s >>= f s) (checks ++ checks') := by
  intro s
  have hfirst := hb s
  rw [error_of_bind, first_append, ← hfirst]
  rcases b s with e | a
  · rfl
  · exact hf a s

theorem of_eq {b : σ → Except ε α} {checks checks' : List γ} (h : Stops fails b checks)
    (heq : checks = checks') : Stops fails b checks' := by
  rw [← heq]
  exact h

/-- A final `return`. -/
theorem bind_pure {b : σ → Except ε α} {checks : List γ} (hb : Stops fails b checks) (f : α → β) :
    Stops fails (fun s => b s >>= fun a => Pure.pure (f a)) checks :=
  (hb.bind fun a => pure (f a)).of_eq (List.append_nil checks)

theorem map {b : σ → Except ε α} {checks : List γ} (hb : Stops fails b checks) (f : α → β) :
    Stops fails (fun s => (b s).map f) checks := by
  intro s
  show error_of ((b s).map f) = _
  rw [← hb s]
  rcases b s with e | a
  · rfl
  · rfl

/-- `iter().map(f).collect::<Result<Vec<_>, _>>()`. -/
theorem mapM {f : σ → α → Except ε β} {checks : α → List γ}
    (hf : ∀ a, Stops fails (fun s => f s a) (checks a)) (l : List α) :
    Stops fails (fun s => l.mapM (f s)) (l.flatMap checks) := by
  induction l with
  | nil => exact pure []
  | cons a l ih =>
      simp only [List.mapM_cons]
      have h := (hf a).bind fun x => ih.bind_pure fun xs => x :: xs
      exact h.of_eq (List.flatMap_cons).symm

end Stops

end Checks
