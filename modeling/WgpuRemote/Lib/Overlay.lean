/-
Windows of a list, and writes into it.

`view` cuts a window out of a list and `overwrite` puts one back. A history of
writes is applied oldest first (`overwrite_all`), so that the latest write that
covers a position decides it. What is said about histories is said position by
position: a position that no write of a kind covers does not change when the
writes of that kind are left out (`overwrite_all_filter`).
-/
import Mathlib.Tactic.Common

set_option autoImplicit false

namespace Overlay

variable {α κ : Type*}

/-! ## Positions -/

/-- What stands at a position, after one position has changed. -/
theorem get_set {xs : List α} {n k : ℕ} {a b : α} (h : (xs.set n a)[k]? = some b) :
    (k = n ∧ b = a) ∨ (k ≠ n ∧ xs[k]? = some b) := by
  by_cases hk : k = n
  · rw [hk] at h
    have hlt := (List.getElem?_eq_some_iff.mp h).1
    rw [List.length_set] at hlt
    rw [List.getElem?_set_self hlt] at h
    exact Or.inl ⟨hk, (Option.some.inj h).symm⟩
  · rw [List.getElem?_set_ne (Ne.symm hk)] at h
    exact Or.inr ⟨hk, h⟩

theorem get_set_self {xs : List α} {n : ℕ} {a : α} (h : xs[n]? = some a) (b : α) :
    (xs.set n b)[n]? = some b :=
  List.getElem?_set_self (List.getElem?_eq_some_iff.mp h).1

/-- What stands at a position, after the list has grown. -/
theorem get_push {xs : List α} {k : ℕ} {a b : α} (h : (xs ++ [a])[k]? = some b) :
    xs[k]? = some b ∨ (k = xs.length ∧ b = a) := by
  rcases Nat.lt_or_ge k xs.length with hlt | hge
  · rw [List.getElem?_append_left hlt] at h
    exact Or.inl h
  · have hk := (List.getElem?_eq_some_iff.mp h).1
    rw [List.length_append, List.length_singleton] at hk
    have heq : k = xs.length := by omega
    rw [heq, List.getElem?_concat_length] at h
    exact Or.inr ⟨heq, (Option.some.inj h).symm⟩

theorem get_push_of_get {xs : List α} {k : ℕ} {a : α} (h : xs[k]? = some a) (b : α) :
    (xs ++ [b])[k]? = some a := by
  rw [List.getElem?_append_left (List.getElem?_eq_some_iff.mp h).1]
  exact h

/-! ## Windows -/

/-- The elements at `start` up to `stop`. -/
def view (xs : List α) (start stop : ℕ) : List α := (xs.drop start).take (stop - start)

@[simp] theorem view_length (xs : List α) (start stop : ℕ) :
    (view xs start stop).length = min (stop - start) (xs.length - start) := by
  rw [view, List.length_take, List.length_drop]

theorem view_length_of_le {xs : List α} {start stop : ℕ} (h : stop ≤ xs.length) :
    (view xs start stop).length = stop - start := by
  rw [view_length]
  omega

theorem getElem?_view (xs : List α) (start stop i : ℕ) :
    (view xs start stop)[i]? = if i < stop - start then xs[start + i]? else none := by
  rw [view, List.getElem?_take, List.getElem?_drop]

/-- A window of a window. -/
theorem view_view (xs : List α) (a b c d : ℕ) (h : a + d ≤ b) :
    view (view xs a b) c d = view xs (a + c) (a + d) := by
  rw [view, view, view, List.drop_take, List.take_take, List.drop_drop]
  have hwidth : min (d - c) (b - a - c) = a + d - (a + c) := by omega
  rw [hwidth]

/-! ## Writes -/

/-- The elements at `offset` and on replaced by `data`. -/
def overwrite (xs : List α) (offset : ℕ) (data : List α) : List α :=
  xs.take offset ++ data ++ xs.drop (offset + data.length)

theorem overwrite_length {xs data : List α} {offset : ℕ} (h : offset + data.length ≤ xs.length) :
    (overwrite xs offset data).length = xs.length := by
  simp only [overwrite, List.length_append, List.length_take, List.length_drop]
  omega

theorem getElem?_overwrite {xs data : List α} {offset : ℕ} (h : offset + data.length ≤ xs.length)
    (i : ℕ) : (overwrite xs offset data)[i]? =
      if offset ≤ i ∧ i < offset + data.length then data[i - offset]? else xs[i]? := by
  have hlen : (xs.take offset).length = offset := by
    rw [List.length_take]
    omega
  unfold overwrite
  by_cases hlow : i < offset
  · rw [if_neg (by omega), List.append_assoc, List.getElem?_append_left (by omega),
      List.getElem?_take_of_lt hlow]
  · by_cases hhigh : i < offset + data.length
    · rw [if_pos (by omega), List.getElem?_append_left (by rw [List.length_append]; omega),
        List.getElem?_append_right (by omega), hlen]
    · rw [if_neg (by omega), List.getElem?_append_right (by rw [List.length_append]; omega),
        List.length_append, hlen, List.getElem?_drop]
      congr 1
      omega

/-- One write. -/
structure Write (α : Type*) where
  offset : ℕ
  data : List α

/-- Where the write ends. -/
def Write.stop (w : Write α) : ℕ := w.offset + w.data.length

/-- The write decides what is at `i`. -/
def Write.covers (w : Write α) (i : ℕ) : Prop := w.offset ≤ i ∧ i < w.stop

/-- A history of writes, oldest first. -/
def overwrite_all (xs : List α) (ws : List (Write α)) : List α :=
  ws.foldl (fun xs w => overwrite xs w.offset w.data) xs

@[simp] theorem overwrite_all_nil (xs : List α) : overwrite_all xs [] = xs := rfl

theorem overwrite_all_cons (xs : List α) (w : Write α) (ws : List (Write α)) :
    overwrite_all xs (w :: ws) = overwrite_all (overwrite xs w.offset w.data) ws := rfl

theorem overwrite_all_snoc (xs : List α) (ws : List (Write α)) (w : Write α) :
    overwrite_all xs (ws ++ [w]) = overwrite (overwrite_all xs ws) w.offset w.data :=
  List.foldl_append

theorem overwrite_all_length {xs : List α} {ws : List (Write α)}
    (h : ∀ w ∈ ws, w.stop ≤ xs.length) : (overwrite_all xs ws).length = xs.length := by
  induction ws generalizing xs with
  | nil => rfl
  | cons w ws ih =>
      have hw := overwrite_length (h w List.mem_cons_self)
      rw [overwrite_all_cons, ih, hw]
      intro v hv
      rw [hw]
      exact h v (List.mem_cons_of_mem w hv)

/-- Writes that do not cover a position can be left out of the history there. -/
theorem overwrite_all_filter {p : κ × Write α → Bool} {ws : List (κ × Write α)} {xs ys : List α} {i : ℕ}
    (hlen : xs.length = ys.length) (hfits : ∀ w ∈ ws, w.2.stop ≤ xs.length)
    (hskip : ∀ w ∈ ws, p w = false → ¬ w.2.covers i) (hi : xs[i]? = ys[i]?) :
    (overwrite_all xs ((ws.filter p).map Prod.snd))[i]? =
      (overwrite_all ys (ws.map Prod.snd))[i]? := by
  induction ws generalizing xs ys with
  | nil => exact hi
  | cons w ws ih =>
      have hw := hfits w List.mem_cons_self
      have hfits' := fun v hv => hfits v (List.mem_cons_of_mem w hv)
      have hskip' := fun v hv => hskip v (List.mem_cons_of_mem w hv)
      have hwy : w.2.offset + w.2.data.length ≤ ys.length := by
        rw [← hlen]
        exact hw
      rw [List.map_cons, overwrite_all_cons]
      by_cases hp : p w = true
      · rw [List.filter_cons_of_pos hp, List.map_cons, overwrite_all_cons]
        -- the write is made on both sides
        apply ih
        · rw [overwrite_length hw, overwrite_length hwy, hlen]
        · intro v hv
          rw [overwrite_length hw]
          exact hfits' v hv
        · exact hskip'
        · rw [getElem?_overwrite hw, getElem?_overwrite hwy, hi]
      · rw [Bool.not_eq_true] at hp
        rw [List.filter_cons_of_neg (by rw [hp]; decide)]
        apply ih
        · rw [overwrite_length hwy, hlen]
        · exact hfits'
        · exact hskip'
        · -- the write that is left out does not cover the position
          have hnot : ¬ (w.2.offset ≤ i ∧ i < w.2.offset + w.2.data.length) :=
            hskip w List.mem_cons_self hp
          rw [getElem?_overwrite hwy, if_neg hnot, hi]

end Overlay
