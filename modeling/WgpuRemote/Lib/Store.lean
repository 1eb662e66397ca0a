/-
Maps from keys to optional values, as functions, and what a sequence of
insertions and removals leaves in them.

The map after a sequence of operations is read off the sequence itself: a key
holds a value exactly if some operation put it there and no later operation
touched the key (`Store.run_eq_some_iff`).
-/
import Mathlib.Tactic.Common
import Mathlib.Data.List.Induction

set_option autoImplicit false

namespace Store

variable {κ υ : Type} [DecidableEq κ]

/-- `HashMap::insert`: a second insertion replaces the value. -/
def insert (s : κ → Option υ) (k : κ) (v : υ) : κ → Option υ :=
  fun x => if x = k then some v else s x

/-- `HashMap::remove`. -/
def remove (s : κ → Option υ) (k : κ) : κ → Option υ :=
  fun x => if x = k then none else s x

@[simp] theorem insert_self (s : κ → Option υ) (k : κ) (v : υ) : insert s k v k = some v :=
  if_pos rfl

theorem insert_of_ne (s : κ → Option υ) {k x : κ} (v : υ) (h : x ≠ k) :
    insert s k v x = s x :=
  if_neg h

@[simp] theorem remove_self (s : κ → Option υ) (k : κ) : remove s k k = none :=
  if_pos rfl

theorem remove_of_ne (s : κ → Option υ) {k x : κ} (h : x ≠ k) : remove s k x = s x :=
  if_neg h

/-- Removing a key that is not there changes nothing. -/
theorem remove_of_none {s : κ → Option υ} {k : κ} (h : s k = none) : remove s k = s := by
  funext x
  by_cases hx : x = k
  · rw [hx, remove_self, h]
  · exact remove_of_ne s hx

/-! ## Sequences of operations -/

/-- An operation on the map. -/
inductive Op (κ υ : Type) where
  | put (k : κ) (v : υ)
  | del (k : κ)
  | skip

/-- The operation reads or writes the entry at `k`. -/
def Op.touches (k : κ) : Op κ υ → Prop
  | .put x _ => x = k
  | .del x => x = k
  | .skip => False

def Op.apply : Op κ υ → (κ → Option υ) → κ → Option υ
  | .put k v, s => insert s k v
  | .del k, s => remove s k
  | .skip, s => s

/-- The operations one after another. -/
def run (s : κ → Option υ) (ops : List (Op κ υ)) : κ → Option υ :=
  ops.foldl (fun s o => o.apply s) s

@[simp] theorem run_nil (s : κ → Option υ) : run s [] = s := rfl

theorem run_snoc (s : κ → Option υ) (ops : List (Op κ υ)) (o : Op κ υ) :
    run s (ops ++ [o]) = o.apply (run s ops) := by
  rw [run, List.foldl_append]
  rfl

/-- An operation that does not touch a key leaves its entry alone. -/
theorem Op.apply_of_not_touches {o : Op κ υ} {k : κ} (h : ¬ o.touches k) (s : κ → Option υ) :
    o.apply s k = s k := by
  cases o with
  | put x v => exact insert_of_ne s v (fun hk => h hk.symm)
  | del x => exact remove_of_ne s (fun hk => h hk.symm)
  | skip => rfl

theorem run_append (s : κ → Option υ) (ops ops' : List (Op κ υ)) :
    run s (ops ++ ops') = run (run s ops) ops' := List.foldl_append

/-- Operations that do not touch a key leave its entry alone. -/
theorem run_of_untouched {s : κ → Option υ} {ops : List (Op κ υ)} {k : κ}
    (h : ∀ o ∈ ops, ¬ o.touches k) : run s ops k = s k := by
  induction ops generalizing s with
  | nil => rfl
  | cons o ops ih =>
      show run (o.apply s) ops k = s k
      rw [ih fun p hp => h p (List.mem_cons_of_mem o hp)]
      exact Op.apply_of_not_touches (h o List.mem_cons_self) s

/-- An entry is what the one operation that touches its key left there. -/
theorem run_of_touched_once {s : κ → Option υ} {before after : List (Op κ υ)} {o : Op κ υ} {k : κ}
    (hbefore : ∀ p ∈ before, ¬ p.touches k) (hafter : ∀ p ∈ after, ¬ p.touches k) :
    run s (before ++ o :: after) k = o.apply (run s before) k ∧ run s before k = s k := by
  refine ⟨?_, run_of_untouched hbefore⟩
  rw [run_append]
  exact run_of_untouched hafter

/-- What an operation leaves at a key depends on what was there, and nowhere else. -/
theorem Op.apply_congr {s t : κ → Option υ} {k : κ} (o : Op κ υ) (h : s k = t k) :
    o.apply s k = o.apply t k := by
  rcases o with ⟨x, v⟩ | x | _
  · show (if k = x then some v else s k) = if k = x then some v else t k
    rw [h]
  · show (if k = x then none else s k) = if k = x then none else t k
    rw [h]
  · exact h

/-! ## What is there afterwards -/

/-- The operation puts a value at `k`. -/
def Op.puts (k : κ) : Op κ υ → Prop
  | .put x _ => x = k
  | .del _ => False
  | .skip => False

/-- `k` was deleted, and nothing was put there afterwards. -/
def Deleted (ops : List (Op κ υ)) (k : κ) : Prop :=
  ∃ before after, ops = before ++ .del k :: after ∧ ∀ o ∈ after, ¬ o.puts k

/-- A missing entry stays missing until something is put there. -/
theorem run_of_not_puts {s : κ → Option υ} {ops : List (Op κ υ)} {k : κ} (hs : s k = none)
    (h : ∀ o ∈ ops, ¬ o.puts k) : run s ops k = none := by
  induction ops generalizing s with
  | nil => exact hs
  | cons o ops ih =>
      have hrest : ∀ p ∈ ops, ¬ p.puts k := fun p hp => h p (List.mem_cons_of_mem o hp)
      have ho : ¬ o.puts k := h o List.mem_cons_self
      show run (o.apply s) ops k = none
      refine ih ?_ hrest
      rcases o with ⟨x, v⟩ | x | _
      · rw [← hs]
        exact insert_of_ne s v fun hk => ho hk.symm
      · show (if k = x then none else s k) = none
        rw [hs, ite_self]
      · exact hs

theorem Deleted.run_eq_none {s : κ → Option υ} {ops : List (Op κ υ)} {k : κ} (h : Deleted ops k) :
    run s ops k = none := by
  obtain ⟨before, after, rfl, hafter⟩ := h
  rw [run_append]
  show run ((Op.del k).apply (run s before)) after k = none
  exact run_of_not_puts (remove_self _ k) hafter

/-- A key at which something was put, and where nothing is, was deleted. -/
theorem deleted_of_run_eq_none {s : κ → Option υ} {ops : List (Op κ υ)} {k : κ} {o : Op κ υ}
    (ho : o ∈ ops) (hputs : o.puts k) (h : run s ops k = none) : Deleted ops k := by
  induction ops using List.reverseRecOn with
  | nil => exact absurd ho List.not_mem_nil
  | append_singleton ops p ih =>
      rw [run_snoc] at h
      by_cases hp : p.puts k ∨ p = .del k
      · rcases hp with hp | hp
        · -- a put is not undone by nothing
          rcases p with ⟨x, v⟩ | x | _
          · rw [show x = k from hp] at h
            exact absurd ((insert_self _ k v).symm.trans h) (Option.some_ne_none v)
          · exact hp.elim
          · exact hp.elim
        · rw [hp]
          exact ⟨ops, [], rfl, fun q hq => absurd hq List.not_mem_nil⟩
      -- an operation at another key does not matter
      · have hnot : ¬ p.touches k := by
          intro ht
          rcases p with ⟨x, v⟩ | x | _
          · exact hp (Or.inl ht)
          · exact hp (Or.inr (congrArg Op.del ht))
          · exact ht
        rw [Op.apply_of_not_touches hnot] at h
        have hmem : o ∈ ops := by
          rcases List.mem_append.mp ho with ho | ho
          · exact ho
          · rw [List.mem_singleton.mp ho] at hputs
            exact absurd (Or.inl hputs) hp
        obtain ⟨before, after, rfl, hafter⟩ := ih hmem h
        refine ⟨before, after ++ [p], by simp, ?_⟩
        intro q hq
        rcases List.mem_append.mp hq with hq | hq
        · exact hafter q hq
        · rw [List.mem_singleton.mp hq]
          exact fun hputs => hp (Or.inl hputs)

/-- `v` was put at `k` and nothing touched `k` afterwards. -/
def Holds (ops : List (Op κ υ)) (k : κ) (v : υ) : Prop :=
  ∃ before after, ops = before ++ .put k v :: after ∧ ∀ o ∈ after, ¬ o.touches k

omit [DecidableEq κ] in
theorem Holds.snoc {ops : List (Op κ υ)} {k : κ} {v : υ} {o : Op κ υ} (h : Holds ops k v)
    (ho : ¬ o.touches k) : Holds (ops ++ [o]) k v := by
  obtain ⟨before, after, rfl, hafter⟩ := h
  refine ⟨before, after ++ [o], by simp, fun p hp => ?_⟩
  rcases List.mem_append.mp hp with hp | hp
  · exact hafter p hp
  · rw [List.mem_singleton.mp hp]
    exact ho

omit [DecidableEq κ] in
/-- The last operation is either the put itself or one that does not touch the key. -/
theorem Holds.last {ops : List (Op κ υ)} {k : κ} {v : υ} {o : Op κ υ}
    (h : Holds (ops ++ [o]) k v) : o = .put k v ∨ ¬ o.touches k ∧ Holds ops k v := by
  obtain ⟨before, after, heq, hafter⟩ := h
  rcases List.eq_nil_or_concat after with rfl | ⟨front, last, rfl⟩
  · obtain ⟨-, hlast⟩ := List.append_inj' heq rfl
    exact Or.inl (List.singleton_inj.mp hlast)
  · rw [List.concat_eq_append] at heq hafter
    rw [← List.cons_append, ← List.append_assoc] at heq
    obtain ⟨hops, hlast⟩ := List.append_inj' heq rfl
    rw [List.singleton_inj.mp hlast]
    refine Or.inr ⟨hafter last (by simp), before, front, hops, fun p hp => ?_⟩
    exact hafter p (List.mem_append_left _ hp)

/-- What a sequence of operations leaves in an empty map. -/
theorem run_eq_some_iff (ops : List (Op κ υ)) (k : κ) (v : υ) :
    run (fun _ => none) ops k = some v ↔ Holds ops k v := by
  induction ops using List.reverseRecOn with
  | nil =>
      constructor
      · intro h
        cases h
      · rintro ⟨before, after, heq, -⟩
        simp at heq
  | append_singleton ops o ih =>
      rw [run_snoc]
      by_cases ho : o.touches k
      · -- a touching operation decides on its own
        have hlast : Holds (ops ++ [o]) k v ↔ o = .put k v := by
          constructor
          · intro h
            exact h.last.resolve_right (fun hn => hn.1 ho)
          · rintro rfl
            exact ⟨ops, [], rfl, fun p hp => by cases hp⟩
        rw [hlast]
        cases o with
        | put x w =>
            subst ho
            rw [Op.apply, insert_self]
            simp
        | del x =>
            subst ho
            rw [Op.apply, remove_self]
            simp
        | skip => cases ho
      · rw [Op.apply_of_not_touches ho, ih]
        constructor
        · intro h
          exact h.snoc ho
        · intro h
          rcases h.last with rfl | ⟨-, h⟩
          · exact absurd rfl ho
          · exact h

end Store
