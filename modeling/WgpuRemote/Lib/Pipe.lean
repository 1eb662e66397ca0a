/-
Frames over a stream that knows none.

A writer hands the stream a frame in as many pieces as the stream asks for, and a
reader takes it off in pieces that need not be the same. Between the two there are
only units, in their order. What the reader goes by is `need`: how many units, at the
least, are missing from what it has got so far. It never asks for more than these.

A `Lane` is the state of one direction, and `Lane.Carries` says which frames are in
it: those that are written and not read yet, and at most one that is being written.
The rules below say what each movement does to them. None is torn and none is glued
to the next, whatever the pieces were (`Carries.take`).
-/
import Mathlib.Data.List.Basic

set_option autoImplicit false

namespace Pipe

variable {υ : Type*}

/-! ## Frames -/

/-- A frame is as long as its front says: while a part of it is missing, what is
needed is no more than that part, and nothing is needed after it. -/
structure Framed (need : List υ → ℕ) (x : List υ) : Prop where
  whole : need x = 0
  within : ∀ p, p <+: x → p ≠ x → 0 < need p ∧ p.length + need p ≤ x.length

theorem Framed.ne_nil {need : List υ → ℕ} {x : List υ} (h : Framed need x) (hneed : 0 < need []) :
    x ≠ [] := by
  rintro rfl
  rw [h.whole] at hneed
  exact absurd hneed (Nat.lt_irrefl 0)

/-- What needs nothing more is all of the frame. -/
theorem Framed.eq_of_prefix {need : List υ → ℕ} {x p : List υ} (h : Framed need x) (hp : p <+: x)
    (hneed : need p = 0) : p = x := by
  by_contra hne
  obtain ⟨hpos, -⟩ := h.within p hp hne
  omega

/-! ## One direction -/

structure Lane (υ : Type*) where
  /-- What is left to write of the frame being written. -/
  unsent : List υ
  /-- What was written and not read yet. -/
  flying : List υ
  /-- What was read of the frame being read. -/
  got : List υ

namespace Lane

def empty : Lane υ := ⟨[], [], []⟩

/-- The writer turns to a frame. -/
def start (lane : Lane υ) (x : List υ) : Lane υ := { lane with unsent := x }

/-- The stream accepts the next `k` units. -/
def write (lane : Lane υ) (k : ℕ) : Lane υ :=
  { lane with unsent := lane.unsent.drop k, flying := lane.flying ++ lane.unsent.take k }

/-- The stream delivers the next `k` units. -/
def feed (lane : Lane υ) (k : ℕ) : Lane υ :=
  { lane with flying := lane.flying.drop k, got := lane.got ++ lane.flying.take k }

/-- The reader turns to the next frame. -/
def take (lane : Lane υ) : Lane υ := { lane with got := [] }

/-- The frames in a lane: those in the queue are written, and `current` is being
written. -/
structure Carries (need : List υ → ℕ) (lane : Lane υ) (queue : List (List υ))
    (current : Option (List υ)) : Prop where
  framed : ∀ x ∈ queue ++ current.toList, Framed need x
  units : lane.got ++ lane.flying ++ lane.unsent = (queue ++ current.toList).flatten
  idle : current = none → lane.unsent = []
  under_way : ∀ x, current = some x → lane.unsent ≠ [] ∧ lane.unsent.length ≤ x.length
  front : ∀ x rest, queue ++ current.toList = x :: rest → lane.got <+: x

variable {need : List υ → ℕ} {lane : Lane υ} {queue : List (List υ)} {current : Option (List υ)}

theorem carries_empty : Carries need (empty : Lane υ) [] none where
  framed _ h := absurd h List.not_mem_nil
  units := rfl
  idle _ := rfl
  under_way _ h := absurd h (by simp)
  front _ _ h := absurd h (by simp)

/-- A writer that has nothing left to write is between two frames. -/
theorem Carries.current_none (h : lane.Carries need queue current) (hunsent : lane.unsent = []) :
    current = none := by
  rcases current with _ | x
  · rfl
  · exact absurd hunsent (h.under_way x rfl).1

/-- A writer that has something left is in a frame. -/
theorem Carries.current_some (h : lane.Carries need queue current) (hunsent : lane.unsent ≠ []) :
    ∃ x, current = some x := by
  rcases current with _ | x
  · exact absurd (h.idle rfl) hunsent
  · exact ⟨x, rfl⟩

/-- Nothing was read of no frame. -/
theorem Carries.got_nil (h : lane.Carries need queue current)
    (hnone : queue ++ current.toList = []) : lane.got = [] := by
  have hunits := h.units
  rw [hnone, List.flatten_nil, List.append_eq_nil_iff, List.append_eq_nil_iff] at hunits
  exact hunits.1.1

/-! ## The movements -/

theorem Carries.start (h : lane.Carries need queue none) {x : List υ} (hx : Framed need x)
    (hne : x ≠ []) : (lane.start x).Carries need queue (some x) where
  framed y hy := by
    rcases List.mem_append.mp hy with hy | hy
    -- the frames in the queue, and the one that starts now
    · exact h.framed y (List.mem_append_left _ hy)
    · rw [List.mem_singleton.mp hy]
      exact hx
  units := by
    have hunits := h.units
    rw [h.idle rfl, List.append_nil, Option.toList_none, List.append_nil] at hunits
    show lane.got ++ lane.flying ++ x = _
    rw [hunits, Option.toList_some, List.flatten_append, List.flatten_singleton]
  idle hnone := absurd hnone (by simp)
  under_way y hy := by
    rw [← Option.some.inj hy]
    exact ⟨hne, Nat.le_refl _⟩
  front y rest hsplit := by
    show lane.got <+: y
    rcases queue with _ | ⟨z, queue⟩
    -- nothing has been received of a frame that has only started
    · rw [h.got_nil rfl]
      exact List.nil_prefix
    · obtain ⟨rfl, -⟩ := List.cons.inj hsplit
      exact h.front z queue (by simp)

/-- A piece of the frame, and not the last one. -/
theorem Carries.write (h : lane.Carries need queue current) {k : ℕ}
    (hk : k < lane.unsent.length) : (lane.write k).Carries need queue current where
  framed := h.framed
  units := by
    show lane.got ++ (lane.flying ++ lane.unsent.take k) ++ lane.unsent.drop k = _
    rw [← h.units, ← List.append_assoc, List.append_assoc, List.take_append_drop]
  idle hnone := by
    have hnil := h.idle hnone
    rw [hnil] at hk
    exact absurd hk (Nat.not_lt_zero k)
  under_way x hx := by
    obtain ⟨-, hle⟩ := h.under_way x hx
    refine ⟨?_, ?_⟩
    -- something is left to write
    · intro hnil
      have hzero := congrArg List.length hnil
      change (lane.unsent.drop k).length = 0 at hzero
      rw [List.length_drop] at hzero
      omega
    · show (lane.unsent.drop k).length ≤ x.length
      rw [List.length_drop]
      omega
  front := h.front

/-- The last piece: the frame joins the written ones. -/
theorem Carries.written {x : List υ} (h : lane.Carries need queue (some x)) {k : ℕ}
    (hk : lane.unsent.length ≤ k) : (lane.write k).Carries need (queue ++ [x]) none where
  framed y hy := by
    rw [Option.toList_none, List.append_nil] at hy
    exact h.framed y hy
  units := by
    show lane.got ++ (lane.flying ++ lane.unsent.take k) ++ lane.unsent.drop k = _
    rw [← List.append_assoc, List.append_assoc, List.take_append_drop, h.units, Option.toList_none,
      List.append_nil, Option.toList_some]
  idle _ := List.drop_of_length_le hk
  under_way y hy := absurd hy (by simp)
  front y rest hsplit := by
    rw [Option.toList_none, List.append_nil] at hsplit
    exact h.front y rest hsplit

/-- The reader gets no more than it needs, so nothing of the next frame. -/
theorem Carries.feed (h : lane.Carries need queue current) {k : ℕ} (hk : k ≤ need lane.got) :
    (lane.feed k).Carries need queue current where
  framed := h.framed
  units := by
    show lane.got ++ lane.flying.take k ++ lane.flying.drop k ++ lane.unsent = _
    rw [List.append_assoc lane.got, List.take_append_drop]
    exact h.units
  idle := h.idle
  under_way := h.under_way
  front x rest hsplit := by
    show lane.got ++ lane.flying.take k <+: x
    have hfront := h.front x rest hsplit
    have hx := h.framed x (by rw [hsplit]; exact List.mem_cons_self)
    by_cases heq : lane.got = x
    · -- the frame is whole, and nothing is needed
      rw [heq, hx.whole] at hk
      have hnone : lane.flying.take k = [] := by
        rw [Nat.le_zero.mp hk, List.take_zero]
      rw [hnone, List.append_nil]
      exact hfront
    · obtain ⟨-, hwithin⟩ := hx.within lane.got hfront heq
      have hunits := h.units
      rw [hsplit, List.flatten_cons] at hunits
      -- the bytes received are a prefix of what remains of the queue
      have hpiece : lane.got ++ lane.flying.take k <+: x ++ rest.flatten := by
        rw [← hunits]
        refine ⟨lane.flying.drop k ++ lane.unsent, ?_⟩
        rw [← List.append_assoc, List.append_assoc lane.got, List.take_append_drop]
      refine List.prefix_of_prefix_length_le hpiece (List.prefix_append x _) ?_
      rw [List.length_append, List.length_take]
      omega

/-- **What the reader takes is the first frame that was written**, no less and no
more. -/
theorem Carries.take (h : lane.Carries need queue current) (hneed : 0 < need [])
    (hwhole : need lane.got = 0) :
    ∃ rest, queue = lane.got :: rest ∧ lane.take.Carries need rest current := by
  have hgot : lane.got ≠ [] := by
    intro hnil
    rw [hnil] at hwhole
    omega
  rcases queue with _ | ⟨x, queue⟩
  · -- the frame that is being written cannot be whole
    rcases current with _ | x
    · exact absurd (h.got_nil rfl) hgot
    · have hx := h.framed x (by simp)
      have heq := hx.eq_of_prefix (h.front x [] rfl) hwhole
      have hunits := h.units
      rw [heq, List.nil_append, Option.toList_some, List.flatten_singleton, List.append_assoc,
        List.append_right_eq_self, List.append_eq_nil_iff] at hunits
      exact absurd hunits.2 (h.under_way x rfl).1
  · have hx := h.framed x (by simp)
    have heq := hx.eq_of_prefix (h.front x _ rfl) hwhole
    refine ⟨queue, by rw [heq], ?_, ?_, h.idle, h.under_way, fun _ _ _ => List.nil_prefix⟩
    · intro y hy
      exact h.framed y (List.mem_cons_of_mem x hy)
    · have hunits := h.units
      rw [heq, List.cons_append, List.flatten_cons, List.append_assoc] at hunits
      exact List.append_cancel_left hunits

/-- A reader that waits in a frame waits for units that are under way, or for a
writer that has not written them yet. -/
theorem Carries.waits (h : lane.Carries need queue current) (hgot : lane.got ≠ [])
    (hneeds : need lane.got ≠ 0) : lane.flying ≠ [] ∨ lane.unsent ≠ [] := by
  by_contra hnone
  obtain ⟨hflying, hunsent⟩ := not_or.mp hnone
  have hunits := h.units
  rw [not_not.mp hflying, not_not.mp hunsent, List.append_nil, List.append_nil] at hunits
  rcases hqueue : queue ++ current.toList with _ | ⟨x, rest⟩
  · exact hgot (h.got_nil hqueue)
  · have hx := h.framed x (by rw [hqueue]; exact List.mem_cons_self)
    have hfront := h.front x rest hqueue
    rw [hqueue, List.flatten_cons] at hunits
    have hle : x.length ≤ lane.got.length := by
      rw [hunits, List.length_append]
      omega
    rw [hfront.eq_of_length_le hle] at hneeds
    exact hneeds hx.whole

/-- Where no unit is left there is no frame. -/
theorem Carries.drained (h : lane.Carries need queue current) (hneed : 0 < need [])
    (hgot : lane.got = []) (hflying : lane.flying = []) (hunsent : lane.unsent = []) :
    queue = [] := by
  have hunits := h.units
  rw [hgot, hflying, hunsent, List.nil_append, List.nil_append] at hunits
  rcases queue with _ | ⟨x, queue⟩
  · rfl
  · have hx := (h.framed x (by simp)).ne_nil hneed
    rw [List.cons_append, List.flatten_cons] at hunits
    exact absurd (List.append_eq_nil_iff.mp hunits.symm).1 hx

end Lane

end Pipe
