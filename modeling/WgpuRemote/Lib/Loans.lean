/-
Parts of a list, lent out as copies and folded back.

A loan is an owned copy of a window of the staging. Its holder writes into the
copy, and giving it back overwrites the window with it. Nothing keeps two loans
from overlapping; `Exclusive` says that where they do, neither was written.

The history of the writes is a ghost, and so is `content`, the base overwritten
by all of them in their order. Two facts carry the rest (`Inv`): a loan shows
the content of its window, and the staging shows it everywhere outside the loans
that were written.
-/
import WgpuRemote.Lib.Overlay

set_option autoImplicit false

namespace Overlay

variable {α : Type*}

structure Loans (α : Type*) where
  base : List α
  staging : List α
  /-- What was lent, in order: a copy and where it is from, `none` once it is back. -/
  loans : List (Option (Write α))
  /-- What was written, oldest first, each with the number of its loan. -/
  writes : List (ℕ × Write α)

namespace Loans

def new (base : List α) : Loans α := ⟨base, base, [], []⟩

/-- Loan `k` is out. -/
def Out (s : Loans α) (k : ℕ) (w : Write α) : Prop := s.loans[k]? = some (some w)

/-- Loan `k` is back. -/
def returned (s : Loans α) (k : ℕ) : Bool := s.loans[k]?.any Option.isNone

def Written (s : Loans α) (k : ℕ) : Prop := ∃ w ∈ s.writes, w.1 = k

/-- The base overwritten by all writes. -/
def content (s : Loans α) : List α := overwrite_all s.base (s.writes.map Prod.snd)

/-- The base overwritten by the writes of the loans that are back. -/
def left (s : Loans α) : List α :=
  overwrite_all s.base ((s.writes.filter fun w => s.returned w.1).map Prod.snd)

/-- Where two loans that are out overlap, neither was written. -/
def Exclusive (s : Loans α) : Prop :=
  ∀ j k v w, j ≠ k → s.Out j v → s.Out k w → (∃ i, v.covers i ∧ w.covers i) → ¬ s.Written j

/-! ## Steps -/

def lend (s : Loans α) (start stop : ℕ) : Loans α :=
  { s with loans := s.loans ++ [some ⟨start, view s.staging start stop⟩] }

/-- `data` is written into loan `k`, from `pos` on. -/
def write (s : Loans α) (k : ℕ) (w : Write α) (pos : ℕ) (data : List α) : Loans α :=
  { s with
    loans := s.loans.set k (some ⟨w.offset, overwrite w.data pos data⟩)
    writes := s.writes ++ [(k, ⟨w.offset + pos, data⟩)] }

def give_back (s : Loans α) (k : ℕ) (w : Write α) : Loans α :=
  { s with
    staging := overwrite s.staging w.offset w.data
    loans := s.loans.set k none }

inductive Step (s : Loans α) : Loans α → Prop where
  | lend {start stop : ℕ} (hle : start ≤ stop) (hstop : stop ≤ s.staging.length) :
      Step s (s.lend start stop)
  | write {k : ℕ} {w : Write α} {pos : ℕ} {data : List α} (hw : s.Out k w)
      (hfit : pos + data.length ≤ w.data.length) : Step s (s.write k w pos data)
  | give_back {k : ℕ} {w : Write α} (hw : s.Out k w) : Step s (s.give_back k w)

/-! ## The invariant -/

structure Inv (s : Loans α) : Prop where
  staging_length : s.staging.length = s.base.length
  /-- A loan shows the content of its window. -/
  lent : ∀ k w, s.Out k w → w.stop ≤ s.base.length ∧
    ∀ i, w.covers i → w.data[i - w.offset]? = s.content[i]?
  /-- The staging shows the content, but for the loans that were written. -/
  settled : ∀ i, (∀ k w, s.Out k w → w.covers i → ¬ s.Written k) → s.staging[i]? = s.content[i]?
  within : ∀ w ∈ s.writes, w.2.stop ≤ s.base.length
  /-- What was written is back, or within the window of its loan. -/
  owner : ∀ w ∈ s.writes, s.returned w.1 = true ∨ ∃ v, s.Out w.1 v ∧ ∀ i, w.2.covers i → v.covers i

theorem inv_new (base : List α) : (new base).Inv where
  staging_length := rfl
  lent := fun k w h => absurd h (by simp [Out, new])
  settled := fun _ _ => rfl
  within := fun w h => absurd h (by simp [new])
  owner := fun w h => absurd h (by simp [new])

theorem Inv.content_length {s : Loans α} (h : s.Inv) : s.content.length = s.base.length := by
  refine overwrite_all_length fun w hw => ?_
  obtain ⟨v, hv, rfl⟩ := List.mem_map.mp hw
  exact h.within v hv

/-- A position that no written loan covers has its content, with or without the
writes of the loans that are out. -/
theorem Inv.left_eq {s : Loans α} (h : s.Inv) {i : ℕ}
    (hi : ∀ k w, s.Out k w → w.covers i → ¬ s.Written k) : s.left[i]? = s.content[i]? := by
  refine overwrite_all_filter rfl h.within (fun w hw hout hcovers => ?_) rfl
  rcases h.owner w hw with hback | ⟨v, hv, hwithin⟩
  · rw [hback] at hout
    exact absurd hout (by simp)
  · exact hi w.1 v hv (hwithin i hcovers) ⟨w, hw, rfl⟩

/-! ## Lending -/

theorem out_lend {s : Loans α} {start stop k : ℕ} {w : Write α}
    (h : (s.lend start stop).Out k w) :
    s.Out k w ∨ (k = s.loans.length ∧ w = ⟨start, view s.staging start stop⟩) := by
  rcases get_push h with h | ⟨hk, hw⟩
  · exact Or.inl h
  · exact Or.inr ⟨hk, Option.some.inj hw⟩

theorem lend_out {s : Loans α} {k : ℕ} {w : Write α} (h : s.Out k w) (start stop : ℕ) :
    (s.lend start stop).Out k w := get_push_of_get h _

/-- Where a window is lent, no loan that is out was written. -/
theorem unwritten_of_lend {s : Loans α} {start stop : ℕ} (hstop : stop ≤ s.staging.length)
    (hex : (s.lend start stop).Exclusive) {i : ℕ} (hi : start ≤ i ∧ i < stop) (k : ℕ) (w : Write α)
    (hw : s.Out k w) (hcovers : w.covers i) : ¬ s.Written k := by
  have hlt := (List.getElem?_eq_some_iff.mp hw).1
  have hnew : (s.lend start stop).Out s.loans.length ⟨start, view s.staging start stop⟩ :=
    List.getElem?_concat_length
  refine hex k s.loans.length w _ (by omega) (lend_out hw start stop) hnew ⟨i, hcovers, hi.1, ?_⟩
  rw [Write.stop, view_length_of_le hstop]
  show i < start + (stop - start)
  omega

theorem Inv.lend {s : Loans α} (h : s.Inv) {start stop : ℕ} (hle : start ≤ stop)
    (hstop : stop ≤ s.staging.length) (hex : (s.lend start stop).Exclusive) :
    (s.lend start stop).Inv where
  staging_length := h.staging_length
  lent := by
    intro k w hw
    rcases out_lend hw with hw | ⟨-, rfl⟩
    · exact h.lent k w hw
    · have hlen : (view s.staging start stop).length = stop - start := view_length_of_le hstop
      refine ⟨?_, ?_⟩
      · rw [Write.stop, hlen]
        show start + (stop - start) ≤ s.base.length
        rw [← h.staging_length]
        omega
      · -- nobody holds a written window over these, so the staging has their content
        rintro i ⟨hlow, hhigh⟩
        rw [Write.stop, hlen] at hhigh
        change start ≤ i at hlow
        change i < start + (stop - start) at hhigh
        show (view s.staging start stop)[i - start]? = s.content[i]?
        rw [getElem?_view, if_pos (by omega), show start + (i - start) = i by omega]
        exact h.settled i fun k w hw hc => unwritten_of_lend hstop hex (by omega) k w hw hc
  settled := fun i hi => h.settled i fun k w hw => hi k w (lend_out hw start stop)
  within := h.within
  -- a window that came back is still back, and one that is out still out
  owner := by
    intro w hw
    rcases h.owner w hw with hback | ⟨v, hv, hwithin⟩
    · refine Or.inl ?_
      unfold returned at hback ⊢
      rcases hget : s.loans[w.1]? with _ | x
      · rw [hget] at hback
        exact absurd hback (by simp)
      · rw [hget] at hback
        rw [show (s.lend start stop).loans[w.1]? = some x from get_push_of_get hget _]
        exact hback
    · exact Or.inr ⟨v, lend_out hv start stop, hwithin⟩

/-- **A new loan** starts from what the loans that are back have left. -/
theorem Inv.lent_left {s : Loans α} (h : s.Inv) {start stop : ℕ} (hstop : stop ≤ s.staging.length)
    (hex : (s.lend start stop).Exclusive) :
    view s.staging start stop = view s.left start stop := by
  apply List.ext_getElem?
  intro i
  rw [getElem?_view, getElem?_view]
  by_cases hi : i < stop - start
  · have hunwritten : ∀ k w, s.Out k w → w.covers (start + i) → ¬ s.Written k :=
      fun k w hw hc => unwritten_of_lend hstop hex (by omega) k w hw hc
    rw [if_pos hi, if_pos hi, h.settled _ hunwritten, h.left_eq hunwritten]
  · rw [if_neg hi, if_neg hi]

/-! ## Writing -/

section Writing

variable {s : Loans α} {k : ℕ} {w : Write α} {pos : ℕ} {data : List α}

/-- The copy stays the copy of its window. -/
theorem covers_written (hfit : pos + data.length ≤ w.data.length) (i : ℕ) :
    (⟨w.offset, overwrite w.data pos data⟩ : Write α).covers i ↔ w.covers i := by
  unfold Write.covers Write.stop
  rw [overwrite_length hfit]

theorem write_out_self (hw : s.Out k w) :
    (s.write k w pos data).Out k ⟨w.offset, overwrite w.data pos data⟩ := get_set_self hw _

theorem write_out_other {j : ℕ} {v : Write α} (hj : j ≠ k) (hv : s.Out j v) :
    (s.write k w pos data).Out j v := by
  unfold Out Loans.write
  rw [List.getElem?_set_ne (Ne.symm hj)]
  exact hv

theorem written_write : (s.write k w pos data).Written k :=
  ⟨_, List.mem_append_right _ (List.mem_singleton.mpr rfl), rfl⟩

theorem written_of_written {j : ℕ} (h : s.Written j) : (s.write k w pos data).Written j := by
  obtain ⟨v, hv, hj⟩ := h
  exact ⟨v, List.mem_append_left _ hv, hj⟩

/-- The new write is within the window of its loan. -/
theorem covers_of_write (hfit : pos + data.length ≤ w.data.length) {i : ℕ}
    (hi : (⟨w.offset + pos, data⟩ : Write α).covers i) : w.covers i := by
  obtain ⟨hlow, hhigh⟩ := hi
  unfold Write.stop at hhigh
  change w.offset + pos ≤ i at hlow
  change i < w.offset + pos + data.length at hhigh
  unfold Write.covers Write.stop
  omega

theorem Inv.content_write (h : s.Inv) (hw : s.Out k w) (hfit : pos + data.length ≤ w.data.length)
    (i : ℕ) : (s.write k w pos data).content[i]? =
      if w.offset + pos ≤ i ∧ i < w.offset + pos + data.length then data[i - (w.offset + pos)]?
      else s.content[i]? := by
  have hstop := (h.lent k w hw).1
  have hroom : w.offset + pos + data.length ≤ s.content.length := by
    rw [h.content_length]
    unfold Write.stop at hstop
    omega
  unfold content Loans.write
  rw [List.map_append, List.map_singleton, overwrite_all_snoc]
  exact getElem?_overwrite hroom i

/-- Outside the window the content is as before. -/
theorem Inv.content_outside (h : s.Inv) (hw : s.Out k w) (hfit : pos + data.length ≤ w.data.length)
    {i : ℕ} (hi : ¬ w.covers i) : (s.write k w pos data).content[i]? = s.content[i]? := by
  rw [h.content_write hw hfit]
  exact if_neg fun hc => hi (covers_of_write hfit hc)

/-- The copy that was written into shows the new content. -/
theorem Inv.lent_written (h : s.Inv) (hw : s.Out k w) (hfit : pos + data.length ≤ w.data.length)
    {i : ℕ} (hi : w.covers i) :
    (overwrite w.data pos data)[i - w.offset]? = (s.write k w pos data).content[i]? := by
  have hold := (h.lent k w hw).2 i hi
  have hlow : w.offset ≤ i := hi.1
  rw [getElem?_overwrite hfit, h.content_write hw hfit]
  by_cases hin : w.offset + pos ≤ i ∧ i < w.offset + pos + data.length
  · rw [if_pos hin, if_pos (by omega), show i - w.offset - pos = i - (w.offset + pos) by omega]
  · rw [if_neg hin, if_neg (by omega), hold]

/-- What was written has its loan, or is back, after one more write. -/
theorem owner_write (hw : s.Out k w) (hfit : pos + data.length ≤ w.data.length) {v : ℕ × Write α}
    (hv : s.returned v.1 = true ∨ ∃ u, s.Out v.1 u ∧ ∀ i, v.2.covers i → u.covers i) :
    (s.write k w pos data).returned v.1 = true ∨
      ∃ u, (s.write k w pos data).Out v.1 u ∧ ∀ i, v.2.covers i → u.covers i := by
  rcases hv with hback | ⟨u, hu, hwithin⟩
  · have hne : v.1 ≠ k := by
      intro heq
      rw [heq, returned, hw] at hback
      exact absurd hback (by simp)
    unfold returned Loans.write
    rw [List.getElem?_set_ne (Ne.symm hne)]
    exact Or.inl hback
  · refine Or.inr ?_
    by_cases hvk : v.1 = k
    · rw [hvk] at hu ⊢
      obtain rfl := Option.some.inj (Option.some.inj (hu.symm.trans hw))
      exact ⟨_, write_out_self hw, fun i hi => (covers_written hfit i).mpr (hwithin i hi)⟩
    · exact ⟨u, write_out_other hvk hu, hwithin⟩

theorem Inv.write (h : s.Inv) (hw : s.Out k w) (hfit : pos + data.length ≤ w.data.length)
    (hex : (s.write k w pos data).Exclusive) : (s.write k w pos data).Inv := by
  have hself : (s.write k w pos data).Out k ⟨w.offset, overwrite w.data pos data⟩ :=
    write_out_self hw
  have hstop := (h.lent k w hw).1
  refine ⟨h.staging_length, fun j v hv => ?_, fun i hi => ?_, fun v hv => ?_, fun v hv => ?_⟩
  · rcases get_set hv with ⟨rfl, heq⟩ | ⟨hj, hv⟩
    · obtain rfl := Option.some.inj heq
      refine ⟨?_, fun i hi => h.lent_written hw hfit ((covers_written hfit i).mp hi)⟩
      unfold Write.stop at hstop ⊢
      rw [overwrite_length hfit]
      exact hstop
    · -- another loan that covers the position would overlap the one that was written
      obtain ⟨hvstop, hvlent⟩ := h.lent j v hv
      refine ⟨hvstop, fun i hi => ?_⟩
      have hnot : ¬ w.covers i := fun hwi =>
        hex k j _ v (Ne.symm hj) hself (write_out_other hj hv)
          ⟨i, (covers_written hfit i).mpr hwi, hi⟩ written_write
      rw [h.content_outside hw hfit hnot]
      exact hvlent i hi
  -- a position nobody wrote in is not in this window
  · have hnot : ¬ w.covers i := fun hwi =>
      hi k _ hself ((covers_written hfit i).mpr hwi) written_write
    rw [h.content_outside hw hfit hnot]
    refine h.settled i fun j v hv hvi hj => ?_
    by_cases hjk : j = k
    · rw [hjk] at hv
      obtain rfl := Option.some.inj (Option.some.inj (hv.symm.trans hw))
      exact hnot hvi
    · exact hi j v (write_out_other hjk hv) hvi (written_of_written hj)
  -- the new write is within its window
  · rcases List.mem_append.mp hv with hv | hv
    · exact h.within v hv
    · rw [List.mem_singleton.mp hv]
      show w.offset + pos + data.length ≤ s.base.length
      unfold Write.stop at hstop
      omega
  · rcases List.mem_append.mp hv with hv | hv
    · exact owner_write hw hfit (h.owner v hv)
    · rw [List.mem_singleton.mp hv]
      exact Or.inr ⟨_, hself, fun i hi => (covers_written hfit i).mpr (covers_of_write hfit hi)⟩

end Writing

/-! ## Giving back -/

theorem Inv.give_back {s : Loans α} (h : s.Inv) {k : ℕ} {w : Write α} (hw : s.Out k w) :
    (s.give_back k w).Inv := by
  -- the window that comes back has the content of its own positions
  obtain ⟨hstop, hlent⟩ := h.lent k w hw
  have hfit : w.offset + w.data.length ≤ s.staging.length := by
    rw [h.staging_length]
    exact hstop
  have hout : ∀ j v, (s.give_back k w).Out j v → s.Out j v := by
    intro j v hv
    rcases get_set hv with ⟨-, hv⟩ | ⟨-, hv⟩
    · exact absurd hv (by simp)
    · exact hv
  have hother : ∀ j v, j ≠ k → s.Out j v → (s.give_back k w).Out j v := by
    intro j v hj hv
    unfold Out Loans.give_back
    rw [List.getElem?_set_ne (Ne.symm hj)]
    exact hv
  refine ⟨?_, fun j v hv => h.lent j v (hout j v hv), fun i hi => ?_, h.within, fun v hv => ?_⟩
  · exact (overwrite_length hfit).trans h.staging_length
  · show (overwrite s.staging w.offset w.data)[i]? = s.content[i]?
    rw [getElem?_overwrite hfit]
    by_cases hin : w.offset ≤ i ∧ i < w.offset + w.data.length
    · -- the window held the content there
      rw [if_pos hin]
      exact hlent i hin
    · -- elsewhere another window may be out, and still is
      rw [if_neg hin]
      refine h.settled i fun j v hv hvi => ?_
      have hjk : j ≠ k := by
        rintro rfl
        obtain rfl := Option.some.inj (Option.some.inj (hv.symm.trans hw))
        exact hin hvi
      exact hi j v (hother j v hjk hv) hvi
  -- the write is returned with its window; others are where they were
  · by_cases hvk : v.1 = k
    · refine Or.inl ?_
      rw [hvk]
      unfold returned Loans.give_back
      rw [get_set_self hw]
      rfl
    · rcases h.owner v hv with hback | ⟨u, hu, hwithin⟩
      · refine Or.inl ?_
        unfold returned Loans.give_back
        rw [List.getElem?_set_ne (Ne.symm hvk)]
        exact hback
      · exact Or.inr ⟨u, hother v.1 u hvk hu, hwithin⟩

/-- **When every loan is back**, the staging is the base overwritten by all
writes, in their order. -/
theorem Inv.all_back {s : Loans α} (h : s.Inv) (hback : ∀ k w, ¬ s.Out k w) :
    s.staging = s.content :=
  List.ext_getElem? fun i => h.settled i fun k w hw => absurd hw (hback k w)

/-- A step into a state where loans are exclusive keeps the invariant. -/
theorem Inv.step {s s' : Loans α} (h : s.Inv) (hstep : Step s s') (hex : s'.Exclusive) : s'.Inv := by
  rcases hstep with ⟨hle, hstop⟩ | ⟨hw, hfit⟩ | hw
  · exact h.lend hle hstop hex
  · exact h.write hw hfit hex
  · exact h.give_back hw

end Loans

end Overlay
