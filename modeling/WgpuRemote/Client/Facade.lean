/-
`client::instance` and `client::resources`: devices, their handles, and what
they send.

Any number of threads share the devices. What they do comes in atomic pieces:
a create call mints an id, then sends its action and has its handle; the last
clone of a handle goes, then its `Destroy` is sent. Between the pieces other
threads act.

A handle is known by the device and the number of the minting it came from, not
by its id: ids repeat when a counter wraps and, as each device has a minter of
its own, from device to device. `Stage` is how far a handle has come.

Beside what the source keeps, the state keeps a record of the run: everything
that was sent, in order, with the handles that were alive at that moment
(`Issue`), and the creates whose frame did not encode.
-/
import WgpuRemote.Client.Handles
import WgpuRemote.Protocol.Codec
import WgpuRemote.Lib.Transition
import Mathlib.Data.List.Nodup

set_option autoImplicit false

namespace WgpuRemote.Client

open Bincode

/-! ## Handles -/

/-- The `n`-th id a device mints for a kind, counted from 0. -/
structure Slot where
  device : ℕ
  kind : Kind
  n : ℕ
deriving DecidableEq

/-- The id the device minted. -/
def Slot.id (h : Slot) : Id h.kind := nth_id h.kind h.n

/-- The table entry the handle names. -/
def Slot.ref (h : Slot) : Ref := h.id.ref

/-- How far a handle has come. -/
inductive Stage where
  /-- Its id is minted, the create call has not sent its action. -/
  | creating
  /-- The application holds it, and `extra` clones of it. -/
  | alive (extra : ℕ)
  /-- The last clone is gone, the `Destroy` is not sent. -/
  | dropping
  | gone
deriving DecidableEq

/-- The handle's action has been sent, or did not encode. -/
def Stage.is_sent : Option Stage → Bool
  | none | some .creating => false
  | some (.alive _) | some .dropping | some .gone => true

def Stage.is_alive : Option Stage → Bool
  | some (.alive _) => true
  | _ => false

section Facade

variable [WgpuTypes]

/-! ## What is sent -/

/-- One call of `send` or `request`: the action, the handle whose create or
whose drop it belongs to, if any, and the handles alive at that moment. -/
structure Issue where
  device : ℕ
  action : Action
  creates : Option Slot
  destroys : Option Slot
  live : Slot → Bool

/-- `WriteJob`: a frame, encoded. -/
structure Job where
  issue : Issue
  bytes : Bytes

structure Facade where
  /-- The devices that `request_device` has returned. -/
  devices : ℕ
  /-- Each device's `IdMinter`. -/
  ids : ℕ → IdMinter
  stage : Slot → Option Stage
  next_request_id : UInt64
  /-- The creates that `encode_frame` refused. -/
  refused : Slot → Bool
  issued : List Issue

namespace Facade

/-- A client on which no device has been requested. -/
def new : Facade where
  devices := 0
  ids := fun _ => IdMinter.new
  stage := fun _ => none
  next_request_id := 1
  refused := fun _ => false
  issued := []

/-- The handles that are alive. -/
def live (s : Facade) (h : Slot) : Bool := Stage.is_alive (s.stage h)

/-- The stages after a call of `send`: a create call returns its handle, a drop
is over. -/
def advance (i : Issue) (stage : Slot → Option Stage) (h : Slot) : Option Stage :=
  if i.creates = some h then some (.alive 0)
  else if i.destroys = some h then some .gone
  else stage h

/-- `Client::send`, and `Client::request` up to its job: a frame that does not
encode is dropped. -/
def send (s : Facade) (i : Issue) : Facade × Option Job :=
  let s' := { s with next_request_id := s.next_request_id + 1, stage := advance i s.stage }
  match encode_frame Wire.frame ⟨some ⟨s.next_request_id⟩, i.action⟩ with
  | .ok bytes => ({ s' with issued := s.issued ++ [i] }, some ⟨i, bytes⟩)
  | .error _ => ({ s' with refused := fun h => s.refused h || i.creates = some h }, none)

inductive Label where
  /-- `Adapter::request_device` returns a device, with a minter of its own. -/
  | request_device
  /-- A create call on a device, or a `create_view` or `get_bind_group_layout`
  on one of its handles, mints an id. -/
  | mint (device : ℕ) (k : Kind)
  /-- The call sends its action and returns. -/
  | send_create (h : Slot) (a : Action)
  /-- Any other call that sends: writes, submissions, reads and the handshake. -/
  | send (device : ℕ) (a : Action)
  | clone (h : Slot)
  /-- A clone is dropped. -/
  | drop (h : Slot)
  /-- `Drop` of the last clone sends its `Destroy`. -/
  | send_destroy (h : Slot)

def step (s : Facade) : Label → Option (Facade × Option Job)
  | .request_device => some ({ s with devices := s.devices + 1 }, none)
  | .mint device k =>
      if device < s.devices then
        let h : Slot := ⟨device, k, s.ids device k⟩
        some ({ s with
          ids := fun d => if d = device then (IdMinter.mint (s.ids device) k).2 else s.ids d
          stage := fun x => if x = h then some .creating else s.stage x }, none)
      else none
  | .send_create h a =>
      if s.stage h = some .creating ∧ a.creates = some h.ref then
        some (s.send
          { device := h.device, action := a, creates := some h, destroys := none, live := s.live })
      else none
  | .send device a =>
      if a.creates = none ∧ a.destroys = none then
        some (s.send
          { device, action := a, creates := none, destroys := none, live := s.live })
      else none
  | .clone h =>
      match s.stage h with
      | some (.alive extra) =>
          some ({ s with stage := fun x => if x = h then some (.alive (extra + 1)) else s.stage x },
            none)
      | _ => none
  | .drop h =>
      match s.stage h with
      | some (.alive (extra + 1)) =>
          some ({ s with stage := fun x => if x = h then some (.alive extra) else s.stage x }, none)
      | some (.alive 0) =>
          some ({ s with stage := fun x => if x = h then some .dropping else s.stage x }, none)
      | _ => none
  | .send_destroy h =>
      if s.stage h = some .dropping then
        some (s.send
          { device := h.device, action := .Destroy (ResourceId.of h.kind h.id), creates := none
            destroys := some h, live := s.live })
      else none

/-! ## What the record says -/

/-- What has been sent, and in which order. -/
structure Inv (s : Facade) : Prop where
  /-- A device that has not been requested has not minted. -/
  unrequested : ∀ d, s.devices ≤ d → s.ids d = IdMinter.new
  minted : ∀ h, s.stage h ≠ none ↔ h.n < s.ids h.device h.kind
  /-- A create action in the record is some handle's, and names its id. -/
  creates : ∀ i ∈ s.issued, i.action.creates = i.creates.map Slot.ref
  destroys : ∀ i ∈ s.issued, i.action.destroys = i.destroys.map Slot.ref
  device : ∀ i ∈ s.issued, ∀ h, i.creates = some h ∨ i.destroys = some h → h.device = i.device
  /-- Only a handle that was sent is created in the record, and only one that
  is gone is destroyed. -/
  created_sent : ∀ i ∈ s.issued, ∀ h, i.creates = some h → Stage.is_sent (s.stage h) = true
  destroyed_gone : ∀ i ∈ s.issued, ∀ h, i.destroys = some h → s.stage h = some .gone
  /-- No handle is created twice. -/
  once : (s.issued.filterMap Issue.creates).Nodup
  /-- A handle that was sent is created in the record, unless its frame was
  refused; then it never is. -/
  sent : ∀ h, Stage.is_sent (s.stage h) = true →
    s.refused h = true ∨ h ∈ s.issued.filterMap Issue.creates
  refused : ∀ h, s.refused h = true →
    Stage.is_sent (s.stage h) = true ∧ h ∉ s.issued.filterMap Issue.creates
  /-- A handle alive at some moment was created before, and destroyed after. -/
  order : ∀ pre x post, s.issued = pre ++ x :: post → ∀ h, x.live h = true →
    (s.refused h = true ∨ h ∈ pre.filterMap Issue.creates) ∧
      ∀ i ∈ pre, i.destroys ≠ some h

theorem inv_new : new.Inv where
  unrequested _ _ := rfl
  minted h := ⟨fun hne => absurd rfl hne, fun hlt => absurd hlt (Nat.not_lt_zero _)⟩
  creates _ hi := by cases hi
  destroys _ hi := by cases hi
  device _ hi := by cases hi
  created_sent _ hi := by cases hi
  destroyed_gone _ hi := by cases hi
  once := List.nodup_nil
  sent _ h := by cases h
  refused _ h := by cases h
  order pre x post h := by simp [new] at h

/-- Nothing is sent: the record stays as it is, and so does which handles were
sent and which are gone. -/
theorem Inv.quiet {s s' : Facade} (h : s.Inv) (hissued : s'.issued = s.issued)
    (hrefused : s'.refused = s.refused)
    (hunrequested : ∀ d, s'.devices ≤ d → s'.ids d = IdMinter.new)
    (hminted : ∀ x, s'.stage x ≠ none ↔ x.n < s'.ids x.device x.kind)
    (hsent : ∀ x, Stage.is_sent (s'.stage x) = Stage.is_sent (s.stage x))
    (hgone : ∀ x, s.stage x = some .gone → s'.stage x = some .gone) : s'.Inv where
  unrequested := hunrequested
  minted := hminted
  creates := by rw [hissued]; exact h.creates
  destroys := by rw [hissued]; exact h.destroys
  device := by rw [hissued]; exact h.device
  created_sent := by
    intro i hi x hx
    rw [hissued] at hi
    rw [hsent]
    exact h.created_sent i hi x hx
  destroyed_gone := by
    intro i hi x hx
    rw [hissued] at hi
    exact hgone x (h.destroyed_gone i hi x hx)
  once := by rw [hissued]; exact h.once
  sent := by
    intro x hx
    rw [hsent] at hx
    rw [hissued, hrefused]
    exact h.sent x hx
  refused := by
    intro x hx
    rw [hrefused] at hx
    rw [hsent, hissued]
    exact h.refused x hx
  order := by rw [hissued, hrefused]; exact h.order

/-- What a call of `send` may be about: a handle being created, a handle being
dropped, or neither. -/
structure Issuable (s : Facade) (i : Issue) : Prop where
  live : i.live = s.live
  creates : i.action.creates = i.creates.map Slot.ref
  destroys : i.action.destroys = i.destroys.map Slot.ref
  device : ∀ h, i.creates = some h ∨ i.destroys = some h → h.device = i.device
  creating : ∀ h, i.creates = some h → s.stage h = some .creating
  dropping : ∀ h, i.destroys = some h → s.stage h = some .dropping

section Issuable

variable {s : Facade} {x : Slot} {a : Action}

/-- The create call of a handle that was minted for it. -/
theorem Issuable.create (hx : s.stage x = some .creating) (ha : a.creates = some x.ref) :
    Issuable s ⟨x.device, a, some x, none, s.live⟩ where
  live := rfl
  creates := ha
  destroys := by
    -- an action that creates destroys nothing
    show a.destroys = none
    by_contra hd
    obtain ⟨r, hr⟩ := Option.ne_none_iff_exists'.mp hd
    rw [Action.creates_of_destroys hr] at ha
    exact absurd ha (by simp)
  device := by
    rintro y (hy | hy)
    · rw [← Option.some.inj hy]
    · exact absurd hy (by simp)
  creating := by
    intro y hy
    rw [← Option.some.inj hy]
    exact hx
  dropping := by
    intro y hy
    exact absurd hy (by simp)

/-- A call about no handle. -/
theorem Issuable.other (device : ℕ) (hc : a.creates = none) (hd : a.destroys = none) :
    Issuable s ⟨device, a, none, none, s.live⟩ where
  live := rfl
  creates := hc
  destroys := hd
  device := by
    rintro y (hy | hy)
    · exact absurd hy (by simp)
    · exact absurd hy (by simp)
  creating := by
    intro y hy
    exact absurd hy (by simp)
  dropping := by
    intro y hy
    exact absurd hy (by simp)

/-- The `Destroy` of a handle whose last clone is gone. -/
theorem Issuable.destroy (hx : s.stage x = some .dropping) :
    Issuable s ⟨x.device, .Destroy (.of x.kind x.id), none, some x, s.live⟩ where
  live := rfl
  creates := rfl
  destroys := by
    show (ResourceId.of x.kind x.id).ref = _
    rw [ResourceId.ref_of]
    rfl
  device := by
    rintro y (hy | hy)
    · exact absurd hy (by simp)
    · rw [← Option.some.inj hy]
  creating := by
    intro y hy
    exact absurd hy (by simp)
  dropping := by
    intro y hy
    rw [← Option.some.inj hy]
    exact hx

end Issuable

section Advance

variable {s : Facade} {i : Issue}

/-- The call makes the handle it creates one that was sent, and no other. -/
theorem is_sent_advance (hi : Issuable s i) (h : Slot) :
    Stage.is_sent (advance i s.stage h) = true ↔
      Stage.is_sent (s.stage h) = true ∨ i.creates = some h := by
  unfold advance
  by_cases hc : i.creates = some h
  · rw [if_pos hc]
    exact ⟨fun _ => Or.inr hc, fun _ => rfl⟩
  · rw [if_neg hc]
    by_cases hd : i.destroys = some h
    · -- a handle being dropped was sent long ago
      rw [if_pos hd, hi.dropping h hd]
      exact ⟨fun _ => Or.inl rfl, fun _ => rfl⟩
    · rw [if_neg hd]
      exact ⟨Or.inl, fun hor => hor.resolve_right hc⟩

/-- A handle that is gone stays gone, whatever is issued. -/
theorem advance_gone (hi : Issuable s i) {h : Slot} (hg : s.stage h = some .gone) :
    advance i s.stage h = some .gone := by
  unfold advance
  have hc : i.creates ≠ some h := by
    intro hc
    rw [hi.creating h hc] at hg
    cases hg
  rw [if_neg hc]
  by_cases hd : i.destroys = some h
  · rw [if_pos hd]
  · rw [if_neg hd]
    exact hg

/-- A call changes stages; it neither gives a handle its first one nor takes its last one away.
-/
theorem advance_ne_none (hi : Issuable s i) (h : Slot) :
    advance i s.stage h ≠ none ↔ s.stage h ≠ none := by
  unfold advance
  by_cases hc : i.creates = some h
  · rw [if_pos hc, hi.creating h hc]
    exact ⟨fun _ => Option.some_ne_none _, fun _ => Option.some_ne_none _⟩
  · rw [if_neg hc]
    by_cases hd : i.destroys = some h
    · rw [if_pos hd, hi.dropping h hd]
      exact ⟨fun _ => Option.some_ne_none _, fun _ => Option.some_ne_none _⟩
    · rw [if_neg hd]

end Advance

/-- A handle that is alive was sent, and is not gone. -/
theorem live_sent {s : Facade} {h : Slot} (hl : s.live h = true) :
    Stage.is_sent (s.stage h) = true ∧ s.stage h ≠ some .gone := by
  unfold live at hl
  rcases hs : s.stage h with _ | _ | n | _ | _
  · rw [hs] at hl
    cases hl
  · rw [hs] at hl
    cases hl
  · exact ⟨rfl, by intro hg; cases hg⟩
  · rw [hs] at hl
    cases hl
  · rw [hs] at hl
    cases hl

/-- A frame that encodes goes to the end of the record. -/
theorem Inv.send_ok {s : Facade} {i : Issue} {rid : UInt64} (h : s.Inv) (hi : Issuable s i) :
    Inv { s with next_request_id := rid, stage := advance i s.stage, issued := s.issued ++ [i] } where
  unrequested := h.unrequested
  minted := fun x => (advance_ne_none hi x).trans (h.minted x)
  creates := by
    intro j hj
    rcases List.mem_append.mp hj with hj | hj
    · exact h.creates j hj
    · rw [List.mem_singleton.mp hj]
      exact hi.creates
  destroys := by
    intro j hj
    rcases List.mem_append.mp hj with hj | hj
    · exact h.destroys j hj
    · rw [List.mem_singleton.mp hj]
      exact hi.destroys
  device := by
    intro j hj
    rcases List.mem_append.mp hj with hj | hj
    · exact h.device j hj
    · rw [List.mem_singleton.mp hj]
      exact hi.device
  created_sent := by
    intro j hj x hx
    rw [is_sent_advance hi]
    rcases List.mem_append.mp hj with hj | hj
    · exact Or.inl (h.created_sent j hj x hx)
    · rw [List.mem_singleton.mp hj] at hx
      exact Or.inr hx
  destroyed_gone := by
    intro j hj x hx
    rcases List.mem_append.mp hj with hj | hj
    · exact advance_gone hi (h.destroyed_gone j hj x hx)
    · rw [List.mem_singleton.mp hj] at hx
      show advance i s.stage x = _
      unfold advance
      have hc : i.creates ≠ some x := by
        intro hc
        have hcreating := hi.creating x hc
        rw [hi.dropping x hx] at hcreating
        cases hcreating
      rw [if_neg hc, if_pos hx]
  once := by
    rw [List.filterMap_append]
    rcases hc : i.creates with _ | x
    · have hnone : [i].filterMap Issue.creates = [] := by simp [hc]
      rw [hnone, List.append_nil]
      exact h.once
    · -- a handle still being created is not in the record
      have hone : [i].filterMap Issue.creates = [x] := by simp [hc]
      rw [hone, ← List.concat_eq_append]
      refine List.Nodup.concat ?_ h.once
      intro hmem
      obtain ⟨j, hj, hjx⟩ := List.mem_filterMap.mp hmem
      have hsent := h.created_sent j hj x hjx
      rw [hi.creating x hc] at hsent
      cases hsent
  sent := by
    intro x hx
    rw [List.filterMap_append, List.mem_append]
    -- a handle that counts as sent was so before, or is created by the new issue
    rcases (is_sent_advance hi x).mp hx with hx | hx
    · rcases h.sent x hx with hr | hm
      · exact Or.inl hr
      · exact Or.inr (Or.inl hm)
    · exact Or.inr (Or.inr (List.mem_filterMap.mpr ⟨i, List.mem_singleton_self i, hx⟩))
  refused := by
    intro x hx
    obtain ⟨hs, hnot⟩ := h.refused x hx
    refine ⟨(is_sent_advance hi x).mpr (Or.inl hs), ?_⟩
    intro hmem
    rw [List.filterMap_append] at hmem
    rcases List.mem_append.mp hmem with hmem | hmem
    · exact hnot hmem
    -- a refused handle was sent, and one that is being created was not
    · obtain ⟨j, hj, hjx⟩ := List.mem_filterMap.mp hmem
      rw [List.mem_singleton.mp hj] at hjx
      rw [hi.creating x hjx] at hs
      cases hs
  order := by
    intro pre x post hsplit y hy
    rcases Transition.split_snoc hsplit with ⟨rfl, rfl⟩ | ⟨front, hfront⟩
    · -- the handle is alive now: its create is in the record, its destroy is not
      rw [hi.live] at hy
      obtain ⟨hsent, hgone⟩ := live_sent hy
      refine ⟨h.sent y hsent, ?_⟩
      intro j hj hjy
      exact hgone (h.destroyed_gone j hj y hjy)
    · exact h.order pre x front hfront y hy

/-- A frame that does not encode leaves no trace but that. -/
theorem Inv.send_error {s : Facade} {i : Issue} {rid : UInt64} (h : s.Inv) (hi : Issuable s i) :
    Inv { s with
      next_request_id := rid, stage := advance i s.stage
      refused := fun h => s.refused h || i.creates = some h } where
  unrequested := h.unrequested
  minted := fun x => (advance_ne_none hi x).trans (h.minted x)
  creates := h.creates
  destroys := h.destroys
  device := h.device
  created_sent := by
    intro j hj x hx
    rw [is_sent_advance hi]
    exact Or.inl (h.created_sent j hj x hx)
  destroyed_gone := fun j hj x hx => advance_gone hi (h.destroyed_gone j hj x hx)
  once := h.once
  sent := by
    intro x hx
    rw [Bool.or_eq_true, decide_eq_true_iff]
    -- sent before, or created by the issue that was refused just now
    rcases (is_sent_advance hi x).mp hx with hx | hx
    · rcases h.sent x hx with hr | hm
      · exact Or.inl (Or.inl hr)
      · exact Or.inr hm
    · exact Or.inl (Or.inr hx)
  refused := by
    intro x hx
    rw [Bool.or_eq_true, decide_eq_true_iff] at hx
    rw [is_sent_advance hi]
    rcases hx with hx | hx
    · obtain ⟨hs, hnot⟩ := h.refused x hx
      exact ⟨Or.inl hs, hnot⟩
    · -- its create would have been sent before, but it is being created now
      refine ⟨Or.inr hx, ?_⟩
      intro hmem
      obtain ⟨j, hj, hjx⟩ := List.mem_filterMap.mp hmem
      have hsent := h.created_sent j hj x hjx
      rw [hi.creating x hx] at hsent
      cases hsent
  order := by
    intro pre x post hsplit y hy
    obtain ⟨hcreated, hdestroyed⟩ := h.order pre x post hsplit y hy
    refine ⟨?_, hdestroyed⟩
    rw [Bool.or_eq_true]
    rcases hcreated with hr | hm
    · exact Or.inl (Or.inl hr)
    · exact Or.inr hm

/-- **One call of `send`** keeps the record straight. -/
theorem Inv.send {s : Facade} {i : Issue} (h : s.Inv) (hi : Issuable s i) : (s.send i).1.Inv := by
  unfold Facade.send
  rcases encode_frame Wire.frame ⟨some ⟨s.next_request_id⟩, i.action⟩ with e | bytes
  · exact h.send_error hi
  · exact h.send_ok hi

/-- A frame that encodes becomes a job. -/
theorem send_of_encodes {s : Facade} {i : Issue} {bytes : Bytes}
    (h : encode_frame Wire.frame ⟨some ⟨s.next_request_id⟩, i.action⟩ = .ok bytes) :
    s.send i = ({ s with
      next_request_id := s.next_request_id + 1, stage := advance i s.stage
      issued := s.issued ++ [i] }, some ⟨i, bytes⟩) := by
  unfold send
  rw [h]

/-- What `send` puts into the inbox is what it puts on record. -/
theorem send_job (s : Facade) (i : Issue) :
    ((s.send i).2 = none ∧ (s.send i).1.issued = s.issued) ∨
      ∃ j, (s.send i).2 = some j ∧ j.issue = i ∧ (s.send i).1.issued = s.issued ++ [i] ∧
        ∃ rid, encode_frame Wire.frame ⟨some rid, i.action⟩ = .ok j.bytes := by
  unfold Facade.send
  rcases henc : encode_frame Wire.frame ⟨some ⟨s.next_request_id⟩, i.action⟩ with e | bytes
  · exact Or.inl ⟨rfl, rfl⟩
  · exact Or.inr ⟨_, rfl, rfl, rfl, _, henc⟩

omit [WgpuTypes] in
/-- A handle that changes its stage, and does not become a sent one by it. -/
theorem is_sent_update {stage : Slot → Option Stage} {x : Slot} {new : Stage}
    (h : Stage.is_sent (some new) = Stage.is_sent (stage x)) (y : Slot) :
    Stage.is_sent (if y = x then some new else stage y) = Stage.is_sent (stage y) := by
  by_cases hyx : y = x
  · rw [if_pos hyx, hyx, h]
  · rw [if_neg hyx]

/-- A minted handle was in no stage before. -/
theorem Inv.fresh {s : Facade} (h : s.Inv) (device : ℕ) (k : Kind) :
    s.stage ⟨device, k, s.ids device k⟩ = none := by
  by_contra hne
  exact absurd ((h.minted _).mp hne) (Nat.lt_irrefl _)

/-- A handle moves between two stages that are both after its sending. -/
theorem Inv.restage {s : Facade} (h : s.Inv) {x : Slot} {old new : Stage}
    (hx : s.stage x = some old) (hold : Stage.is_sent (some old) = Stage.is_sent (some new))
    (hgone : old ≠ .gone) :
    Inv { s with stage := fun y => if y = x then some new else s.stage y } := by
  refine h.quiet rfl rfl h.unrequested ?_ ?_ ?_
  · intro y
    rw [← h.minted y]
    show (if y = x then some new else s.stage y) ≠ none ↔ _
    by_cases hyx : y = x
    · rw [if_pos hyx, hyx, hx]
      exact ⟨fun _ => Option.some_ne_none _, fun _ => Option.some_ne_none _⟩
    · rw [if_neg hyx]
  · apply is_sent_update
    rw [hx, hold]
  -- the handle that changes its stage was not gone
  · intro y hy
    show (if y = x then some new else s.stage y) = _
    have hyx : y ≠ x := by
      rintro rfl
      rw [hx] at hy
      exact hgone (Option.some.inj hy)
    rw [if_neg hyx]
    exact hy

/-- A minting: the new handle was in no stage before. -/
theorem Inv.mint {s : Facade} (h : s.Inv) {device : ℕ} (k : Kind) (hd : device < s.devices) :
    Inv { s with
      ids := fun d => if d = device then (IdMinter.mint (s.ids device) k).2 else s.ids d
      stage := fun x => if x = ⟨device, k, s.ids device k⟩ then some .creating else s.stage x } := by
  have hfresh := h.fresh device k
  refine h.quiet rfl rfl ?_ ?_ ?_ ?_
  -- ids are minted on requested devices only
  · intro d hle
    have hne : d ≠ device := by
      rintro rfl
      exact absurd hd (Nat.not_lt.mpr hle)
    show (if d = device then _ else s.ids d) = _
    rw [if_neg hne]
    exact h.unrequested d hle
  · intro x
    show (if x = _ then some Stage.creating else s.stage x) ≠ none ↔
      x.n < (if x.device = device then (IdMinter.mint (s.ids device) k).2 else s.ids x.device) x.kind
    by_cases hxe : x = ⟨device, k, s.ids device k⟩
    · rw [hxe, if_pos rfl, if_pos rfl]
      show _ ↔ s.ids device k < (if k = k then s.ids device k + 1 else s.ids device k)
      rw [if_pos rfl]
      exact ⟨fun _ => Nat.lt_succ_self _, fun _ => Option.some_ne_none _⟩
    · rw [if_neg hxe, h.minted x]
      by_cases hdev : x.device = device
      · rw [if_pos hdev, hdev]
        show _ ↔ x.n < (if x.kind = k then s.ids device k + 1 else s.ids device x.kind)
        by_cases hk : x.kind = k
        · -- the one number in between is the new handle's
          rw [if_pos hk, hk]
          have hn : x.n ≠ s.ids device k := by
            intro hn
            obtain ⟨xd, xk, xn⟩ := x
            change xd = device at hdev
            change xk = k at hk
            change xn = s.ids device k at hn
            exact hxe (by rw [hdev, hk, hn])
          omega
        · rw [if_neg hk]
      · rw [if_neg hdev]
  -- neither a handle without a stage nor one being created counts as sent
  · apply is_sent_update
    rw [hfresh]
    rfl
  · intro x hx
    show (if x = _ then some Stage.creating else s.stage x) = _
    have hxe : x ≠ ⟨device, k, s.ids device k⟩ := by
      rintro rfl
      rw [hfresh] at hx
      cases hx
    rw [if_neg hxe]
    exact hx

/-- Each step is quiet, or one call of `send`. -/
theorem step_cases {s s' : Facade} {l : Label} {job : Option Job} (hi : s.Inv)
    (h : s.step l = some (s', job)) :
    (s'.Inv ∧ s'.issued = s.issued ∧ job = none ∧ s'.refused = s.refused ∧
        ∀ x, Stage.is_sent (s'.stage x) = Stage.is_sent (s.stage x)) ∨
      ∃ i, Issuable s i ∧ s.send i = (s', job) ∧
        (i.creates = none → i.destroys = none → l = .send i.device i.action) := by
  rcases l with _ | ⟨device, k⟩ | ⟨x, a⟩ | ⟨device, a⟩ | x | x | x
  · -- a new device
    cases h
    refine Or.inl ⟨hi.quiet rfl rfl ?_ hi.minted (fun _ => rfl) (fun _ => id), rfl, rfl,
      rfl, fun _ => rfl⟩
    intro d hd
    exact hi.unrequested d (Nat.le_of_succ_le hd)
  · -- a minting
    unfold Facade.step at h
    by_cases hd : device < s.devices
    · simp only [if_pos hd] at h
      cases h
      refine Or.inl ⟨hi.mint k hd, rfl, rfl, rfl, is_sent_update ?_⟩
      rw [hi.fresh device k]
      rfl
    · simp only [if_neg hd] at h
      cases h
  · -- the create call sends
    unfold Facade.step at h
    by_cases hc : s.stage x = some .creating ∧ a.creates = some x.ref
    · simp only [if_pos hc] at h
      exact Or.inr ⟨_, Issuable.create hc.1 hc.2, Option.some.inj h,
        fun hnone => absurd hnone (by simp)⟩
    · simp only [if_neg hc] at h
      exact absurd h (by simp)
  · -- any other call sends
    unfold Facade.step at h
    by_cases hc : a.creates = none ∧ a.destroys = none
    · simp only [if_pos hc] at h
      exact Or.inr ⟨_, Issuable.other device hc.1 hc.2, Option.some.inj h, fun _ _ => rfl⟩
    · simp only [if_neg hc] at h
      exact absurd h (by simp)
  · -- a clone
    rcases hx : s.stage x with _ | _ | extra | _ | _
    all_goals simp only [Facade.step, hx] at h
    case some.alive =>
      cases h
      exact Or.inl ⟨hi.restage hx rfl (by simp), rfl, rfl, rfl, is_sent_update (by rw [hx]; rfl)⟩
    all_goals cases h
  · -- a clone is dropped
    rcases hx : s.stage x with _ | _ | extra | _ | _
    all_goals simp only [Facade.step, hx] at h
    case some.alive =>
      rcases extra with _ | extra
      · cases h
        exact Or.inl ⟨hi.restage hx rfl (by simp), rfl, rfl, rfl, is_sent_update (by rw [hx]; rfl)⟩
      · cases h
        exact Or.inl ⟨hi.restage hx rfl (by simp), rfl, rfl, rfl, is_sent_update (by rw [hx]; rfl)⟩
    all_goals cases h
  · -- the last clone was dropped, its `Destroy` is sent
    unfold Facade.step at h
    by_cases hc : s.stage x = some .dropping
    · simp only [if_pos hc] at h
      exact Or.inr ⟨_, Issuable.destroy hc, Option.some.inj h,
        fun _ hnone => absurd hnone (by simp)⟩
    · simp only [if_neg hc] at h
      exact absurd h (by simp)

/-- Sending an action mints no id. -/
theorem send_ids (s : Facade) (i : Issue) : (s.send i).1.ids = s.ids := by
  unfold send
  rcases encode_frame Wire.frame ⟨some ⟨s.next_request_id⟩, i.action⟩ with e | bytes
  · rfl
  · rfl

/-- Only a minting moves a counter, and only its own. -/
theorem step_ids {s s' : Facade} {l : Label} {job : Option Job}
    (h : s.step l = some (s', job)) :
    s'.ids = s.ids ∨ ∃ device k, l = .mint device k ∧
      s'.ids = fun d => if d = device then (IdMinter.mint (s.ids device) k).2 else s.ids d := by
  -- the three that send
  have hsend : ∀ {c : Prop} [Decidable c] {i : Issue},
      (if c then some (s.send i) else none) = some (s', job) → s'.ids = s.ids := by
    intro c _ i hc
    by_cases hp : c
    · rw [if_pos hp] at hc
      rw [← send_ids s i, Option.some.inj hc]
    · rw [if_neg hp] at hc
      exact absurd hc (by simp)
  rcases l with _ | ⟨device, k⟩ | ⟨x, a⟩ | ⟨device, a⟩ | x | x | x
  · cases h
    exact Or.inl rfl
  · unfold Facade.step at h
    by_cases hd : device < s.devices
    · simp only [if_pos hd] at h
      cases h
      exact Or.inr ⟨device, k, rfl, rfl⟩
    · simp only [if_neg hd] at h
      exact absurd h (by simp)
  · exact Or.inl (hsend h)
  · exact Or.inl (hsend h)
  · rcases hx : s.stage x with _ | _ | extra | _ | _
    all_goals simp only [Facade.step, hx] at h
    all_goals first | (cases h; exact Or.inl rfl) | exact absurd h (by simp)
  · rcases hx : s.stage x with _ | _ | (_ | extra) | _ | _
    all_goals simp only [Facade.step, hx] at h
    all_goals first | (cases h; exact Or.inl rfl) | exact absurd h (by simp)
  · exact Or.inl (hsend h)

/-- A handle that was sent stays one that was sent. -/
theorem step_sent {s s' : Facade} {l : Label} {job : Option Job} (hi : s.Inv)
    (h : s.step l = some (s', job)) {x : Slot} (hx : Stage.is_sent (s.stage x) = true) :
    Stage.is_sent (s'.stage x) = true := by
  rcases step_cases hi h with ⟨-, -, -, -, hsent⟩ | ⟨i, hissuable, hsend, -⟩
  · rw [hsent]
    exact hx
  · have hstage : (s.send i).1.stage = advance i s.stage := by
      unfold send
      rcases encode_frame Wire.frame ⟨some ⟨s.next_request_id⟩, i.action⟩ with e | bytes
      · rfl
      · rfl
    have hs : s' = (s.send i).1 := by rw [hsend]
    rw [hs, hstage, is_sent_advance hissuable]
    exact Or.inl hx

/-- A step adds at most one call to the record. One that neither creates nor
destroys is a call of `send`. -/
theorem step_issued {s s' : Facade} {l : Label} {job : Option Job} (hi : s.Inv)
    (h : s.step l = some (s', job)) :
    s'.issued = s.issued ∨ ∃ i, s'.issued = s.issued ++ [i] ∧
      (i.action.creates = none → i.action.destroys = none → l = .send i.device i.action) := by
  rcases step_cases hi h with ⟨-, hissued, -⟩ | ⟨i, hissuable, hsend, hlabel⟩
  · exact Or.inl hissued
  · have hs : s' = (s.send i).1 := by rw [hsend]
    rcases send_job s i with ⟨-, hissued⟩ | ⟨j, -, -, hissued, -⟩
    · rw [hs]
      exact Or.inl hissued
    · refine Or.inr ⟨i, by rw [hs, hissued], ?_⟩
      intro hc hd
      rw [hissuable.creates] at hc
      rw [hissuable.destroys] at hd
      exact hlabel (Option.map_eq_none_iff.mp hc) (Option.map_eq_none_iff.mp hd)

/-- A create that was refused stays on record as such. -/
theorem step_refused {s s' : Facade} {l : Label} {job : Option Job} (hi : s.Inv)
    (h : s.step l = some (s', job)) {x : Slot} (hx : s.refused x = true) : s'.refused x = true := by
  rcases step_cases hi h with ⟨-, -, -, hrefused, -⟩ | ⟨i, -, hsend, -⟩
  · rw [hrefused]
    exact hx
  · have hs : s' = (s.send i).1 := by rw [hsend]
    rw [hs]
    unfold send
    rcases encode_frame Wire.frame ⟨some ⟨s.next_request_id⟩, i.action⟩ with e | bytes
    · show (s.refused x || _) = true
      rw [hx, Bool.true_or]
    · exact hx

/-- **One step** keeps the record straight. -/
theorem Inv.step {s s' : Facade} {l : Label} {job : Option Job} (hi : s.Inv)
    (h : s.step l = some (s', job)) : s'.Inv := by
  rcases step_cases hi h with ⟨hinv, -⟩ | ⟨i, hissuable, hsend, -⟩
  · exact hinv
  · have hs : s' = (s.send i).1 := by rw [hsend]
    rw [hs]
    exact hi.send hissuable

end Facade

end Facade

end WgpuRemote.Client
