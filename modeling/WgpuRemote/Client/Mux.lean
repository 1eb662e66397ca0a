/-
`client::client`: requests over one multiplexed stream.

Any number of threads call `request` and `send` on a client whose stream is
open. The writer task takes jobs from the inbox, the reader task hands responses
to whoever awaits them under their id. Each of them may fail at any moment, and
a future may be dropped wherever it awaits.

A call is known by the number of its minting, not by its request id: ids repeat
when the counter wraps. What the calls do comes in the atomic pieces of
`Mux.Label`; `Mux.Moves` lists all that one of them can do.
-/
import WgpuRemote.Protocol.Codec
import WgpuRemote.Lib.Store
import WgpuRemote.Lib.Transition
import Mathlib.Logic.Function.Basic

set_option autoImplicit false

namespace WgpuRemote.Client

open Bincode

/-! ## Calls -/

/-- The errors a `request` on an open stream can return. -/
inductive ClientError where
  | Codec (e : CodecError)
  | ConnectionClosed

/-- What a `oneshot` channel holds. -/
inductive Oneshot where
  | waiting
  | sent (r : Response)
  /-- The sender was dropped. -/
  | closed

/-- How far a call has come. -/
inductive Phase where
  /-- Its request id is minted. -/
  | minted
  /-- The sender of its channel is in the pending map. -/
  | inserted (bytes : Bytes)
  /-- The inbox did not take its job. -/
  | refused
  | awaiting
  | returned
  /-- The future was dropped. -/
  | cancelled

/-- The call has not pushed its job, and may still do so. -/
def Phase.unsent : Phase → Bool
  | .minted | .inserted _ => true
  | .refused | .awaiting | .returned | .cancelled => false

/-- The call has a channel and has not returned. -/
def Phase.expects : Phase → Bool
  | .inserted _ | .refused | .awaiting => true
  | .minted | .returned | .cancelled => false

section Mux

variable [WgpuTypes]

/-- A call of `request`, which awaits its response, or of `send`. -/
structure Call where
  rid : RequestId
  action : Action
  awaited : Bool

/-- The call's frame, encoded. -/
def Call.encode (c : Call) : Except CodecError Bytes :=
  encode_frame Wire.frame ⟨some c.rid, c.action⟩

/-- A frame for the writer task, and the call it is from. -/
structure WriteJob where
  n : ℕ
  bytes : Bytes

inductive ReaderTask where
  | running
  /-- Out of its loop. -/
  | exited
  /-- Finished: it has cleared the pending map. -/
  | cleared
deriving DecidableEq

structure Mux where
  next_request_id : UInt64
  calls : List Call
  phase : ℕ → Phase
  oneshot : ℕ → Oneshot
  /-- Whose sender stands under a request id. -/
  pending : RequestId → Option ℕ
  inbox : List WriteJob
  /-- The writer task is running. -/
  writer : Bool
  reader : ReaderTask
  /-- What the calls of `request` have returned. -/
  results : List (ℕ × Except ClientError Response)

namespace Mux

/-- `Mux::open`, on a client that mints `next_request_id` next. -/
def new (next_request_id : UInt64) : Mux where
  next_request_id
  calls := []
  phase := fun _ => .minted
  oneshot := fun _ => .waiting
  pending := fun _ => none
  inbox := []
  writer := true
  reader := .running
  results := []

/-! ## The pieces -/

/-- `mint_request_id`. -/
def mint (s : Mux) (awaited : Bool) (action : Action) : Mux :=
  { s with
    next_request_id := s.next_request_id + 1
    calls := s.calls ++ [⟨⟨s.next_request_id⟩, action, awaited⟩] }

/-- The channels when the sender under an id, if there is one, is dropped. -/
def drop_sender (s : Mux) (rid : RequestId) : ℕ → Oneshot :=
  match s.pending rid with
  | some m => Function.update s.oneshot m .closed
  | none => s.oneshot

/-- `pending.insert`: a sender already under the id is dropped. -/
def insert (s : Mux) (n : ℕ) (rid : RequestId) (bytes : Bytes) : Mux :=
  { s with
    pending := Store.insert s.pending rid n
    oneshot := Function.update (s.drop_sender rid) n .waiting
    phase := Function.update s.phase n (.inserted bytes) }

/-- `inbox.send`: fails once the writer task is gone. -/
def send (s : Mux) (job : WriteJob) : Mux :=
  if s.writer then { s with inbox := s.inbox ++ [job] } else s

/-- A call goes on. -/
def enter (s : Mux) (n : ℕ) (p : Phase) : Mux := { s with phase := Function.update s.phase n p }

/-- A `request` returns. -/
def finish (s : Mux) (n : ℕ) (result : Except ClientError Response) : Mux :=
  { s.enter n .returned with results := s.results ++ [(n, result)] }

/-- `pending.remove`, where the sender found is dropped. -/
def remove (s : Mux) (rid : RequestId) : Mux :=
  { s with pending := Store.remove s.pending rid, oneshot := s.drop_sender rid }

/-- The reader hands a response to the sender under its id. Without one the
response is discarded. -/
def deliver (s : Mux) (frame : ResponseFrame) : Mux :=
  match s.pending frame.request_id with
  | some m =>
      { s with
        pending := Store.remove s.pending frame.request_id
        oneshot := Function.update s.oneshot m (.sent frame.response) }
  | none => s

/-- `pending.clear()`: every sender in the map is dropped. -/
def clear (s : Mux) : Mux :=
  { s with
    pending := fun _ => none
    oneshot := fun m =>
      match s.calls[m]? with
      | some c => if s.pending c.rid = some m then .closed else s.oneshot m
      | none => s.oneshot m
    reader := .cleared }

inductive Label where
  /-- A call of `request` or `send` mints its id. -/
  | call (awaited : Bool) (action : Action)
  /-- A `request` encodes its frame and puts its sender into the pending map. -/
  | insert (n : ℕ)
  /-- A `request` pushes its job to the inbox. -/
  | push (n : ℕ)
  /-- A `request` whose job was refused takes its sender back and returns. -/
  | give_up (n : ℕ)
  /-- A `request` whose channel is resolved returns. -/
  | resume (n : ℕ)
  /-- The future of a `request` is dropped. -/
  | cancel (n : ℕ)
  /-- A `send` encodes its frame and pushes its job. -/
  | send (n : ℕ)
  /-- The writer task writes a job. -/
  | write
  /-- The writer task fails to write a job, and ends. -/
  | write_error
  /-- The reader task has read a frame. -/
  | read (raw : Bytes)
  /-- The reader task fails to read a frame. -/
  | read_error
  /-- The reader task clears the pending map, and ends. -/
  | clear

def step (s : Mux) : Label → Option Mux
  | .call awaited action => some (s.mint awaited action)
  | .insert n =>
      match s.calls[n]?, s.phase n with
      | some ⟨rid, action, true⟩, .minted =>
          match (Call.mk rid action true).encode with
          | .error e => some (s.finish n (.error (.Codec e)))
          | .ok bytes => some (s.insert n rid bytes)
      | _, _ => none
  | .push n =>
      match s.phase n with
      | .inserted bytes =>
          some ((s.send ⟨n, bytes⟩).enter n (if s.writer then .awaiting else .refused))
      | _ => none
  | .give_up n =>
      match s.calls[n]?, s.phase n with
      | some c, .refused => some ((s.remove c.rid).finish n (.error .ConnectionClosed))
      | _, _ => none
  | .resume n =>
      match s.phase n, s.oneshot n with
      | .awaiting, .sent r => some (s.finish n (.ok r))
      | .awaiting, .closed => some (s.finish n (.error .ConnectionClosed))
      | _, _ => none
  | .cancel n =>
      match s.calls[n]?, s.phase n with
      | some ⟨_, _, true⟩, .minted => some (s.enter n .cancelled)
      | some _, .awaiting => some (s.enter n .cancelled)
      | _, _ => none
  | .send n =>
      match s.calls[n]?, s.phase n with
      | some ⟨rid, action, false⟩, .minted =>
          match (Call.mk rid action false).encode with
          | .error _ => some (s.enter n .returned)
          | .ok bytes => some ((s.send ⟨n, bytes⟩).enter n .returned)
      | _, _ => none
  | .write =>
      match s.writer, s.inbox with
      | true, _ :: inbox => some { s with inbox }
      | _, _ => none
  | .write_error =>
      match s.writer, s.inbox with
      | true, _ :: _ => some { s with inbox := [], writer := false }
      | _, _ => none
  | .read raw =>
      match s.reader with
      | .running =>
          match decode_frame Wire.response_frame raw with
          | .error _ => some { s with reader := .exited }
          | .ok (frame, _) => some (s.deliver frame)
      | _ => none
  | .read_error =>
      match s.reader with
      | .running => some { s with reader := .exited }
      | _ => none
  | .clear =>
      match s.reader with
      | .exited => some s.clear
      | _ => none

/-- **All that one piece can do.** -/
inductive Moves (s : Mux) : Label → Mux → Prop where
  | call (awaited : Bool) (action : Action) : Moves s (.call awaited action) (s.mint awaited action)
  | encode_error {n : ℕ} {c : Call} {e : CodecError} (hc : s.calls[n]? = some c)
      (ha : c.awaited = true) (hp : s.phase n = .minted) (he : c.encode = .error e) :
      Moves s (.insert n) (s.finish n (.error (.Codec e)))
  | insert {n : ℕ} {c : Call} {bytes : Bytes} (hc : s.calls[n]? = some c)
      (ha : c.awaited = true) (hp : s.phase n = .minted) (he : c.encode = .ok bytes) :
      Moves s (.insert n) (s.insert n c.rid bytes)
  | push {n : ℕ} {bytes : Bytes} (hp : s.phase n = .inserted bytes) (hw : s.writer = true) :
      Moves s (.push n) ({ s with inbox := s.inbox ++ [WriteJob.mk n bytes] }.enter n .awaiting)
  | refuse {n : ℕ} {bytes : Bytes} (hp : s.phase n = .inserted bytes) (hw : s.writer = false) :
      Moves s (.push n) (s.enter n .refused)
  | give_up {n : ℕ} {c : Call} (hc : s.calls[n]? = some c) (hp : s.phase n = .refused) :
      Moves s (.give_up n) ((s.remove c.rid).finish n (.error .ConnectionClosed))
  | resume {n : ℕ} {r : Response} (hp : s.phase n = .awaiting) (ho : s.oneshot n = .sent r) :
      Moves s (.resume n) (s.finish n (.ok r))
  | closed {n : ℕ} (hp : s.phase n = .awaiting) (ho : s.oneshot n = .closed) :
      Moves s (.resume n) (s.finish n (.error .ConnectionClosed))
  | cancel {n : ℕ} {c : Call} (hc : s.calls[n]? = some c)
      (hp : s.phase n = .minted ∧ c.awaited = true ∨ s.phase n = .awaiting) :
      Moves s (.cancel n) (s.enter n .cancelled)
  | send_error {n : ℕ} {c : Call} (hc : s.calls[n]? = some c) (ha : c.awaited = false)
      (hp : s.phase n = .minted) : Moves s (.send n) (s.enter n .returned)
  | send {n : ℕ} {c : Call} {bytes : Bytes} (hc : s.calls[n]? = some c) (ha : c.awaited = false)
      (hp : s.phase n = .minted) (he : c.encode = .ok bytes) (hw : s.writer = true) :
      Moves s (.send n) ({ s with inbox := s.inbox ++ [WriteJob.mk n bytes] }.enter n .returned)
  | write {job : WriteJob} {inbox : List WriteJob} (hw : s.writer = true)
      (hi : s.inbox = job :: inbox) : Moves s .write { s with inbox }
  | write_error (hw : s.writer = true) : Moves s .write_error { s with inbox := [], writer := false }
  | decode_error (raw : Bytes) (hr : s.reader = .running) :
      Moves s (.read raw) { s with reader := .exited }
  | read {raw : Bytes} {frame : ResponseFrame} {used : ℕ} (hr : s.reader = .running)
      (hd : decode_frame Wire.response_frame raw = .ok (frame, used)) :
      Moves s (.read raw) (s.deliver frame)
  | read_error (hr : s.reader = .running) : Moves s .read_error { s with reader := .exited }
  | clear (hr : s.reader = .exited) : Moves s .clear s.clear

/-- The steps of the model are moves, and no more: one case a label, split where the source
branches. -/
theorem moves_of_step {s s' : Mux} {l : Label} (h : s.step l = some s') : Moves s l s' := by
  have hsend : ∀ job : WriteJob, s.writer = true →
      s.send job = { s with inbox := s.inbox ++ [job] } := fun job hw => if_pos hw
  have hdead : ∀ job : WriteJob, s.writer = false → s.send job = s := by
    intro job hw
    unfold Mux.send
    rw [hw]
    rfl
  cases l with
  | call awaited action =>
      rw [← Option.some.inj h]
      exact Moves.call awaited action
  | insert n =>
      simp only [step] at h
      split at h
      · rename_i rid action hc hp
        split at h
        · rename_i e he
          rw [← Option.some.inj h]
          exact Moves.encode_error hc rfl hp he
        · rename_i bytes he
          rw [← Option.some.inj h]
          exact Moves.insert hc rfl hp he
      · exact absurd h (by simp)
  | push n =>
      simp only [step] at h
      split at h
      · rename_i bytes hp
        rw [← Option.some.inj h]
        by_cases hw : s.writer = true
        · rw [if_pos hw, hsend _ hw]
          exact Moves.push hp hw
        · rw [Bool.not_eq_true] at hw
          rw [hdead _ hw, hw]
          exact Moves.refuse hp hw
      · exact absurd h (by simp)
  | give_up n =>
      simp only [step] at h
      split at h
      · rename_i c hc hp
        rw [← Option.some.inj h]
        exact Moves.give_up hc hp
      · exact absurd h (by simp)
  | resume n =>
      simp only [step] at h
      split at h
      · rename_i r hp ho
        rw [← Option.some.inj h]
        exact Moves.resume hp ho
      · rename_i hp ho
        rw [← Option.some.inj h]
        exact Moves.closed hp ho
      · exact absurd h (by simp)
  | cancel n =>
      simp only [step] at h
      split at h
      · rename_i rid action hc hp
        rw [← Option.some.inj h]
        exact Moves.cancel hc (Or.inl ⟨hp, rfl⟩)
      · rename_i c hc hp
        rw [← Option.some.inj h]
        exact Moves.cancel hc (Or.inr hp)
      · exact absurd h (by simp)
  | send n =>
      simp only [step] at h
      split at h
      · rename_i rid action hc hp
        split at h
        · rw [← Option.some.inj h]
          exact Moves.send_error hc rfl hp
        · rename_i bytes he
          rw [← Option.some.inj h]
          by_cases hw : s.writer = true
          · rw [hsend _ hw]
            exact Moves.send hc rfl hp he hw
          · -- without a writer the job is dropped
            rw [Bool.not_eq_true] at hw
            rw [hdead _ hw]
            exact Moves.send_error hc rfl hp
      · exact absurd h (by simp)
  | write =>
      simp only [step] at h
      split at h
      · rename_i job inbox hw hi
        rw [← Option.some.inj h]
        exact Moves.write hw hi
      · exact absurd h (by simp)
  | write_error =>
      simp only [step] at h
      split at h
      · rename_i job inbox hw hi
        rw [← Option.some.inj h]
        exact Moves.write_error hw
      · exact absurd h (by simp)
  | read raw =>
      simp only [step] at h
      split at h
      · rename_i hr
        split at h
        · rw [← Option.some.inj h]
          exact Moves.decode_error raw hr
        · rename_i frame used hd
          rw [← Option.some.inj h]
          exact Moves.read hr hd
      · exact absurd h (by simp)
  | read_error =>
      simp only [step] at h
      split at h
      · rename_i hr
        rw [← Option.some.inj h]
        exact Moves.read_error hr
      · exact absurd h (by simp)
  | clear =>
      simp only [step] at h
      split at h
      · rename_i hr
        rw [← Option.some.inj h]
        exact Moves.clear hr
      · exact absurd h (by simp)

/-! ## What a piece leaves alone -/

section Pieces

variable {s s' : Mux} {l : Label}

/-- A delivery changes the map and the channels. -/
theorem deliver_eq (s : Mux) (frame : ResponseFrame) :
    s.deliver frame = { s with
      pending := (s.deliver frame).pending, oneshot := (s.deliver frame).oneshot } := by
  unfold deliver
  split
  · rfl
  · rfl

/-- What a call enters stays its phase. -/
theorem of_update_phase {p q : Phase} (hp : p ≠ q) {m n : ℕ}
    (h : Function.update s.phase m p n = q) : s.phase n = q := by
  by_cases hnm : n = m
  · rw [hnm, Function.update_self] at h
    exact absurd h hp
  · rwa [Function.update_of_ne hnm] at h

/-- A sender that is dropped leaves its channel closed, and the others as they are. -/
theorem of_drop_sender {rid : RequestId} {n : ℕ} {o : Oneshot} (ho : o ≠ .closed)
    (h : s.drop_sender rid n = o) : s.oneshot n = o ∧ s.pending rid ≠ some n := by
  unfold drop_sender at h
  rcases hm : s.pending rid with _ | m
  · rw [hm] at h
    exact ⟨h, by simp⟩
  · rw [hm] at h
    by_cases hn : n = m
    · simp only [hn, Function.update_self] at h
      exact absurd h.symm ho
    · simp only [Function.update_of_ne hn] at h
      exact ⟨h, fun heq => hn (Option.some.inj heq).symm⟩

/-- What the reader's clearing leaves of a call's channel. -/
theorem clear_oneshot (s : Mux) {n : ℕ} {c : Call} (hc : s.calls[n]? = some c) :
    s.clear.oneshot n = if s.pending c.rid = some n then .closed else s.oneshot n := by
  unfold Mux.clear
  dsimp only
  rw [hc]

/-- Only a new call moves the counter. -/
theorem step_calls (h : s.step l = some s') :
    s'.calls = s.calls ∧ s'.next_request_id = s.next_request_id ∨
      ∃ awaited action, s' = s.mint awaited action := by
  rcases moves_of_step h
  case call awaited action => exact Or.inr ⟨awaited, action, rfl⟩
  case read raw frame used hr hd =>
    rw [deliver_eq]
    exact Or.inl ⟨rfl, rfl⟩
  all_goals exact Or.inl ⟨rfl, rfl⟩

/-- A call stays what it is. -/
theorem call_of_step (h : s.step l = some s') {n : ℕ} {c : Call} (hc : s.calls[n]? = some c) :
    s'.calls[n]? = some c := by
  rcases step_calls h with ⟨hcalls, -⟩ | ⟨awaited, action, rfl⟩
  · rw [hcalls]
    exact hc
  · show (s.calls ++ [_])[n]? = some c
    rw [List.getElem?_append_left (List.getElem?_eq_some_iff.mp hc).1]
    exact hc

/-- A call that has not pushed its job had not before. -/
theorem step_unsent (h : s.step l = some s') {n : ℕ} (hn : (s'.phase n).unsent = true) :
    (s.phase n).unsent = true := by
  have henter : ∀ {m : ℕ} {p : Phase}, (p.unsent = true → (s.phase m).unsent = true) →
      (Function.update s.phase m p n).unsent = true → (s.phase n).unsent = true := by
    intro m p hp hu
    by_cases hnm : n = m
    · rw [hnm, Function.update_self] at hu
      rw [hnm]
      exact hp hu
    · rwa [Function.update_of_ne hnm] at hu
  rcases moves_of_step h
  case insert m c bytes hc ha hp he => exact henter (fun _ => by rw [hp]; rfl) hn
  case read raw frame used hr hd =>
    rw [deliver_eq] at hn
    exact hn
  -- no other call enters a phase before its push
  all_goals first | exact hn | exact henter (fun hu => absurd hu (by simp [Phase.unsent])) hn

/-- The inbox keeps its jobs, or loses some, or takes one more from a call that
had not pushed its job, and now has. -/
theorem step_inbox (h : s.step l = some s') :
    s'.inbox = s.inbox ∨ (∃ job, l = .write ∧ s.inbox = job :: s'.inbox) ∨ s'.inbox = [] ∨
      ∃ n bytes, s'.inbox = s.inbox ++ [⟨n, bytes⟩] ∧ (s.phase n).unsent = true ∧
        (s'.phase n).unsent = false ∧ (s.phase n = .inserted bytes ∨
          ∃ c, s.calls[n]? = some c ∧ c.encode = .ok bytes) := by
  have hpushed : ∀ {n : ℕ} {p : Phase}, p.unsent = false →
      Phase.unsent (Function.update s.phase n p n) = false := by
    intro n p hp
    rw [Function.update_self]
    exact hp
  rcases moves_of_step h
  -- only a push and the send of a call change the inbox at its end
  case push n bytes hp hw =>
    exact Or.inr (Or.inr (Or.inr ⟨n, bytes, rfl, by rw [hp]; rfl, hpushed rfl, Or.inl hp⟩))
  case send n c bytes hc ha hp he hw =>
    exact Or.inr (Or.inr (Or.inr ⟨n, bytes, rfl, by rw [hp]; rfl, hpushed rfl,
      Or.inr ⟨c, hc, he⟩⟩))
  case write job inbox hw hi => exact Or.inr (Or.inl ⟨job, rfl, hi⟩)
  case write_error hw => exact Or.inr (Or.inr (Or.inl rfl))
  case read raw frame used hr hd =>
    rw [deliver_eq]
    exact Or.inl rfl
  all_goals exact Or.inl rfl

/-- A call that is inserted was inserted before, or is just being inserted. -/
theorem step_inserted (h : s.step l = some s') {n : ℕ} {bytes : Bytes}
    (hn : s'.phase n = .inserted bytes) :
    s.phase n = .inserted bytes ∨ ∃ c, s.calls[n]? = some c ∧ c.encode = .ok bytes := by
  rcases moves_of_step h
  case insert m c b hc ha hp he =>
    change Function.update s.phase m (.inserted b) n = .inserted bytes at hn
    by_cases hnm : n = m
    · rw [hnm, Function.update_self] at hn
      rw [hnm, ← Phase.inserted.inj hn]
      exact Or.inr ⟨c, hc, he⟩
    · rw [Function.update_of_ne hnm] at hn
      exact Or.inl hn
  case read raw frame used hr hd =>
    rw [deliver_eq] at hn
    exact Or.inl hn
  -- no other piece enters that phase
  all_goals first | exact Or.inl hn | exact Or.inl (of_update_phase (by simp) hn)

/-- A channel holds a response because the reader task has handed it one. -/
theorem step_sent (h : s.step l = some s') {m : ℕ} {r : Response} (hm : s'.oneshot m = .sent r) :
    s.oneshot m = .sent r ∨ ∃ raw frame used, l = .read raw ∧
      decode_frame Wire.response_frame raw = .ok (frame, used) ∧
      s.pending frame.request_id = some m ∧ frame.response = r := by
  rcases moves_of_step h
  case insert n c b hc ha hp he =>
    change Function.update (s.drop_sender c.rid) n .waiting m = .sent r at hm
    by_cases hmn : m = n
    · rw [hmn, Function.update_self] at hm
      exact absurd hm (by simp)
    · rw [Function.update_of_ne hmn] at hm
      exact Or.inl (of_drop_sender (by simp) hm).1
  case give_up n c hc hp => exact Or.inl (of_drop_sender (by simp) hm).1
  case read raw frame used hr hd =>
    -- the one channel that is resolved is that of the sender in the map
    unfold deliver at hm
    rcases hp : s.pending frame.request_id with _ | k
    · rw [hp] at hm
      exact Or.inl hm
    · rw [hp] at hm
      by_cases hmk : m = k
      · simp only [hmk, Function.update_self, Oneshot.sent.injEq] at hm
        refine Or.inr ⟨raw, frame, used, rfl, hd, ?_, hm⟩
        rw [hp, hmk]
      · simp only [Function.update_of_ne hmk] at hm
        exact Or.inl hm
  case clear hr =>
    rcases hc : s.calls[m]? with _ | c
    · unfold Mux.clear at hm
      simp only [hc] at hm
      exact Or.inl hm
    · rw [clear_oneshot s hc] at hm
      by_cases hp : s.pending c.rid = some m
      · rw [if_pos hp] at hm
        exact absurd hm (by simp)
      · rw [if_neg hp] at hm
        exact Or.inl hm
  all_goals exact Or.inl hm

/-- A request returns once: it has not returned before, and has now. A response
it returns was in its channel. -/
theorem step_results (h : s.step l = some s') :
    s'.results = s.results ∨ ∃ n result, s'.results = s.results ++ [(n, result)] ∧
      s.phase n ≠ .returned ∧ s'.phase n = .returned ∧
      ∀ r, result = .ok r → s.oneshot n = .sent r := by
  have hnow : ∀ n : ℕ, Function.update s.phase n .returned n = .returned :=
    fun n => Function.update_self n _ _
  rcases moves_of_step h
  case encode_error n c e hc ha hp he => exact Or.inr ⟨n, _, rfl, by simp [hp], hnow n, nofun⟩
  case give_up n c hc hp => exact Or.inr ⟨n, _, rfl, by simp [hp], hnow n, nofun⟩
  case resume n r hp ho =>
    refine Or.inr ⟨n, _, rfl, by simp [hp], hnow n, ?_⟩
    intro r' hr
    rw [← Except.ok.inj hr]
    exact ho
  case closed n hp ho => exact Or.inr ⟨n, _, rfl, by simp [hp], hnow n, nofun⟩
  case read raw frame used hr hd =>
    rw [deliver_eq]
    exact Or.inl rfl
  all_goals exact Or.inl rfl

/-- A call that has returned stays so. -/
theorem step_returned (h : s.step l = some s') {n : ℕ} (hn : s.phase n = .returned) :
    s'.phase n = .returned := by
  have henter : ∀ {m : ℕ} {p : Phase}, s.phase m ≠ .returned →
      Function.update s.phase m p n = .returned := by
    intro m p hm
    have hnm : n ≠ m := by
      rintro rfl
      exact hm hn
    rw [Function.update_of_ne hnm]
    exact hn
  rcases moves_of_step h
  case encode_error m c e hc ha hp he => exact henter (by simp [hp])
  case insert m c bytes hc ha hp he => exact henter (by simp [hp])
  case push m bytes hp hw | refuse m bytes hp hw => exact henter (by simp [hp])
  case give_up m c hc hp => exact henter (by simp [hp])
  case resume m r hp ho | closed m hp ho => exact henter (by simp [hp])
  case cancel m c hc hp =>
    apply henter
    rcases hp with ⟨hp, -⟩ | hp
    · simp [hp]
    · simp [hp]
  case send_error m c hc ha hp => exact henter (by simp [hp])
  case send m c bytes hc ha hp he hw => exact henter (by simp [hp])
  case read raw frame used hr hd =>
    rw [deliver_eq]
    exact hn
  -- the other pieces are not of a call
  all_goals exact hn

/-- A sender in the map is that of a request with that id. -/
def Keyed (s : Mux) : Prop :=
  ∀ rid m, s.pending rid = some m → ∃ c, s.calls[m]? = some c ∧ c.rid = rid ∧ c.awaited = true

/-- A sender is inserted under the id of its own call, and no step moves one. -/
theorem Keyed.step (hk : s.Keyed) (h : s.step l = some s') : s'.Keyed := by
  -- whatever the map holds was there before, or is being inserted
  have hold : ∀ rid m, s'.pending rid = some m → s.pending rid = some m ∨
      ∃ c, s.calls[m]? = some c ∧ c.rid = rid ∧ c.awaited = true := by
    intro rid m hm
    have hremove : ∀ {x : RequestId}, Store.remove s.pending x rid = some m →
        s.pending rid = some m := by
      intro x hx
      by_cases hrx : rid = x
      · rw [hrx, Store.remove_self] at hx
        exact absurd hx (by simp)
      · rwa [Store.remove_of_ne _ hrx] at hx
    rcases moves_of_step h
    case insert n c b hc ha hp he =>
      change Store.insert s.pending c.rid n rid = some m at hm
      by_cases hr : rid = c.rid
      · rw [hr, Store.insert_self] at hm
        rw [← Option.some.inj hm]
        exact Or.inr ⟨c, hc, hr.symm, ha⟩
      · rw [Store.insert_of_ne _ _ hr] at hm
        exact Or.inl hm
    case give_up n c hc hp => exact Or.inl (hremove hm)
    case read raw frame used hr hd =>
      unfold deliver at hm
      split at hm
      · exact Or.inl (hremove hm)
      · exact Or.inl hm
    case clear hr => exact absurd hm (by simp [Mux.clear])
    all_goals exact Or.inl hm
  intro rid m hm
  have hc : ∃ c, s.calls[m]? = some c ∧ c.rid = rid ∧ c.awaited = true := by
    rcases hold rid m hm with hm | hc
    · exact hk rid m hm
    · exact hc
  obtain ⟨c, hc, hr⟩ := hc
  exact ⟨c, call_of_step h hc, hr⟩

end Pieces

/-! ## `send` on an open stream -/

/-- `Client::send`, its pieces one after the other. -/
def send_action (s : Mux) (action : Action) : Mux :=
  let n := s.calls.length
  let s' := s.mint false action
  match (Call.mk ⟨s.next_request_id⟩ action false).encode with
  | .error _ => s'.enter n .returned
  | .ok bytes => (s'.send ⟨n, bytes⟩).enter n .returned

/-- `send` in one piece is its two pieces in a row. -/
theorem run_send_action {s : Mux} (action : Action)
    (hfresh : s.phase s.calls.length = .minted) :
    Transition.run step s [.call false action, .send s.calls.length] =
      some (s.send_action action) := by
  have hget : (s.mint false action).calls[s.calls.length]? =
      some ⟨⟨s.next_request_id⟩, action, false⟩ := by
    simp [mint]
  have hphase : (s.mint false action).phase s.calls.length = .minted := hfresh
  rw [Transition.run_cons]
  show Transition.run step (s.mint false action) [.send s.calls.length] = _
  rw [Transition.run_cons]
  simp only [step, hget, hphase, send_action]
  rcases (Call.mk ⟨s.next_request_id⟩ action false).encode with e | bytes
  · rfl
  · rfl

/-- `send` on an open stream: one job with the frame if it encodes, and nothing
otherwise. -/
theorem send_action_inbox {s : Mux} (hw : s.writer = true) (action : Action) :
    (s.send_action action).inbox =
      match encode_frame Wire.frame ⟨some ⟨s.next_request_id⟩, action⟩ with
      | .error _ => s.inbox
      | .ok bytes => s.inbox ++ [⟨s.calls.length, bytes⟩] := by
  unfold send_action Call.encode
  rcases encode_frame Wire.frame ⟨some ⟨s.next_request_id⟩, action⟩ with e | bytes
  · rfl
  · show ((s.mint false action).send ⟨s.calls.length, bytes⟩).inbox = _
    unfold send
    rw [if_pos (show (s.mint false action).writer = true from hw)]
    rfl

/-- Sending an action does not start or stop the writer. -/
@[simp] theorem send_action_writer (s : Mux) (action : Action) :
    (s.send_action action).writer = s.writer := by
  unfold send_action
  rcases (Call.mk ⟨s.next_request_id⟩ action false).encode with e | bytes
  · rfl
  · show ((s.mint false action).send ⟨s.calls.length, bytes⟩).writer = s.writer
    unfold send
    split
    · rfl
    · rfl

/-- What is enqueued stays in front of what `send` enqueues. -/
theorem mem_send_action {s : Mux} (hw : s.writer = true) {job : WriteJob} (h : job ∈ s.inbox)
    (action : Action) : job ∈ (s.send_action action).inbox := by
  rw [send_action_inbox hw]
  split
  · exact h
  · exact List.mem_append_left _ h

end Mux

end Mux

end WgpuRemote.Client
