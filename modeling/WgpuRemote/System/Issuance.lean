/-
The order in which one task's actions reach the server.

A task makes its calls of `Client::send` and `Client::request` one after
another. What they do to the client's `OnceCell`, the tasks they spawn, the
writer tasks and the server's stream handlers come as the pieces of
`Issuance.step`, in any order. The connection stays open, and so do the streams
on it.

A `send` that finds the cell empty works on a clone of it: the task it spawns
opens a stream of its own, and when that task ends it drops its mux, which aborts
the writer. The order is kept exactly if the first call is not such a `send`
(`in_order_iff`).
-/
import WgpuRemote.Protocol.Codec
import WgpuRemote.Lib.Transition

set_option autoImplicit false

namespace WgpuRemote

open Bincode

section Issuance

variable [WgpuTypes]

/-! ## The parties -/

inductive ClientCall where
  | request (action : Action)
  | send (action : Action)

def ClientCall.action : ClientCall → Action
  | .request action | .send action => action

/-- The frames of calls that are made in this order. -/
def frames : UInt64 → List ClientCall → List Frame
  | _, [] => []
  | next_request_id, c :: calls =>
      ⟨some ⟨next_request_id⟩, c.action⟩ :: frames (next_request_id + 1) calls

/-- A frame with its encoding. -/
structure EncodedFrame where
  frame : Frame
  bytes : Bytes
  encoded : encode_frame Wire.frame frame = .ok bytes

/-- `encode_frame`, where it succeeds. -/
def EncodedFrame.of (frame : Frame) : Option EncodedFrame :=
  match h : encode_frame Wire.frame frame with
  | .ok bytes => some ⟨frame, bytes, h⟩
  | .error _ => none

/-- A frame for a writer task, and whether it is one of the calling task's. -/
structure Issuance.Job where
  own : Bool
  data : EncodedFrame

/-- `Client::mux`. -/
inductive Cell where
  | empty
  /-- Somebody is in `Mux::open`. -/
  | opening
  | ready

/-- The first to enter `get_or_try_init` of an empty cell opens the mux. -/
def Cell.enter : Cell → Cell
  | .empty | .opening => .opening
  | .ready => .ready

/-- Where the calling task is. -/
inductive Caller where
  | idle
  /-- In `send`, which found no mux in the cell. -/
  | cloning (data : EncodedFrame)
  /-- In `request`, at `self.mux().await`. -/
  | waiting (data : EncodedFrame)
  /-- In `request`, at `resp_rx.await`. -/
  | awaiting (rid : Option RequestId)

/-- The frame a `request` has yet to push. -/
def Caller.held : Caller → List Frame
  | .waiting data => [data.frame]
  | .idle | .cloning _ | .awaiting _ => []

/-- A task that `send` has spawned. -/
inductive Cold where
  /-- Its cell is a clone of an empty one. -/
  | spawned (data : EncodedFrame)
  /-- Its cell is a clone of one that holds the client's mux. -/
  | shared (data : EncodedFrame)
  /-- It has opened a mux of its own. -/
  | opened (data : EncodedFrame)
  /-- Its job is in the inbox of that mux. -/
  | queued (data : EncodedFrame)
  /-- Its writer has written the job. -/
  | written (data : EncodedFrame)
  /-- Nothing is left of it. -/
  | ended

structure Issuance where
  cell : Cell
  /-- The calls still to be made. -/
  calls : List ClientCall
  next_request_id : UInt64
  caller : Caller
  /-- A request of another task, at `self.mux().await`. -/
  other : Option EncodedFrame
  inbox : List Issuance.Job
  stream : List Issuance.Job
  colds : List Cold
  /-- The calling task's frames the server has dispatched, on any stream. -/
  dispatched : List Frame

namespace Issuance

/-- The client when the calls begin. -/
inductive Start where
  /-- `Client::new`. -/
  | fresh
  /-- A first request is opening the stream. -/
  | opening (other : EncodedFrame)
  /-- The mux is there, with frames of earlier calls under way. -/
  | ready (inbox stream : List EncodedFrame)

def Start.initialized : Start → Bool
  | .ready _ _ => true
  | .fresh | .opening _ => false

def new (start : Start) (next_request_id : UInt64) (calls : List ClientCall) : Issuance where
  cell :=
    match start with
    | .fresh => .empty
    | .opening _ => .opening
    | .ready _ _ => .ready
  calls
  next_request_id
  caller := .idle
  other :=
    match start with
    | .opening other => some other
    | .fresh | .ready _ _ => none
  inbox :=
    match start with
    | .ready inbox _ => inbox.map (Job.mk false)
    | .fresh | .opening _ => []
  stream :=
    match start with
    | .ready _ stream => stream.map (Job.mk false)
    | .fresh | .opening _ => []
  colds := []
  dispatched := []

/-! ## The pieces -/

/-- A call mints its id and encodes its frame. A `request` goes on to
`get_or_try_init`, a `send` pushes its job if it finds the mux. -/
def begin_call (s : Issuance) (c : ClientCall) (calls : List ClientCall) : Issuance :=
  let s' := { s with calls, next_request_id := s.next_request_id + 1 }
  match EncodedFrame.of ⟨some ⟨s.next_request_id⟩, c.action⟩, c with
  -- `request` returns the error, `send` drops it
  | none, _ => s'
  | some data, .request _ => { s' with caller := .waiting data, cell := s.cell.enter }
  | some data, .send _ =>
      match s.cell with
      | .ready => { s' with inbox := s.inbox ++ [⟨true, data⟩] }
      | .empty | .opening => { s' with caller := .cloning data }

/-- What `mux_cell` is a clone of. -/
def clone (s : Issuance) (data : EncodedFrame) : Cold :=
  match s.cell with
  | .ready => .shared data
  | .empty | .opening => .spawned data

/-- A stream handler decodes a frame and dispatches it. -/
def serve (s : Issuance) (job : Job) : Option Issuance :=
  match decode_frame Wire.frame job.data.bytes, job.own with
  | .ok (frame, _), true => some { s with dispatched := s.dispatched ++ [frame] }
  | .ok _, false => some s
  | .error _, _ => none

inductive Label where
  /-- The task makes its next call. -/
  | call
  /-- A `send` clones the cell and spawns its task. -/
  | clone
  /-- `Mux::open` returns: the cell is set. -/
  | open
  /-- A `request` pushes its job. -/
  | push
  /-- The other task's request pushes its job. -/
  | other_push
  /-- The writer task writes a job to the stream. -/
  | write
  | serve
  /-- A `request` returns with its response. -/
  | resume
  /-- A spawned task opens a mux in its cell. -/
  | cold_open (k : ℕ)
  /-- A spawned task pushes its job. -/
  | cold_push (k : ℕ)
  | cold_write (k : ℕ)
  /-- A spawned task ends, its cell is dropped and with it the mux. -/
  | cold_drop (k : ℕ)
  | cold_serve (k : ℕ)

def step (s : Issuance) : Label → Option Issuance
  | .call =>
      match s.caller, s.calls with
      | .idle, c :: calls => some (s.begin_call c calls)
      | _, _ => none
  | .clone =>
      match s.caller with
      | .cloning data => some { s with caller := .idle, colds := s.colds ++ [s.clone data] }
      | _ => none
  | .open =>
      match s.cell with
      | .opening => some { s with cell := .ready }
      | _ => none
  | .push =>
      match s.cell, s.caller with
      | .ready, .waiting data =>
          some { s with
            inbox := s.inbox ++ [⟨true, data⟩], caller := .awaiting data.frame.request_id }
      | _, _ => none
  | .other_push =>
      match s.cell, s.other with
      | .ready, some data => some { s with inbox := s.inbox ++ [⟨false, data⟩], other := none }
      | _, _ => none
  | .write =>
      match s.inbox with
      | job :: inbox => some { s with inbox, stream := s.stream ++ [job] }
      | [] => none
  | .serve =>
      match s.stream with
      | job :: stream => { s with stream }.serve job
      | [] => none
  | .resume =>
      match s.caller with
      | .awaiting rid =>
          if ∃ frame ∈ s.dispatched, frame.request_id = rid then some { s with caller := .idle }
          else none
      | _ => none
  | .cold_open k =>
      match s.colds[k]? with
      | some (.spawned data) => some { s with colds := s.colds.set k (.opened data) }
      | _ => none
  | .cold_push k =>
      match s.colds[k]? with
      | some (.opened data) => some { s with colds := s.colds.set k (.queued data) }
      | some (.shared data) =>
          some { s with inbox := s.inbox ++ [⟨true, data⟩], colds := s.colds.set k .ended }
      | _ => none
  | .cold_write k =>
      match s.colds[k]? with
      | some (.queued data) => some { s with colds := s.colds.set k (.written data) }
      | _ => none
  | .cold_drop k =>
      match s.colds[k]? with
      -- `Drop for Mux` aborts the writer, whose inbox goes with it
      | some (.queued _) => some { s with colds := s.colds.set k .ended }
      | _ => none
  | .cold_serve k =>
      match s.colds[k]? with
      | some (.written data) => { s with colds := s.colds.set k .ended }.serve ⟨true, data⟩
      | _ => none

/-! ## The property -/

/-- Every call is made, every task has run and every queue is drained. -/
def Drained (s : Issuance) : Prop :=
  s.calls = [] ∧ s.caller = .idle ∧ s.other = none ∧ s.inbox = [] ∧ s.stream = [] ∧
    ∀ cold ∈ s.colds, cold = .ended

/-- What the server has dispatched is a prefix of the sequence, and in the end
it is the sequence. -/
def InOrder (sequence : List Frame) (s : Issuance) : Prop :=
  s.dispatched <+: sequence ∧ (s.Drained → s.dispatched = sequence)

def begins_with_send : List ClientCall → Bool
  | .send _ :: _ => true
  | .request _ :: _ | [] => false

/-- Every frame of the sequence encodes. -/
def Encodes (sequence : List Frame) : Prop :=
  ∀ frame ∈ sequence, ∃ bytes, encode_frame Wire.frame frame = .ok bytes

/-! ## Lemmas of the pieces -/

/-- What it is to begin with `send`. -/
theorem begins_with_send_iff (calls : List ClientCall) :
    begins_with_send calls = true ↔ ∃ action rest, calls = .send action :: rest := by
  unfold begins_with_send
  split
  · exact ⟨fun _ => ⟨_, _, rfl⟩, fun _ => rfl⟩
  · simp
  · simp

end Issuance

/-- What encodes has an encoding to put on the wire. -/
theorem EncodedFrame.of_frame {frame : Frame} {bytes : Bytes}
    (h : encode_frame Wire.frame frame = .ok bytes) :
    EncodedFrame.of frame = some ⟨frame, bytes, h⟩ := by
  unfold EncodedFrame.of
  split
  · rename_i bytes' h'
    have hbytes : bytes' = bytes := Except.ok.inj (h'.symm.trans h)
    subst hbytes
    rfl
  · rename_i e h'
    exact absurd (h'.symm.trans h) (by simp)

namespace Issuance

/-- The server decodes the frame that was encoded. -/
theorem serve_own (s : Issuance) (data : EncodedFrame) :
    s.serve ⟨true, data⟩ = some { s with dispatched := s.dispatched ++ [data.frame] } := by
  unfold serve
  rw [decode_frame_encode_frame Wire.frame data.encoded]

/-- A job of another mux is served without a trace here. -/
theorem serve_other (s : Issuance) (data : EncodedFrame) : s.serve ⟨false, data⟩ = some s := by
  unfold serve
  rw [decode_frame_encode_frame Wire.frame data.encoded]

/-! ## When the order is kept -/

/-- The calling task's frames in a queue. -/
def own_frames (jobs : List Job) : List Frame := (jobs.filter Job.own).map fun job => job.data.frame

@[simp] theorem own_frames_nil : own_frames ([] : List Job) = [] := rfl

/-- The frames of two queues are one after the other. -/
theorem own_frames_append (jobs jobs' : List Job) :
    own_frames (jobs ++ jobs') = own_frames jobs ++ own_frames jobs' := by
  unfold own_frames
  rw [List.filter_append, List.map_append]

/-- A job of this mux is its frame. -/
theorem own_frames_own (data : EncodedFrame) (jobs : List Job) :
    own_frames (⟨true, data⟩ :: jobs) = data.frame :: own_frames jobs := rfl

/-- A job of another mux is none. -/
theorem own_frames_other (data : EncodedFrame) (jobs : List Job) :
    own_frames (⟨false, data⟩ :: jobs) = own_frames jobs := rfl

/-- Frames of other tasks alone. -/
theorem own_frames_foreign (jobs : List EncodedFrame) : own_frames (jobs.map (Job.mk false)) = [] := by
  induction jobs with
  | nil => rfl
  | cons data jobs ih => rw [List.map_cons, own_frames_other, ih]

/-- A task whose calls all take the client's own mux. -/
structure InLine (sequence : List Frame) (s : Issuance) : Prop where
  /-- No `send` has spawned a task. -/
  colds : s.colds = []
  caller : ∀ data, s.caller ≠ .cloning data
  /-- The next call finds the mux, or is a `request`. -/
  warm : (∃ data, s.caller = .waiting data) ∨ (∃ rid, s.cell = .ready ∧ s.caller = .awaiting rid) ∨
    s.caller = .idle ∧ (s.cell = .ready ∨ begins_with_send s.calls = false)
  /-- No frame is lost, none overtakes another. -/
  kept : s.dispatched ++ own_frames s.stream ++ own_frames s.inbox ++ s.caller.held ++
    frames s.next_request_id s.calls = sequence
  encodes : Encodes (frames s.next_request_id s.calls)

variable {sequence : List Frame} {s s' : Issuance}

/-- Frames that are in line are in order. -/
theorem InLine.in_order (h : InLine sequence s) : InOrder sequence s := by
  refine ⟨⟨own_frames s.stream ++ own_frames s.inbox ++ s.caller.held ++
    frames s.next_request_id s.calls, ?_⟩, ?_⟩
  · rw [← h.kept]
    simp only [List.append_assoc]
  · rintro ⟨hcalls, hcaller, -, hinbox, hstream, -⟩
    have hkept := h.kept
    rw [hcalls, hcaller, hinbox, hstream] at hkept
    simpa [Caller.held, frames] using hkept

/-- With a warm start, or when the first call is no `send`, every frame is in line. -/
theorem inLine_new {start : Start} {next_request_id : UInt64} {calls : List ClientCall}
    (hencodes : Encodes (frames next_request_id calls))
    (hwarm : start.initialized = true ∨ begins_with_send calls = false) :
    InLine (frames next_request_id calls) (new start next_request_id calls) where
  colds := rfl
  caller := fun _ => by simp [new]
  warm := by
    refine Or.inr (Or.inr ⟨rfl, ?_⟩)
    rcases hwarm with hready | hsend
    · cases start <;> first | exact Or.inl rfl | exact absurd hready (by simp [Start.initialized])
    · exact Or.inr hsend
  kept := by
    cases start <;> simp [new, own_frames_foreign, Caller.held]
  encodes := hencodes

/-- A call keeps its place: a `request` holds its frame, and a `send` finds the
mux and puts its frame at the end of the inbox. -/
theorem InLine.call (h : InLine sequence s) {c : ClientCall} {calls : List ClientCall}
    (hidle : s.caller = .idle) (hcalls : s.calls = c :: calls) :
    InLine sequence (s.begin_call c calls) := by
  have hencodes := h.encodes
  have hkept := h.kept
  rw [hcalls, frames] at hencodes hkept
  obtain ⟨bytes, hbytes⟩ := hencodes _ List.mem_cons_self
  have hrest : Encodes (frames (s.next_request_id + 1) calls) :=
    fun frame hframe => hencodes frame (List.mem_cons_of_mem _ hframe)
  rw [hidle] at hkept
  unfold begin_call
  rw [EncodedFrame.of_frame hbytes]
  cases c with
  | request action =>
      -- whoever opens the mux, the request waits for it
      refine ⟨h.colds, fun _ => by simp, Or.inl ⟨_, rfl⟩, ?_, hrest⟩
      rw [← hkept]
      simp [Caller.held]
  | send action =>
      have hready : s.cell = .ready := by
        rcases h.warm with ⟨data, hw⟩ | ⟨rid, -, hw⟩ | ⟨-, hready | hfirst⟩
        · exact absurd (hidle.symm.trans hw) (by simp)
        · exact absurd (hidle.symm.trans hw) (by simp)
        · exact hready
        · rw [hcalls] at hfirst
          exact absurd hfirst (by simp [begins_with_send])
      simp only [hready]
      refine ⟨h.colds, fun data => by simp [hidle], Or.inr (Or.inr ⟨hidle, Or.inl rfl⟩), ?_, hrest⟩
      rw [← hkept, own_frames_append]
      simp [hidle, own_frames_own, Caller.held]

/-- The mux is open; a call that waits for it goes on waiting. -/
theorem InLine.opened (h : InLine sequence s) : InLine sequence { s with cell := .ready } := by
  refine ⟨h.colds, h.caller, ?_, h.kept, h.encodes⟩
  rcases h.warm with hw | ⟨rid, -, hw⟩ | ⟨hidle, -⟩
  · exact Or.inl hw
  · exact Or.inr (Or.inl ⟨rid, rfl, hw⟩)
  · exact Or.inr (Or.inr ⟨hidle, Or.inl rfl⟩)

/-- A `request` moves its frame to the end of the inbox, behind all earlier ones. -/
theorem InLine.push (h : InLine sequence s) {data : EncodedFrame} {rid : Option RequestId}
    (hcell : s.cell = .ready) (hwaiting : s.caller = .waiting data) :
    InLine sequence
      { s with inbox := s.inbox ++ [⟨true, data⟩], caller := .awaiting rid } := by
  refine ⟨h.colds, fun _ => by simp, Or.inr (Or.inl ⟨rid, hcell, rfl⟩), ?_, h.encodes⟩
  rw [← h.kept, own_frames_append, hwaiting]
  simp [Caller.held, own_frames_own]

/-- What another mux pushes does not get into the line. -/
theorem InLine.other_push (h : InLine sequence s) (data : EncodedFrame) :
    InLine sequence { s with inbox := s.inbox ++ [⟨false, data⟩], other := none } := by
  refine ⟨h.colds, h.caller, h.warm, ?_, h.encodes⟩
  rw [← h.kept, own_frames_append, own_frames_other, own_frames_nil, List.append_nil]

/-- The writer takes the head of the inbox to the end of the stream. -/
theorem InLine.write (h : InLine sequence s) {job : Job} {inbox : List Job}
    (hinbox : s.inbox = job :: inbox) :
    InLine sequence { s with inbox, stream := s.stream ++ [job] } := by
  refine ⟨h.colds, h.caller, h.warm, ?_, h.encodes⟩
  have hsplit : own_frames (job :: inbox) = own_frames [job] ++ own_frames inbox :=
    own_frames_append [job] inbox
  rw [← h.kept, hinbox, hsplit, own_frames_append]
  simp only [List.append_assoc]

/-- The server dispatches the head of the stream. -/
theorem InLine.serve (h : InLine sequence s) {job : Job} {stream : List Job}
    (hstream : s.stream = job :: stream) (hserve : { s with stream }.serve job = some s') :
    InLine sequence s' := by
  have hkept := h.kept
  rw [hstream] at hkept
  obtain ⟨own, data⟩ := job
  rcases own with _ | _
  · rw [serve_other] at hserve
    rw [← Option.some.inj hserve]
    exact ⟨h.colds, h.caller, h.warm, hkept, h.encodes⟩
  · rw [serve_own] at hserve
    rw [← Option.some.inj hserve]
    refine ⟨h.colds, h.caller, h.warm, ?_, h.encodes⟩
    rw [← hkept, own_frames_own]
    simp

/-- A `request` is over when its answer is there, and the mux is open by then. -/
theorem InLine.resume (h : InLine sequence s) {rid : Option RequestId}
    (hawaiting : s.caller = .awaiting rid) : InLine sequence { s with caller := .idle } := by
  have hkept := h.kept
  rw [hawaiting] at hkept
  refine ⟨h.colds, fun _ => by simp, ?_, hkept, h.encodes⟩
  rcases h.warm with ⟨data, hw⟩ | ⟨rid', hready, -⟩ | ⟨hidle, -⟩
  · exact absurd (hawaiting.symm.trans hw) (by simp)
  · exact Or.inr (Or.inr ⟨rfl, Or.inl hready⟩)
  · exact absurd (hawaiting.symm.trans hidle) (by simp)

/-- **Every piece keeps the order.** No task is spawned, so the pieces of
spawned tasks are not enabled. -/
theorem InLine.step (h : InLine sequence s) {l : Label} (hstep : s.step l = some s') :
    InLine sequence s' := by
  -- in line, there are no cold tasks to move
  have hcold : ∀ k : ℕ, s.colds[k]? = none := by
    intro k
    rw [h.colds]
    rfl
  cases l with
  | call =>
      simp only [Issuance.step] at hstep
      split at hstep
      · rename_i c calls hidle hcalls
        rw [← Option.some.inj hstep]
        exact h.call hidle hcalls
      · exact absurd hstep (by simp)
  | clone =>
      simp only [Issuance.step] at hstep
      split at hstep
      · rename_i data hcloning
        exact absurd hcloning (h.caller data)
      · exact absurd hstep (by simp)
  | «open» =>
      simp only [Issuance.step] at hstep
      split at hstep
      · rw [← Option.some.inj hstep]
        exact h.opened
      · exact absurd hstep (by simp)
  | push =>
      simp only [Issuance.step] at hstep
      split at hstep
      · rename_i data hcell hwaiting
        rw [← Option.some.inj hstep]
        exact h.push hcell hwaiting
      · exact absurd hstep (by simp)
  | other_push =>
      simp only [Issuance.step] at hstep
      split at hstep
      · rename_i data hcell hother
        rw [← Option.some.inj hstep]
        exact h.other_push data
      · exact absurd hstep (by simp)
  | write =>
      simp only [Issuance.step] at hstep
      split at hstep
      · rename_i job inbox hinbox
        rw [← Option.some.inj hstep]
        exact h.write hinbox
      · exact absurd hstep (by simp)
  | serve =>
      simp only [Issuance.step] at hstep
      split at hstep
      · rename_i job stream hstream
        exact h.serve hstream hstep
      · exact absurd hstep (by simp)
  | resume =>
      simp only [Issuance.step] at hstep
      split at hstep
      · rename_i rid hawaiting
        split at hstep
        · rw [← Option.some.inj hstep]
          exact h.resume hawaiting
        · exact absurd hstep (by simp)
      · exact absurd hstep (by simp)
  | cold_open k | cold_push k | cold_write k | cold_drop k | cold_serve k =>
      simp [Issuance.step, hcold k] at hstep

/-! ## When it is not -/

/-- The first `send` spawns its task, which pushes its job and ends: the writer
is aborted before it has written. -/
def lose_first : List Label := [.call, .clone, .cold_open 0, .cold_push 0, .cold_drop 0]

/-- The other task's request goes its way. -/
def drain_other : Start → List Label
  | .opening _ => [.open, .other_push, .write, .serve]
  | .fresh | .ready _ _ => []

/-- The first `send` spawns its task; the second call's frame is dispatched
before that task runs. -/
def overtake : ClientCall → List Label
  | .send _ =>
      [.call, .clone, .call, .clone, .cold_open 1, .cold_push 1, .cold_write 1, .cold_serve 1]
  | .request _ => [.call, .clone, .call, .open, .push, .write, .serve]

variable {start : Start} {next_request_id : UInt64} {action : Action}

/-- A single `send` is lost. -/
theorem first_lost (hcold : start.initialized = false) {data : EncodedFrame}
    (hdata : EncodedFrame.of ⟨some ⟨next_request_id⟩, action⟩ = some data) :
    ∃ s, Transition.run step (new start next_request_id [.send action])
      (lose_first ++ drain_other start) = some s ∧ s.Drained ∧ s.dispatched = [] := by
  cases start with
  | fresh =>
      simp [lose_first, drain_other, Transition.run_cons, step, new, begin_call, clone,
        ClientCall.action, hdata, Drained]
  | opening other =>
      simp [lose_first, drain_other, Transition.run_cons, step, new, begin_call, clone,
        ClientCall.action, hdata, Drained, serve_other]
  | ready inbox stream => exact absurd hcold (by simp [Start.initialized])

/-- The second frame is dispatched first. -/
theorem first_overtaken (hcold : start.initialized = false) {c : ClientCall}
    (calls : List ClientCall) {data data' : EncodedFrame}
    (hdata : EncodedFrame.of ⟨some ⟨next_request_id⟩, action⟩ = some data)
    (hdata' : EncodedFrame.of ⟨some ⟨next_request_id + 1⟩, c.action⟩ = some data') :
    ∃ s, Transition.run step (new start next_request_id (.send action :: c :: calls))
      (overtake c) = some s ∧ s.dispatched = [data'.frame] := by
  have hfirst : EncodedFrame.of ⟨some ⟨next_request_id⟩, (ClientCall.send action).action⟩ = some data :=
    hdata
  cases start with
  | fresh =>
      cases c <;> simp [overtake, Transition.run_cons, step, new, begin_call, clone, hfirst, hdata',
        serve_own, Cell.enter]
  | opening other =>
      cases c <;> simp [overtake, Transition.run_cons, step, new, begin_call, clone, hfirst, hdata',
        serve_own, Cell.enter]
  | ready inbox stream => exact absurd hcold (by simp [Start.initialized])

/-- A `send` first, on a client without its mux, breaks the order in some run. -/
theorem out_of_order (hcold : start.initialized = false) {calls : List ClientCall}
    (hencodes : Encodes (frames next_request_id (.send action :: calls))) :
    ∃ labels s, Transition.run step (new start next_request_id (.send action :: calls)) labels =
      some s ∧ ¬ InOrder (frames next_request_id (.send action :: calls)) s := by
  obtain ⟨bytes, hbytes⟩ := hencodes _ List.mem_cons_self
  have hdata := EncodedFrame.of_frame hbytes
  cases calls with
  | nil =>
      obtain ⟨s, hrun, hdrained, hnone⟩ := first_lost hcold hdata
      refine ⟨_, s, hrun, ?_⟩
      rintro ⟨-, hall⟩
      exact absurd (hnone.symm.trans (hall hdrained)) (by simp [frames])
  | cons c calls =>
      obtain ⟨bytes', hbytes'⟩ := hencodes ⟨some ⟨next_request_id + 1⟩, c.action⟩
        (by simp [frames])
      obtain ⟨s, hrun, hsecond⟩ := first_overtaken hcold calls hdata
        (EncodedFrame.of_frame hbytes')
      refine ⟨_, s, hrun, ?_⟩
      rintro ⟨hhead, -⟩
      -- the two frames differ in their ids
      rw [hsecond, frames, List.cons_prefix_cons] at hhead
      have hid : next_request_id + 1 = next_request_id := by
        simpa using congrArg Frame.request_id hhead.1
      exact absurd hid (by simp)

/-! ## Every run -/

/-- **When the order is kept**, over every run: the client has its mux, or the
first call is not a `send`. -/
theorem in_order_iff (start : Start) (next_request_id : UInt64) (calls : List ClientCall)
    (hencodes : Encodes (frames next_request_id calls)) :
    (∀ labels s, Transition.run step (new start next_request_id calls) labels = some s →
      InOrder (frames next_request_id calls) s) ↔
    start.initialized = true ∨ begins_with_send calls = false := by
  constructor
  · intro hall
    by_cases hready : start.initialized = true
    · exact Or.inl hready
    · refine Or.inr ?_
      by_contra hsend
      rw [Bool.not_eq_false, begins_with_send_iff] at hsend
      rw [Bool.not_eq_true] at hready
      obtain ⟨action, rest, rfl⟩ := hsend
      obtain ⟨labels, s, hrun, hbad⟩ := out_of_order hready hencodes
      exact hbad (hall labels s hrun)
  · intro hwarm labels s hrun
    have hline : InLine (frames next_request_id calls) s :=
      Transition.run_invariant step (fun _ _ _ h hstep => h.step hstep)
        (inLine_new hencodes hwarm) hrun
    exact hline.in_order

end Issuance

end Issuance

/-! ## A first request, and a first send -/

section Runs

open Issuance

attribute [local instance] WgpuTypes.numeric

/-- A new client asks for its adapter, then writes to a buffer twice. -/
def request_first : List ClientCall :=
  [.request .RequestAdapter, .send (.WriteBuffer ⟨7⟩ 0 [1, 2]), .send (.WriteBuffer ⟨7⟩ 4 [3])]

/-- The program that begins with `request`: in order on a fresh client, in every schedule. -/
theorem request_first_in_order : Encodes (frames 1 request_first) ∧ ∀ labels s,
    Transition.run step (new .fresh 1 request_first) labels = some s →
      InOrder (frames 1 request_first) s := by
  have hencodes : Encodes (frames 1 request_first) := by
    intro frame hframe
    simp only [request_first, frames, List.mem_cons, List.not_mem_nil, or_false] at hframe
    rcases hframe with rfl | rfl | rfl
    · exact ⟨_, rfl⟩
    · exact ⟨_, rfl⟩
    · exact ⟨_, rfl⟩
  exact ⟨hencodes, (in_order_iff .fresh 1 request_first hencodes).mpr (Or.inr rfl)⟩

/-- A new client's first call creates a buffer. -/
def send_first : List ClientCall :=
  [.send (.CreateBuffer ⟨7⟩
    ⟨some "staging", 16, (8 : UInt32), false⟩)]

/-- **It is lost**: the task ends before its writer has written. -/
theorem first_send_lost :
    ¬ ∀ (start : Start) (next_request_id : UInt64) (calls : List ClientCall),
      Encodes (frames next_request_id calls) → ∀ labels s,
        Transition.run step (new start next_request_id calls) labels = some s →
          InOrder (frames next_request_id calls) s := by
  intro h
  -- one small `send`, whose frame encodes
  have hencodes : Encodes (frames 1 send_first) := by
    intro frame hframe
    simp only [send_first, frames, List.mem_cons, List.not_mem_nil, or_false] at hframe
    rw [hframe]
    exact ⟨_, rfl⟩
  obtain ⟨s, hrun, hcalls, hcaller, hother, hinbox, hstream, hcolds, hnone⟩ : ∃ s,
      Transition.run step (new .fresh 1 send_first) lose_first = some s ∧ s.calls = [] ∧
        s.caller = .idle ∧ s.other = none ∧ s.inbox = [] ∧ s.stream = [] ∧ s.colds = [.ended] ∧
        s.dispatched = [] := ⟨_, rfl, rfl, rfl, rfl, rfl, rfl, rfl, rfl⟩
  have hdrained : s.Drained := by
    refine ⟨hcalls, hcaller, hother, hinbox, hstream, ?_⟩
    rw [hcolds]
    intro cold hcold
    exact List.mem_singleton.mp hcold
  -- after the run nothing is on its way, and nothing has arrived
  have hall := (h .fresh 1 send_first hencodes lose_first s hrun).2 hdrained
  exact absurd (hnone.symm.trans hall) (by simp [frames, send_first])

end Runs

end WgpuRemote
