/-
One client, its multiplexed stream and the engine.

The facade pushes encoded frames into the mux's inbox, the writer task moves
them to the stream, and the server's stream handler takes them off, decodes
them and dispatches them, one at a time. Channel and stream are FIFO and
lossless, and the handler is the only one on this engine.

Everything that was sent is at any moment in one of three places, in the order
in which it was sent: dispatched, in the stream, in the inbox
(`Session.Inv.queue`). And what the tables hold is read off what was dispatched
before (`Session.Inv.tables`).
-/
import WgpuRemote.Client.Facade
import WgpuRemote.Server.Contract
import WgpuRemote.Lib.Transition

set_option autoImplicit false

namespace WgpuRemote

open Bincode Client Server
open Wgpu (Occ Obj Gpu)

section Session

variable [WgpuTypes]

/-! ## The system -/

/-- One dispatched frame: the call that sent it, the engine it was dispatched
on, and the answer. -/
structure Entry where
  issue : Issue
  frame : Frame
  engine : Engine
  answer : Option ResponseFrame

/-- How the action was answered. -/
def Entry.response (x : Entry) : Option Response := x.answer.map ResponseFrame.response

/-- What the action did to the tables. -/
def Entry.op (x : Entry) : Store.Op Ref Occ :=
  outcome x.engine.dispatched x.frame.action x.response

structure Session where
  facade : Facade
  inbox : List Job
  stream : List Job
  engine : Engine
  dispatched : List Entry

namespace Session

def new : Session := ⟨Facade.new, [], [], Engine.new, []⟩

inductive Label where
  | client (l : Facade.Label)
  /-- The writer task writes the next job. -/
  | write
  /-- The server reads, decodes and dispatches the next frame. -/
  | serve

def step (gpu : Gpu) (s : Session) : Label → Option Session
  | .client l => do
      let (facade, job) ← s.facade.step l
      return { s with facade, inbox := s.inbox ++ job.toList }
  | .write =>
      match s.inbox with
      | [] => none
      | job :: inbox => some { s with inbox, stream := s.stream ++ [job] }
  | .serve =>
      match s.stream with
      | [] => none
      | job :: stream =>
          match decode_frame Wire.frame job.bytes with
          | .error _ => none
          | .ok (frame, _) =>
              let (answer, engine) := s.engine.dispatch gpu frame
              some { s with
                stream, engine
                dispatched := s.dispatched ++ [⟨job.issue, frame, s.engine, answer⟩] }

/-! ## What was sent and what was dispatched -/

/-- The dispatched frame is the one its call sent, and its answer the engine's. -/
def Faithful (gpu : Gpu) (x : Entry) : Prop :=
  ∃ rid, x.frame = ⟨some rid, x.issue.action⟩ ∧
    x.answer = (x.engine.handle gpu x.issue.action).1.map (ResponseFrame.mk rid)

structure Inv (gpu : Gpu) (s : Session) : Prop where
  facade : s.facade.Inv
  queue : s.facade.issued =
    s.dispatched.map Entry.issue ++ s.stream.map Job.issue ++ s.inbox.map Job.issue
  framed : ∀ j ∈ s.stream ++ s.inbox,
    ∃ rid, encode_frame Wire.frame ⟨some rid, j.issue.action⟩ = .ok j.bytes
  faithful : ∀ x ∈ s.dispatched, Faithful gpu x
  tables : s.engine.tables = Store.run ResourceTables.empty (s.dispatched.map Entry.op)
  tables_at : ∀ pre x post, s.dispatched = pre ++ x :: post →
    x.engine.tables = Store.run ResourceTables.empty (pre.map Entry.op)

section Faithful

variable {gpu : Gpu} {x : Entry}

/-- A faithful entry is the frame of the action that was issued. -/
theorem Faithful.action (h : Faithful gpu x) : x.frame.action = x.issue.action := by
  obtain ⟨rid, hframe, -⟩ := h
  rw [hframe]

/-- And its response is the one of the engine at that point. -/
theorem Faithful.response (h : Faithful gpu x) :
    x.response = (x.engine.handle gpu x.frame.action).1 := by
  rw [h.action]
  obtain ⟨rid, -, hanswer⟩ := h
  rw [Entry.response, hanswer, Option.map_map]
  exact congrFun Option.map_id _

/-- The engine's tables after the dispatch. -/
theorem Faithful.tables (h : Faithful gpu x) :
    (x.engine.handle gpu x.frame.action).2.tables = x.op.apply x.engine.tables := by
  rw [Entry.op, h.response]
  exact handle_tables gpu x.engine x.frame.action

end Faithful

theorem inv_new (gpu : Gpu) : Inv gpu new where
  facade := Facade.inv_new
  queue := rfl
  framed j hj := by cases hj
  faithful x hx := by cases hx
  tables := rfl
  tables_at pre x post h := by simp [new] at h

variable {gpu : Gpu} {s s' : Session}

/-- The client sends at most one frame, to the end of the inbox. -/
theorem Inv.client {facade : Facade} {job : Option Job} {l : Facade.Label} (h : Inv gpu s)
    (hstep : s.facade.step l = some (facade, job)) :
    Inv gpu { s with facade, inbox := s.inbox ++ job.toList } := by
  have hinv := h.facade.step hstep
  rcases Facade.step_cases h.facade hstep with ⟨-, hissued, rfl, -, -⟩ | ⟨i, hissuable, hsend, -⟩
  · -- nothing is sent
    have hinbox : s.inbox ++ (none : Option Job).toList = s.inbox := List.append_nil _
    rw [hinbox]
    exact ⟨hinv, hissued.trans h.queue, h.framed, h.faithful, h.tables, h.tables_at⟩
  · rcases Facade.send_job s.facade i with ⟨hnone, hissued⟩ | ⟨j, hsome, hj, hissued, rid, henc⟩
    · -- the frame was refused
      rw [hsend] at hnone hissued
      change job = none at hnone
      change facade.issued = s.facade.issued at hissued
      have hinbox : s.inbox ++ job.toList = s.inbox := by
        rw [hnone]
        exact List.append_nil _
      rw [hinbox]
      exact ⟨hinv, hissued.trans h.queue, h.framed, h.faithful, h.tables, h.tables_at⟩
    · rw [hsend] at hsome hissued
      change job = some j at hsome
      change facade.issued = s.facade.issued ++ [i] at hissued
      rw [hsome]
      refine ⟨hinv, ?_, ?_, h.faithful, h.tables, h.tables_at⟩
      · show facade.issued = _ ++ (s.inbox ++ [j]).map Job.issue
        rw [hissued, h.queue, List.map_append, List.map_singleton, hj, List.append_assoc]
      · intro k hk
        change k ∈ s.stream ++ (s.inbox ++ [j]) at hk
        rw [← List.append_assoc] at hk
        rcases List.mem_append.mp hk with hk | hk
        · exact h.framed k hk
        · rw [List.mem_singleton.mp hk, hj]
          exact ⟨rid, henc⟩

/-- A create call that has minted its id can send its action. -/
theorem step_send_create {h : Slot} {a : Action} (hs : s.facade.stage h = some .creating)
    (ha : a.creates = some h.ref) :
    s.step gpu (.client (.send_create h a)) = some { s with
      facade := (s.facade.send ⟨h.device, a, some h, none, s.facade.live⟩).1
      inbox := s.inbox ++ (s.facade.send ⟨h.device, a, some h, none, s.facade.live⟩).2.toList } := by
  simp only [step, Facade.step, if_pos (And.intro hs ha)]
  rfl

/-- A call that neither creates nor destroys can be made at any time. -/
theorem step_send {device : ℕ} {a : Action} (hc : a.creates = none) (hd : a.destroys = none) :
    s.step gpu (.client (.send device a)) = some { s with
      facade := (s.facade.send ⟨device, a, none, none, s.facade.live⟩).1
      inbox := s.inbox ++ (s.facade.send ⟨device, a, none, none, s.facade.live⟩).2.toList } := by
  simp only [step, Facade.step, if_pos (And.intro hc hd)]
  rfl

/-- The writer takes the first job of its inbox. -/
theorem step_write {job : Job} {inbox : List Job} (hinbox : s.inbox = job :: inbox) :
    s.step gpu .write = some { s with inbox, stream := s.stream ++ [job] } := by
  simp only [Session.step, hinbox]

/-- The writer moves the head of the inbox to the end of the stream. -/
theorem Inv.write {job : Job} {inbox : List Job} (h : Inv gpu s) (hinbox : s.inbox = job :: inbox) :
    Inv gpu { s with inbox, stream := s.stream ++ [job] } := by
  have hmove : s.stream ++ s.inbox = (s.stream ++ [job]) ++ inbox := by
    rw [hinbox, List.append_assoc]
    rfl
  refine ⟨h.facade, ?_, ?_, h.faithful, h.tables, h.tables_at⟩
  · show s.facade.issued = _ ++ (s.stream ++ [job]).map Job.issue ++ inbox.map Job.issue
    rw [h.queue, List.append_assoc, List.append_assoc, ← List.map_append, ← List.map_append, hmove]
  · intro k hk
    apply h.framed
    rw [hmove]
    exact hk

/-- The server takes the head of the stream. It decodes to what was sent. -/
theorem step_serve {job : Job} {stream : List Job} {rid : RequestId}
    (hstream : s.stream = job :: stream)
    (henc : encode_frame Wire.frame ⟨some rid, job.issue.action⟩ = .ok job.bytes) :
    s.step gpu .serve = some { s with
      stream
      engine := (s.engine.handle gpu job.issue.action).2
      dispatched := s.dispatched ++ [⟨job.issue, ⟨some rid, job.issue.action⟩, s.engine,
        (s.engine.handle gpu job.issue.action).1.map (ResponseFrame.mk rid)⟩] } := by
  simp only [Session.step, hstream, decode_frame_encode_frame _ henc, dispatch_eq]

/-- Dispatching it puts it on record, with its effect on the tables. -/
theorem Inv.serve {job : Job} {stream : List Job} {rid : RequestId} (h : Inv gpu s)
    (hstream : s.stream = job :: stream) :
    Inv gpu { s with
      stream
      engine := (s.engine.handle gpu job.issue.action).2
      dispatched := s.dispatched ++ [⟨job.issue, ⟨some rid, job.issue.action⟩, s.engine,
        (s.engine.handle gpu job.issue.action).1.map (ResponseFrame.mk rid)⟩] } := by
  have hfaithful : Faithful gpu ⟨job.issue, ⟨some rid, job.issue.action⟩, s.engine,
      (s.engine.handle gpu job.issue.action).1.map (ResponseFrame.mk rid)⟩ := ⟨rid, rfl, rfl⟩
  refine ⟨h.facade, ?_, ?_, ?_, ?_, ?_⟩
  · -- the job goes from the head of the stream to the end of the record
    show s.facade.issued = (s.dispatched ++ [_]).map Entry.issue ++ stream.map Job.issue ++ _
    rw [h.queue, hstream, List.map_append, List.map_cons, List.append_assoc, List.append_assoc,
      List.append_assoc]
    rfl
  · intro k hk
    apply h.framed
    rw [hstream]
    exact List.mem_cons_of_mem job hk
  · intro x hx
    rcases List.mem_append.mp hx with hx | hx
    · exact h.faithful x hx
    · rw [List.mem_singleton.mp hx]
      exact hfaithful
  · show (s.engine.handle gpu job.issue.action).2.tables = _
    rw [List.map_append, List.map_singleton, Store.run_snoc, ← h.tables]
    exact hfaithful.tables
  · intro pre x post hsplit
    rcases Transition.split_snoc hsplit with ⟨rfl, rfl⟩ | ⟨front, hfront⟩
    · exact h.tables
    · exact h.tables_at pre x front hfront

/-- What one step can do. -/
theorem step_cases {l : Label} (h : Inv gpu s) (hstep : s.step gpu l = some s') :
    (∃ cl facade job, l = .client cl ∧ s.facade.step cl = some (facade, job) ∧
      s' = { s with facade, inbox := s.inbox ++ job.toList }) ∨
    (∃ job inbox, l = .write ∧ s.inbox = job :: inbox ∧
      s' = { s with inbox, stream := s.stream ++ [job] }) ∨
    ∃ job stream rid, l = .serve ∧ s.stream = job :: stream ∧ s' = { s with
      stream
      engine := (s.engine.handle gpu job.issue.action).2
      dispatched := s.dispatched ++ [⟨job.issue, ⟨some rid, job.issue.action⟩, s.engine,
        (s.engine.handle gpu job.issue.action).1.map (ResponseFrame.mk rid)⟩] } := by
  rcases l with l | _ | _
  · -- the client
    rcases hf : s.facade.step l with _ | ⟨facade, job⟩
    · simp only [Session.step, hf] at hstep
      exact absurd hstep (by simp)
    · simp only [Session.step, hf] at hstep
      exact Or.inl ⟨l, facade, job, rfl, hf, (Option.some.inj hstep).symm⟩
  · -- the writer task
    rcases hinbox : s.inbox with _ | ⟨job, inbox⟩
    · simp only [Session.step, hinbox] at hstep
      exact absurd hstep (by simp)
    · rw [step_write hinbox] at hstep
      exact Or.inr (Or.inl ⟨job, inbox, rfl, rfl, (Option.some.inj hstep).symm⟩)
  · -- the server
    rcases hstream : s.stream with _ | ⟨job, stream⟩
    · simp only [Session.step, hstream] at hstep
      exact absurd hstep (by simp)
    · have hmem : job ∈ s.stream ++ s.inbox := by
        rw [hstream]
        exact List.mem_append_left _ List.mem_cons_self
      obtain ⟨rid, henc⟩ := h.framed job hmem
      rw [step_serve hstream henc] at hstep
      exact Or.inr (Or.inr ⟨job, stream, rid, rfl, rfl, (Option.some.inj hstep).symm⟩)

/-- **One step** keeps the queue and the record. -/
theorem Inv.step {l : Label} (h : Inv gpu s) (hstep : s.step gpu l = some s') : Inv gpu s' := by
  rcases step_cases h hstep with ⟨cl, facade, job, -, hf, rfl⟩ | ⟨job, inbox, -, hinbox, rfl⟩ |
    ⟨job, stream, rid, -, hstream, rfl⟩
  · exact h.client hf
  · exact h.write hinbox
  · exact h.serve hstream

/-- What a step does to the client's record. -/
theorem step_facade {l : Label} (h : Inv gpu s) (hstep : s.step gpu l = some s') :
    (∀ x, Stage.is_sent (s.facade.stage x) = true → Stage.is_sent (s'.facade.stage x) = true) ∧
    (∀ x, s.facade.refused x = true → s'.facade.refused x = true) ∧
    (s'.facade.issued = s.facade.issued ∨ ∃ i, s'.facade.issued = s.facade.issued ++ [i] ∧
      (i.action.creates = none → i.action.destroys = none →
        l = .client (.send i.device i.action))) := by
  rcases step_cases h hstep with ⟨cl, facade, job, rfl, hf, rfl⟩ | ⟨job, inbox, -, -, rfl⟩ |
    ⟨job, stream, rid, -, -, rfl⟩
  · refine ⟨fun x => Facade.step_sent h.facade hf, fun x => Facade.step_refused h.facade hf, ?_⟩
    rcases Facade.step_issued h.facade hf with hissued | ⟨i, hissued, hlabel⟩
    · exact Or.inl hissued
    · refine Or.inr ⟨i, hissued, ?_⟩
      intro hc hd
      rw [hlabel hc hd]
  · exact ⟨fun _ => id, fun _ => id, Or.inl rfl⟩
  · exact ⟨fun _ => id, fun _ => id, Or.inl rfl⟩

/-- **A run** keeps them. -/
theorem inv_run {labels : List Label} (h : Transition.run (step gpu) new labels = some s) :
    Inv gpu s :=
  Transition.run_invariant (step gpu) (fun _ _ _ => Inv.step) (inv_new gpu) h

end Session

end Session

end WgpuRemote
