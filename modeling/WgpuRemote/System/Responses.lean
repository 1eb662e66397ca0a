/-
Requests, the server, and their responses.

One client's mux, its stream in both directions, and the server's handler on it
(`handle_stream`). The handler reads a frame, dispatches it, writes the response
and reads the next. Everybody may fail at any moment, and a stream that fails
loses what was under way.

A response finds its way back by the request id alone. As long as the counter
has not gone through all of its values, no two calls have the same id, and every
request that returns a response returns that of its own dispatch
(`responses_own`).
-/
import WgpuRemote.Client.Disconnect
import WgpuRemote.Server.Contract
import Mathlib.Data.List.Nodup

set_option autoImplicit false

namespace WgpuRemote

open Bincode Client Server
open Wgpu (Gpu)

section Responses

variable [WgpuTypes]

/-! ## The system -/

/-- One dispatched frame: the call it is from, the engine it was dispatched on,
and the answer. -/
structure Dispatched where
  n : ℕ
  frame : Frame
  engine : Engine
  answer : Option ResponseFrame

/-- An encoded response on its way to the client. -/
structure Reply where
  n : ℕ
  bytes : Bytes

/-- Where `handle_stream` stands. -/
inductive Handler where
  | reading
  /-- It has dispatched a frame and writes the response. -/
  | writing (n : ℕ) (frame : ResponseFrame)
  | ended

structure Link where
  mux : Mux
  to_server : List WriteJob
  handler : Handler
  engine : Engine
  dispatched : List Dispatched
  to_client : List Reply
  /-- The responses the reader task has read: whose they are, and who was
  awaiting what they were handed to. -/
  read : List (ℕ × Option ℕ)

namespace Link

def new (next_request_id : UInt64) : Link where
  mux := Mux.new next_request_id
  to_server := []
  handler := .reading
  engine := Engine.new
  dispatched := []
  to_client := []
  read := []

inductive Label where
  /-- Any piece of the mux but those that move a frame. -/
  | mux (l : Mux.Label)
  /-- The writer task writes a job to the stream. -/
  | write
  /-- The handler reads, decodes and dispatches a frame. -/
  | serve
  /-- The handler encodes the response and writes it. -/
  | reply
  /-- The handler fails to read or write, and ends. -/
  | handler_error
  /-- The reader task reads a response. -/
  | read

/-- Who gets a response under an id: whoever has a sender there, and still
awaits it. -/
def receiver (s : Mux) (rid : RequestId) : Option ℕ :=
  match s.pending rid with
  | some m =>
      match s.phase m with
      | .inserted _ | .refused | .awaiting => some m
      | .minted | .returned | .cancelled => none
  | none => none

def step (gpu : Gpu) (s : Link) : Label → Option Link
  | .mux l =>
      match l with
      | .write | .read _ => none
      | l => (s.mux.step l).map fun mux => { s with mux }
  | .write => do
      let job ← s.mux.inbox.head?
      let mux ← s.mux.step .write
      some { s with mux, to_server := s.to_server ++ [job] }
  | .serve =>
      match s.handler, s.to_server with
      | .reading, job :: to_server =>
          match decode_frame Wire.frame job.bytes with
          | .error _ => some { s with to_server, handler := .ended }
          | .ok (frame, _) =>
              let (answer, engine) := s.engine.dispatch gpu frame
              some { s with
                to_server, engine
                handler := answer.elim .reading (Handler.writing job.n)
                dispatched := s.dispatched ++ [⟨job.n, frame, s.engine, answer⟩] }
      | _, _ => none
  | .reply =>
      match s.handler with
      | .writing n frame =>
          match encode_frame Wire.response_frame frame with
          | .error _ => some { s with handler := .ended }
          | .ok bytes =>
              some { s with handler := .reading, to_client := s.to_client ++ [⟨n, bytes⟩] }
      | _ => none
  | .handler_error => some { s with handler := .ended }
  | .read =>
      match s.to_client with
      | [] => none
      | reply :: to_client => do
          let mux ← s.mux.step (.read reply.bytes)
          let target :=
            match decode_frame Wire.response_frame reply.bytes with
            | .ok (frame, _) => receiver s.mux frame.request_id
            | .error _ => none
          some { s with mux, to_client, read := s.read ++ [(reply.n, target)] }

/-! ## The property -/

/-- The dispatch produced this response for this very call. -/
def Produced (gpu : Gpu) (s : Link) (n : ℕ) (c : Call) (r : Response) : Prop :=
  ∃ d ∈ s.dispatched, d.n = n ∧ d.frame = ⟨some c.rid, c.action⟩ ∧
    d.answer = some ⟨c.rid, r⟩ ∧ d.answer = (d.engine.dispatch gpu d.frame).1

/-- **Responses are never misdelivered.** -/
structure Delivers (gpu : Gpu) (s : Link) : Prop where
  /-- A request that returns a response returns that of its own dispatch. -/
  own : ∀ n r, (n, .ok r) ∈ s.mux.results →
    ∃ c, s.mux.calls[n]? = some c ∧ c.awaited = true ∧ Produced gpu s n c r
  /-- Each call is dispatched at most once, and its response read at most once,
  so it is delivered to at most one awaiter. -/
  dispatched_once : (s.dispatched.map Dispatched.n).Nodup
  read_once : (s.read.map Prod.fst).Nodup
  /-- It is delivered to nobody else, and the response to a `send` to nobody. -/
  receiver : ∀ n m, (n, some m) ∈ s.read →
    m = n ∧ ∃ c, s.mux.calls[n]? = some c ∧ c.awaited = true
  /-- No request returns twice. -/
  returned_once : (s.mux.results.map Prod.fst).Nodup

/-! ## Request ids -/

/-- Ids are minted one after another. -/
def Numbered (first : UInt64) (s : Mux) : Prop :=
  s.next_request_id = first + UInt64.ofNat s.calls.length ∧
    ∀ (n : ℕ) (c : Call), s.calls[n]? = some c → c.rid = ⟨first + UInt64.ofNat n⟩

theorem numbered_new (first : UInt64) : Numbered first (Mux.new first) := by
  refine ⟨?_, fun n c hc => absurd hc (by simp [Mux.new])⟩
  show first = first + UInt64.ofNat 0
  simp

/-- Every step keeps the ids in the order of minting. -/
theorem Numbered.step {first : UInt64} {s s' : Mux} {l : Mux.Label} (h : Numbered first s)
    (hstep : s.step l = some s') : Numbered first s' := by
  obtain ⟨hnext, hrids⟩ := h
  rcases Mux.step_calls hstep with ⟨hcalls, hsame⟩ | ⟨awaited, action, rfl⟩
  · unfold Numbered
    rw [hcalls, hsame]
    exact ⟨hnext, hrids⟩
  -- minting adds one call, under the counter's present value
  · refine ⟨?_, ?_⟩
    · show s.next_request_id + 1 = first + UInt64.ofNat (s.calls ++ [_]).length
      rw [hnext, List.length_append, List.length_singleton, UInt64.ofNat_add, UInt64.add_assoc]
      rfl
    · intro n c hc
      change (s.calls ++ [_])[n]? = some c at hc
      by_cases hn : n < s.calls.length
      · rw [List.getElem?_append_left hn] at hc
        exact hrids n c hc
      · rw [List.getElem?_append_right (Nat.le_of_not_lt hn)] at hc
        have hzero : n - s.calls.length = 0 := by
          by_contra hne
          rw [List.getElem?_singleton, if_neg hne] at hc
          exact absurd hc (by simp)
        have hlen : n = s.calls.length := by omega
        rw [hzero] at hc
        rw [← Option.some.inj hc, hlen, ← hnext]

/-- Until the counter has gone through all values, an id is that of one call. -/
theorem Numbered.unique {first : UInt64} {s : Mux} (h : Numbered first s)
    (hbound : s.calls.length ≤ 2 ^ 64) {m n : ℕ} {c d : Call} (hc : s.calls[m]? = some c)
    (hd : s.calls[n]? = some d) (hrid : c.rid = d.rid) : m = n := by
  have hm := (List.getElem?_eq_some_iff.mp hc).1
  have hn := (List.getElem?_eq_some_iff.mp hd).1
  rw [h.2 m c hc, h.2 n d hd, RequestId.mk.injEq, UInt64.add_right_inj] at hrid
  have hnat := congrArg UInt64.toNat hrid
  rw [UInt64.toNat_ofNat_of_lt' (Nat.lt_of_lt_of_le hm hbound),
    UInt64.toNat_ofNat_of_lt' (Nat.lt_of_lt_of_le hn hbound)] at hnat
  exact hnat

/-! ## What a run keeps -/

/-- The bytes are the call's frame. -/
def Encodes (s : Mux) (n : ℕ) (bytes : Bytes) : Prop :=
  ∃ c, s.calls[n]? = some c ∧ c.encode = .ok bytes

/-- The dispatch of the call was answered with this frame. -/
def Answered (s : Link) (n : ℕ) (f : ResponseFrame) : Prop :=
  ∃ d ∈ s.dispatched, d.n = n ∧ d.answer = some f

/-- The call whose response the handler is writing. -/
def Handler.numbers : Handler → List ℕ
  | .writing n _ => [n]
  | .reading | .ended => []

/-- The calls whose jobs have left them, in their order. -/
def queue (s : Link) : List ℕ :=
  s.dispatched.map Dispatched.n ++ s.to_server.map WriteJob.n ++ s.mux.inbox.map WriteJob.n

/-- The calls whose responses are under way or were read, in their order. -/
def answers (s : Link) : List ℕ :=
  s.read.map Prod.fst ++ s.to_client.map Reply.n ++ Handler.numbers s.handler

/-- What was dispatched is the call's frame, and the answer the engine's. -/
def From (gpu : Gpu) (d : Dispatched) (c : Call) : Prop :=
  d.frame = ⟨some c.rid, c.action⟩ ∧ d.answer = (d.engine.dispatch gpu d.frame).1

structure Flow (gpu : Gpu) (first : UInt64) (s : Link) : Prop where
  numbered : Numbered first s.mux
  keyed : s.mux.Keyed
  inserted : ∀ n bytes, s.mux.phase n = .inserted bytes → Encodes s.mux n bytes
  jobs : ∀ j ∈ s.to_server ++ s.mux.inbox, Encodes s.mux j.n j.bytes
  once : s.queue.Nodup
  unsent : ∀ n, (s.mux.phase n).unsent = true → n ∉ s.queue
  served : ∀ d ∈ s.dispatched, ∃ c, s.mux.calls[d.n]? = some c ∧ From gpu d c
  replies : ∀ x ∈ s.to_client, ∃ f, Answered s x.n f ∧
    encode_frame Wire.response_frame f = .ok x.bytes
  writing : ∀ n f, s.handler = .writing n f → Answered s n f
  answers_once : s.answers.Nodup
  answered : ∀ n ∈ s.answers, n ∈ s.dispatched.map Dispatched.n
  returned : ∀ x ∈ s.mux.results, s.mux.phase x.1 = .returned
  returned_once : (s.mux.results.map Prod.fst).Nodup

theorem flow_new (gpu : Gpu) (first : UInt64) : Flow gpu first (new first) where
  numbered := numbered_new first
  keyed _ _ h := absurd h (by simp [new, Mux.new])
  inserted _ _ h := absurd h (by simp [new, Mux.new])
  jobs _ h := absurd h List.not_mem_nil
  once := List.nodup_nil
  unsent _ _ := List.not_mem_nil
  served _ h := absurd h List.not_mem_nil
  replies _ h := absurd h List.not_mem_nil
  writing _ _ h := absurd h (by simp [new])
  answers_once := List.nodup_nil
  answered _ h := absurd h List.not_mem_nil
  returned _ h := absurd h List.not_mem_nil
  returned_once := List.nodup_nil

/-- Which responses ended up where. -/
structure Own (gpu : Gpu) (s : Link) : Prop where
  sent : ∀ m r, s.mux.oneshot m = .sent r →
    ∃ c, s.mux.calls[m]? = some c ∧ c.awaited = true ∧ Produced gpu s m c r
  receiver : ∀ n m, (n, some m) ∈ s.read →
    m = n ∧ ∃ c, s.mux.calls[n]? = some c ∧ c.awaited = true
  own : ∀ n r, (n, .ok r) ∈ s.mux.results →
    ∃ c, s.mux.calls[n]? = some c ∧ c.awaited = true ∧ Produced gpu s n c r

theorem own_new (gpu : Gpu) (first : UInt64) : Own gpu (new first) where
  sent _ _ h := absurd h (by simp [new, Mux.new])
  receiver _ _ h := absurd h List.not_mem_nil
  own _ _ h := absurd h List.not_mem_nil

section Steps

variable {gpu : Gpu} {first : UInt64} {s : Link}

/-- Responses in their places. -/
theorem Flow.delivers (h : Flow gpu first s) (ho : Own gpu s) : Delivers gpu s where
  own := ho.own
  dispatched_once := (List.nodup_append.mp (List.nodup_append.mp h.once).1).1
  read_once := (List.nodup_append.mp (List.nodup_append.mp h.answers_once).1).1
  receiver := ho.receiver
  returned_once := h.returned_once

/-- The engine answers a call's frame under the call's id. -/
theorem Flow.answer (h : Flow gpu first s) {n : ℕ} {f : ResponseFrame} (ha : Answered s n f) :
    ∃ c, s.mux.calls[n]? = some c ∧ f.request_id = c.rid ∧ Produced gpu s n c f.response := by
  obtain ⟨d, hd, rfl, hf⟩ := ha
  obtain ⟨c, hc, hframe, hanswer⟩ := h.served d hd
  have hid : f.request_id = c.rid := by
    have heq := hf.symm.trans hanswer
    rw [hframe, dispatch_eq] at heq
    obtain ⟨r, -, hr⟩ := Option.map_eq_some_iff.mp heq.symm
    rw [← hr]
  refine ⟨c, hc, hid, d, hd, rfl, hframe, ?_, hanswer⟩
  rw [hf, ← hid]

/-- With different ids, the sender under a response's id is that of its call. -/
theorem Flow.claimant (h : Flow gpu first s) (hbound : s.mux.calls.length ≤ 2 ^ 64) {n m : ℕ}
    {f : ResponseFrame} (ha : Answered s n f) (hp : s.mux.pending f.request_id = some m) :
    m = n ∧ ∃ c, s.mux.calls[n]? = some c ∧ c.awaited = true ∧ Produced gpu s n c f.response := by
  obtain ⟨c, hc, hid, hproduced⟩ := h.answer ha
  obtain ⟨c', hc', hrid, hawaited⟩ := h.keyed _ _ hp
  have hmn := h.numbered.unique hbound hc' hc (hrid.trans hid)
  rw [hmn, hc] at hc'
  rw [← Option.some.inj hc'] at hawaited
  exact ⟨hmn, c, hc, hawaited, hproduced⟩

/-! ## A piece of the mux -/

section MuxStep

variable {mux : Mux} {l : Mux.Label}

/-- What is true of the calls stays true of them. -/
theorem Encodes.step (hstep : s.mux.step l = some mux) {n : ℕ} {bytes : Bytes}
    (h : Encodes s.mux n bytes) : Encodes mux n bytes := by
  obtain ⟨c, hc, henc⟩ := h
  exact ⟨c, Mux.call_of_step hstep hc, henc⟩

/-- The results of a mux after a step, when the calls that had returned have. -/
theorem Flow.results (h : Flow gpu first s) (hstep : s.mux.step l = some mux) :
    (∀ x ∈ mux.results, mux.phase x.1 = .returned) ∧ (mux.results.map Prod.fst).Nodup := by
  rcases Mux.step_results hstep with hsame | ⟨n, result, hnew, hbefore, hafter, -⟩
  · rw [hsame]
    exact ⟨fun x hx => Mux.step_returned hstep (h.returned x hx), h.returned_once⟩
  · rw [hnew]
    refine ⟨?_, ?_⟩
    · intro x hx
      rcases List.mem_append.mp hx with hx | hx
      · exact Mux.step_returned hstep (h.returned x hx)
      · rw [List.mem_singleton.mp hx]
        exact hafter
    · rw [List.map_append, List.map_singleton, ← List.concat_eq_append]
      refine List.Nodup.concat ?_ h.returned_once
      intro hmem
      obtain ⟨x, hx, hxn⟩ := List.mem_map.mp hmem
      have hreturned := h.returned x hx
      rw [hxn] at hreturned
      exact hbefore hreturned

/-- The inserted calls of a mux after a step. -/
theorem Flow.still_inserted (h : Flow gpu first s) (hstep : s.mux.step l = some mux) {n : ℕ}
    {bytes : Bytes} (hn : mux.phase n = .inserted bytes) : Encodes mux n bytes := by
  rcases Mux.step_inserted hstep hn with hold | hnew
  · exact (h.inserted n bytes hold).step hstep
  · exact Encodes.step hstep hnew

/-- **A piece of the mux** that moves no frame over the stream. -/
theorem Flow.mux_step (h : Flow gpu first s) (hstep : s.mux.step l = some mux) (hl : l ≠ .write) :
    Flow gpu first { s with mux } := by
  obtain ⟨hreturned, honce⟩ := h.results hstep
  -- a job in the inbox is the frame of its call
  have hjobs : ∀ j ∈ s.to_server ++ mux.inbox, Encodes mux j.n j.bytes := by
    intro j hj
    rcases Mux.step_inbox hstep with hsame | ⟨job, hw, -⟩ | hempty | ⟨n, bytes, hnew, -, -, hn⟩
    · rw [hsame] at hj
      exact (h.jobs j hj).step hstep
    · exact absurd hw hl
    · rw [hempty, List.append_nil] at hj
      exact (h.jobs j (List.mem_append_left _ hj)).step hstep
    · rw [hnew, ← List.append_assoc] at hj
      rcases List.mem_append.mp hj with hj | hj
      · exact (h.jobs j hj).step hstep
      · rw [List.mem_singleton.mp hj]
        rcases hn with hn | hn
        · exact (h.inserted n bytes hn).step hstep
        · exact Encodes.step hstep hn
  -- a call is in the queue once, and only after it pushed
  have hqueue : (queue { s with mux }).Nodup ∧
      ∀ n, (mux.phase n).unsent = true → n ∉ queue { s with mux } := by
    rcases Mux.step_inbox hstep with hsame | ⟨job, hw, -⟩ | hempty |
      ⟨n, bytes, hnew, hunsent, hsent, -⟩
    · have heq : queue { s with mux } = s.queue := by
        unfold queue
        rw [hsame]
      rw [heq]
      exact ⟨h.once, fun n hn => h.unsent n (Mux.step_unsent hstep hn)⟩
    · exact absurd hw hl
    · -- the writer task is gone, and the jobs in the inbox with it
      have heq : s.queue = queue { s with mux } ++ s.mux.inbox.map WriteJob.n := by
        unfold queue
        rw [hempty, List.map_nil, List.append_nil]
      have hbefore := h.once
      rw [heq] at hbefore
      refine ⟨(List.nodup_append.mp hbefore).1, ?_⟩
      intro n hn hmem
      apply h.unsent n (Mux.step_unsent hstep hn)
      rw [heq]
      exact List.mem_append_left _ hmem
    · -- a call that had not pushed its job is not in the queue yet
      have heq : queue { s with mux } = s.queue ++ [n] := by
        unfold queue
        rw [hnew, List.map_append, ← List.append_assoc]
        rfl
      rw [heq]
      refine ⟨?_, ?_⟩
      · rw [← List.concat_eq_append]
        exact List.Nodup.concat (h.unsent n hunsent) h.once
      · intro m hm hmem
        rcases List.mem_append.mp hmem with hmem | hmem
        · exact h.unsent m (Mux.step_unsent hstep hm) hmem
        · rw [List.mem_singleton.mp hmem, hsent] at hm
          exact absurd hm (by simp)
  refine ⟨h.numbered.step hstep, h.keyed.step hstep, ?_, hjobs, hqueue.1, hqueue.2, ?_, h.replies,
    h.writing, h.answers_once, h.answered, hreturned, honce⟩
  · intro n bytes hn
    exact h.still_inserted hstep hn
  · intro d hd
    obtain ⟨c, hc, hfrom⟩ := h.served d hd
    exact ⟨c, Mux.call_of_step hstep hc, hfrom⟩

/-- The calls' own responses, after a piece of the mux. What the channels hold
is what they held, and what the reader task has just handed over. -/
theorem Own.mux_step (ho : Own gpu s) (hstep : s.mux.step l = some mux)
    (hread : ∀ raw frame used m, l = .read raw →
      decode_frame Wire.response_frame raw = .ok (frame, used) →
      s.mux.pending frame.request_id = some m →
      ∃ c, s.mux.calls[m]? = some c ∧ c.awaited = true ∧ Produced gpu s m c frame.response) :
    Own gpu { s with mux } := by
  -- what a call was sent is still what was produced for it
  have hkeep : ∀ {n : ℕ} {r : Response},
      (∃ c, s.mux.calls[n]? = some c ∧ c.awaited = true ∧ Produced gpu s n c r) →
        ∃ c, mux.calls[n]? = some c ∧ c.awaited = true ∧ Produced gpu { s with mux } n c r := by
    rintro n r ⟨c, hc, ha, hproduced⟩
    exact ⟨c, Mux.call_of_step hstep hc, ha, hproduced⟩
  refine ⟨?_, ?_, ?_⟩
  · intro m r hm
    rcases Mux.step_sent hstep hm with hold | ⟨raw, frame, used, hl, hdec, hpending, rfl⟩
    · exact hkeep (ho.sent m r hold)
    · exact hkeep (hread raw frame used m hl hdec hpending)
  · intro n m hnm
    obtain ⟨hmn, c, hc, ha⟩ := ho.receiver n m hnm
    exact ⟨hmn, c, Mux.call_of_step hstep hc, ha⟩
  · intro n r hr
    rcases Mux.step_results hstep with hsame | ⟨k, result, hnew, -, -, hchannel⟩
    · change (n, .ok r) ∈ mux.results at hr
      rw [hsame] at hr
      exact hkeep (ho.own n r hr)
    · -- a new result is what the call's own channel held
      change (n, .ok r) ∈ mux.results at hr
      rw [hnew] at hr
      rcases List.mem_append.mp hr with hr | hr
      · exact hkeep (ho.own n r hr)
      · obtain ⟨rfl, rfl⟩ := Prod.mk.inj (List.mem_singleton.mp hr)
        exact hkeep (ho.sent n r (hchannel r rfl))

end MuxStep

/-! ## A piece of the stream -/

/-- A frame that is written moves from the inbox to the stream. -/
theorem Flow.write (h : Flow gpu first s) {job : WriteJob} {inbox : List WriteJob}
    (hinbox : s.mux.inbox = job :: inbox) :
    Flow gpu first { s with
      mux := { s.mux with inbox }, to_server := s.to_server ++ [job] } := by
  have hqueue : queue { s with mux := { s.mux with inbox }, to_server := s.to_server ++ [job] } =
      s.queue := by
    unfold queue
    rw [hinbox, List.map_append, List.map_singleton, List.map_cons]
    simp only [List.append_assoc, List.singleton_append]
  refine ⟨h.numbered, h.keyed, h.inserted, ?_, ?_, ?_, h.served, h.replies, h.writing,
    h.answers_once, h.answered, h.returned, h.returned_once⟩
  · intro j hj
    apply h.jobs
    rw [hinbox]
    rw [List.append_assoc] at hj
    exact hj
  · rw [hqueue]
    exact h.once
  · intro n hn
    rw [hqueue]
    exact h.unsent n hn

/-- The head of the stream decodes to its call's frame. -/
theorem Flow.head (h : Flow gpu first s) {job : WriteJob} {to_server : List WriteJob}
    (hstream : s.to_server = job :: to_server) :
    ∃ c used, s.mux.calls[job.n]? = some c ∧
      decode_frame Wire.frame job.bytes = .ok (⟨some c.rid, c.action⟩, used) := by
  have hmem : job ∈ s.to_server ++ s.mux.inbox := by
    rw [hstream]
    exact List.mem_append_left _ List.mem_cons_self
  obtain ⟨c, hc, henc⟩ := h.jobs job hmem
  exact ⟨c, _, hc, decode_frame_encode_frame _ henc⟩

/-- What was answered stays so when one more is dispatched. -/
theorem Answered.mono {s' : Link} {d : Dispatched} (hd : s'.dispatched = s.dispatched ++ [d])
    {n : ℕ} {f : ResponseFrame} (h : Answered s n f) : Answered s' n f := by
  obtain ⟨x, hx, hn⟩ := h
  refine ⟨x, ?_, hn⟩
  rw [hd]
  exact List.mem_append_left _ hx

/-- A frame that is served moves from the stream to the handler, with its answer. -/
theorem Flow.serve (h : Flow gpu first s) {job : WriteJob} {to_server : List WriteJob} {c : Call}
    {answer : Option ResponseFrame} {engine : Engine} (hhandler : s.handler = .reading)
    (hstream : s.to_server = job :: to_server) (hc : s.mux.calls[job.n]? = some c)
    (hdispatch : s.engine.dispatch gpu ⟨some c.rid, c.action⟩ = (answer, engine)) :
    Flow gpu first { s with
      to_server, engine
      handler := answer.elim .reading (Handler.writing job.n)
      dispatched := s.dispatched ++ [⟨job.n, ⟨some c.rid, c.action⟩, s.engine, answer⟩] } := by
  have hmap : (s.dispatched ++ [(⟨job.n, ⟨some c.rid, c.action⟩, s.engine, answer⟩ :
      Dispatched)]).map Dispatched.n = s.dispatched.map Dispatched.n ++ [job.n] := by
    rw [List.map_append, List.map_singleton]
  have hqueue : ∀ handler, queue { s with
      to_server, engine, handler
      dispatched := s.dispatched ++ [⟨job.n, ⟨some c.rid, c.action⟩, s.engine, answer⟩] } =
        s.queue := by
    intro handler
    unfold queue
    rw [hmap, hstream, List.map_cons]
    simp only [List.append_assoc, List.singleton_append]
  -- the call is not among the dispatched ones, so not among the answered ones
  have hfresh : job.n ∉ s.dispatched.map Dispatched.n := by
    have honce := h.once
    unfold queue at honce
    rw [hstream, List.map_cons] at honce
    intro hmem
    exact (List.nodup_append.mp (List.nodup_append.mp honce).1).2.2 _ hmem _ List.mem_cons_self rfl
  have hanswers : s.answers = s.read.map Prod.fst ++ s.to_client.map Reply.n := by
    unfold answers
    rw [hhandler]
    exact List.append_nil _
  have hlast : (Handler.numbers (answer.elim .reading (Handler.writing job.n)) = [] ∨
      Handler.numbers (answer.elim .reading (Handler.writing job.n)) = [job.n]) := by
    rcases answer with _ | f
    · exact Or.inl rfl
    · exact Or.inr rfl
  refine ⟨h.numbered, h.keyed, h.inserted, ?_, ?_, ?_, ?_, ?_, ?_, ?_, ?_, h.returned,
    h.returned_once⟩
  · intro j hj
    apply h.jobs
    rw [hstream]
    exact List.mem_cons_of_mem job hj
  · rw [hqueue]
    exact h.once
  · intro n hn
    rw [hqueue]
    exact h.unsent n hn
  · intro d hd
    rcases List.mem_append.mp hd with hd | hd
    · exact h.served d hd
    · rw [List.mem_singleton.mp hd]
      refine ⟨c, hc, rfl, ?_⟩
      rw [hdispatch]
  · intro x hx
    obtain ⟨f, hf, henc⟩ := h.replies x hx
    exact ⟨f, hf.mono rfl, henc⟩
  · intro n f hw
    rcases answer with _ | g
    · exact absurd hw (by simp)
    · obtain ⟨rfl, rfl⟩ := Handler.writing.inj hw
      exact ⟨_, List.mem_append_right _ (List.mem_singleton_self _), rfl, rfl⟩
  · show (s.read.map Prod.fst ++ s.to_client.map Reply.n ++ Handler.numbers _).Nodup
    rw [← hanswers]
    rcases hlast with hnone | hone
    · rw [hnone, List.append_nil]
      exact h.answers_once
    · rw [hone, ← List.concat_eq_append]
      exact List.Nodup.concat (fun hmem => hfresh (h.answered _ hmem)) h.answers_once
  · intro n hn
    change n ∈ s.read.map Prod.fst ++ s.to_client.map Reply.n ++ Handler.numbers _ at hn
    rw [← hanswers] at hn
    show n ∈ (s.dispatched ++ [_]).map Dispatched.n
    rw [hmap]
    rcases List.mem_append.mp hn with hn | hn
    · exact List.mem_append_left _ (h.answered n hn)
    · rcases hlast with hnone | hone
      · rw [hnone] at hn
        exact absurd hn List.not_mem_nil
      · rw [hone] at hn
        exact List.mem_append_right _ hn

/-- The response goes from the handler to the stream. -/
theorem Flow.reply (h : Flow gpu first s) {n : ℕ} {f : ResponseFrame} {bytes : Bytes}
    (hhandler : s.handler = .writing n f)
    (henc : encode_frame Wire.response_frame f = .ok bytes) :
    Flow gpu first { s with handler := .reading, to_client := s.to_client ++ [⟨n, bytes⟩] } := by
  -- a reply moves from the handler to the stream, so the list of answers is the same
  have hanswers : answers { s with
      handler := .reading, to_client := s.to_client ++ [⟨n, bytes⟩] } = s.answers := by
    unfold answers
    rw [hhandler, List.map_append, List.map_singleton]
    show _ ++ (_ ++ [n]) ++ [] = _ ++ _ ++ [n]
    rw [List.append_nil, List.append_assoc]
  refine ⟨h.numbered, h.keyed, h.inserted, h.jobs, h.once, h.unsent, h.served, ?_, ?_, ?_, ?_,
    h.returned, h.returned_once⟩
  · intro x hx
    rcases List.mem_append.mp hx with hx | hx
    · exact h.replies x hx
    · rw [List.mem_singleton.mp hx]
      exact ⟨f, h.writing n f hhandler, henc⟩
  · intro m g hw
    exact absurd hw (by simp)
  · rw [hanswers]
    exact h.answers_once
  · intro m hm
    rw [hanswers] at hm
    exact h.answered m hm

/-- The handler gives up, and the response with it. -/
theorem Flow.end_handler (h : Flow gpu first s) : Flow gpu first { s with handler := .ended } := by
  have hanswers : s.answers = answers { s with handler := .ended } ++ Handler.numbers s.handler := by
    unfold answers
    show _ = _ ++ [] ++ _
    rw [List.append_nil]
  have honce := h.answers_once
  rw [hanswers] at honce
  refine ⟨h.numbered, h.keyed, h.inserted, h.jobs, h.once, h.unsent, h.served, h.replies, ?_,
    (List.nodup_append.mp honce).1, ?_, h.returned, h.returned_once⟩
  · intro m g hw
    exact absurd hw (by simp)
  · intro m hm
    apply h.answered
    rw [hanswers]
    exact List.mem_append_left _ hm

/-- The reader task reads the response at the head of the stream. -/
theorem Flow.read (h : Flow gpu first s) {reply : Reply} {to_client : List Reply} {mux : Mux}
    {target : Option ℕ} (hstream : s.to_client = reply :: to_client)
    (hstep : s.mux.step (.read reply.bytes) = some mux) :
    Flow gpu first { s with mux, to_client, read := s.read ++ [(reply.n, target)] } := by
  have hmux := h.mux_step hstep (by simp)
  have hanswers : answers { s with mux, to_client, read := s.read ++ [(reply.n, target)] } =
      s.answers := by
    unfold answers
    rw [hstream, List.map_append, List.map_singleton, List.map_cons]
    simp only [List.append_assoc, List.cons_append, List.nil_append]
  refine ⟨hmux.numbered, hmux.keyed, hmux.inserted, hmux.jobs, hmux.once, hmux.unsent, hmux.served,
    ?_, hmux.writing, ?_, ?_, hmux.returned, hmux.returned_once⟩
  · intro x hx
    apply h.replies
    rw [hstream]
    exact List.mem_cons_of_mem reply hx
  · rw [hanswers]
    exact h.answers_once
  · intro m hm
    rw [hanswers] at hm
    exact h.answered m hm

/-- Whoever receives a response has its sender under the response's id. -/
theorem pending_of_receiver {mux : Mux} {rid : RequestId} {m : ℕ}
    (h : receiver mux rid = some m) : mux.pending rid = some m := by
  unfold receiver at h
  rcases hp : mux.pending rid with _ | k
  · rw [hp] at h
    exact absurd h (by simp)
  · rw [hp] at h
    rcases hk : mux.phase k with _ | _ | _ | _ | _ | _
    all_goals
      simp only [hk] at h
      first | rw [Option.some.inj h] | exact absurd h (by simp)

/-- **It is handed to its own call**, if ids are different. -/
theorem Own.read (ho : Own gpu s) (h : Flow gpu first s) (hbound : s.mux.calls.length ≤ 2 ^ 64)
    {reply : Reply} {to_client : List Reply} {mux : Mux} {target : Option ℕ}
    (hstream : s.to_client = reply :: to_client)
    (hstep : s.mux.step (.read reply.bytes) = some mux)
    (htarget : ∀ frame used m, decode_frame Wire.response_frame reply.bytes = .ok (frame, used) →
      target = some m → s.mux.pending frame.request_id = some m) :
    Own gpu { s with mux, to_client, read := s.read ++ [(reply.n, target)] } := by
  obtain ⟨f, hf, henc⟩ := h.replies reply (by rw [hstream]; exact List.mem_cons_self)
  have hdec := decode_frame_encode_frame _ henc
  -- the reader delivers the response to the call that was answered
  have hmux := ho.mux_step hstep (by
    intro raw frame used m hl hd hpending
    rw [← Mux.Label.read.inj hl, hdec] at hd
    obtain ⟨rfl, -⟩ := Prod.mk.inj (Except.ok.inj hd)
    obtain ⟨rfl, c, hc, ha, hproduced⟩ := h.claimant hbound hf hpending
    exact ⟨c, hc, ha, hproduced⟩)
  refine ⟨hmux.sent, ?_, hmux.own⟩
  intro n m hnm
  rcases List.mem_append.mp hnm with hnm | hnm
  · exact hmux.receiver n m hnm
  · obtain ⟨rfl, ht⟩ := Prod.mk.inj (List.mem_singleton.mp hnm)
    obtain ⟨rfl, c, hc, ha, -⟩ := h.claimant hbound hf (htarget f _ m hdec ht.symm)
    exact ⟨rfl, c, Mux.call_of_step hstep hc, ha⟩

/-- More dispatched, nothing delivered. -/
theorem Own.mono {s' : Link} (ho : Own gpu s) (hmux : s'.mux = s.mux) (hread : s'.read = s.read)
    (hd : ∀ d ∈ s.dispatched, d ∈ s'.dispatched) : Own gpu s' := by
  have hkeep : ∀ {n : ℕ} {r : Response},
      (∃ c, s.mux.calls[n]? = some c ∧ c.awaited = true ∧ Produced gpu s n c r) →
        ∃ c, s'.mux.calls[n]? = some c ∧ c.awaited = true ∧ Produced gpu s' n c r := by
    rintro n r ⟨c, hc, ha, d, hdm, hrest⟩
    rw [hmux]
    exact ⟨c, hc, ha, d, hd d hdm, hrest⟩
  refine ⟨?_, ?_, ?_⟩
  · intro m r hm
    rw [hmux] at hm
    exact hkeep (ho.sent m r hm)
  · intro n m hnm
    rw [hread] at hnm
    rw [hmux]
    exact ho.receiver n m hnm
  · intro n r hr
    rw [hmux] at hr
    exact hkeep (ho.own n r hr)

end Steps

/-! ## One step -/

/-- The flow, and with different ids the responses in their places. -/
structure Inv (gpu : Gpu) (first : UInt64) (s : Link) : Prop where
  flow : Flow gpu first s
  own : s.mux.calls.length ≤ 2 ^ 64 → Own gpu s

section Step

variable {gpu : Gpu} {first : UInt64} {s s' : Link}

/-- Calls are never forgotten, so an earlier state has no more of them. -/
theorem calls_length {mux : Mux} {l : Mux.Label} (hstep : s.mux.step l = some mux) :
    s.mux.calls.length ≤ mux.calls.length := by
  rcases Mux.step_calls hstep with ⟨hcalls, -⟩ | ⟨awaited, action, rfl⟩
  · exact Nat.le_of_eq (congrArg List.length hcalls.symm)
  · show _ ≤ (s.mux.calls ++ [_]).length
    rw [List.length_append]
    omega

/-- One step keeps the invariant; the lemmas above have one case a label. -/
theorem Inv.step {l : Label} (h : Inv gpu first s) (hstep : step gpu s l = some s') :
    Inv gpu first s' := by
  obtain ⟨hflow, hown⟩ := h
  rcases l with l | _ | _ | _ | _ | _
  · -- a piece of the mux
    have hinner : ∀ ml : Mux.Label, ml ≠ .write → (∀ raw, ml ≠ .read raw) →
        (s.mux.step ml).map (fun mux => { s with mux }) = some s' → Inv gpu first s' := by
      intro ml hw hr hs
      obtain ⟨mux, hmux, rfl⟩ := Option.map_eq_some_iff.mp hs
      refine ⟨hflow.mux_step hmux hw, fun hbound => ?_⟩
      exact (hown (Nat.le_trans (calls_length hmux) hbound)).mux_step hmux
        fun raw _ _ _ hl => absurd hl (hr raw)
    simp only [Link.step] at hstep
    split at hstep
    · exact absurd hstep (by simp)
    · exact absurd hstep (by simp)
    · rename_i hw hr
      exact hinner l hw hr hstep
  · -- the writer task writes
    obtain ⟨job, hjob, hstep⟩ := Option.bind_eq_some_iff.mp hstep
    obtain ⟨mux, hmux, hs⟩ := Option.bind_eq_some_iff.mp hstep
    rw [← Option.some.inj hs]
    rcases hinbox : s.mux.inbox with _ | ⟨j, inbox⟩
    · rw [hinbox] at hjob
      exact absurd hjob (by simp)
    · rw [hinbox] at hjob
      rw [← Option.some.inj hjob]
      have hmuxeq : mux = { s.mux with inbox } := by
        simp only [Mux.step, hinbox] at hmux
        split at hmux
        · rename_i heq
          rw [(List.cons.inj heq).2]
          exact (Option.some.inj hmux).symm
        · exact absurd hmux (by simp)
      rw [hmuxeq]
      refine ⟨hflow.write hinbox, fun hbound => ?_⟩
      obtain ⟨hsent, hreceiver, hresults⟩ := hown hbound
      exact ⟨hsent, hreceiver, hresults⟩
  · -- the handler dispatches
    rcases hstream : s.to_server with _ | ⟨job, to_server⟩
    · simp only [Link.step, hstream] at hstep
      split at hstep
      · rename_i heq
        exact absurd heq (by simp)
      · exact absurd hstep (by simp)
    · rcases hhandler : s.handler with _ | ⟨n, f⟩ | _
      · obtain ⟨c, used, hc, hdec⟩ := hflow.head hstream
        simp only [Link.step, hhandler, hstream, hdec] at hstep
        rw [← Option.some.inj hstep]
        refine ⟨hflow.serve hhandler hstream hc rfl, fun hbound => ?_⟩
        exact (hown hbound).mono rfl rfl fun d hd => List.mem_append_left _ hd
      · simp only [Link.step, hhandler] at hstep
        exact absurd hstep (by simp)
      · simp only [Link.step, hhandler] at hstep
        exact absurd hstep (by simp)
  · -- the handler writes its response
    rcases hhandler : s.handler with _ | ⟨n, f⟩ | _
    · simp only [Link.step, hhandler] at hstep
      exact absurd hstep (by simp)
    · rcases henc : encode_frame Wire.response_frame f with e | bytes
      · simp only [Link.step, hhandler, henc] at hstep
        rw [← Option.some.inj hstep]
        exact ⟨hflow.end_handler, fun hbound => (hown hbound).mono rfl rfl fun _ => id⟩
      · simp only [Link.step, hhandler, henc] at hstep
        rw [← Option.some.inj hstep]
        exact ⟨hflow.reply hhandler henc, fun hbound => (hown hbound).mono rfl rfl fun _ => id⟩
    · simp only [Link.step, hhandler] at hstep
      exact absurd hstep (by simp)
  -- the handler fails: its stream ends, and what was answered stays
  · rw [← Option.some.inj hstep]
    exact ⟨hflow.end_handler, fun hbound => (hown hbound).mono rfl rfl fun _ => id⟩
  · -- the reader task reads
    rcases hstream : s.to_client with _ | ⟨reply, to_client⟩
    · simp only [Link.step, hstream] at hstep
      exact absurd hstep (by simp)
    · simp only [Link.step, hstream] at hstep
      obtain ⟨mux, hmux, hs⟩ := Option.bind_eq_some_iff.mp hstep
      rw [← Option.some.inj hs]
      refine ⟨hflow.read hstream hmux, fun hbound => ?_⟩
      have hbefore := Nat.le_trans (calls_length hmux) hbound
      refine (hown hbefore).read hflow hbefore hstream hmux ?_
      intro frame used m hdec htarget
      simp only [hdec] at htarget
      exact pending_of_receiver htarget

end Step

/-- **Responses are never misdelivered**, over every run of one client's calls,
its tasks, the stream and the server, with failures and cancellations anywhere,
as long as the client has minted at most 2^64 request ids. -/
theorem responses_own (gpu : Gpu) (next_request_id : UInt64) (labels : List Label) (s : Link)
    (hrun : Transition.run (step gpu) (new next_request_id) labels = some s)
    (hbound : s.mux.calls.length ≤ 2 ^ 64) : Delivers gpu s := by
  have hinv : Inv gpu next_request_id s :=
    Transition.run_invariant (step gpu) (fun _ _ _ => Inv.step)
      ⟨flow_new gpu next_request_id, fun _ => own_new gpu next_request_id⟩ hrun
  exact hinv.flow.delivers (hinv.own hbound)

end Link

end Responses

/-! ## A request and a `send` -/

section Runs

open Link

attribute [local instance] WgpuTypes.numeric

/-- A `send` and a `request` are both answered; the request returns. -/
def send_and_request : List Label :=
  [.mux (.call false (.Destroy (.Buffer ⟨1⟩))), .mux (.call true .RequestAdapter), .mux (.insert 1),
    .mux (.send 0), .mux (.push 1), .write, .write, .serve, .reply, .serve, .reply, .read, .read,
    .mux (.resume 1)]

/-- The request returns its own response; nobody gets the other. -/
theorem request_answered :
    ∃ s, Transition.run (step idle_gpu) (new 1) send_and_request = some s ∧
      s.mux.results.length = 1 ∧ s.read = [(0, none), (1, some 1)] ∧ Delivers idle_gpu s := by
  obtain ⟨s, hrun, hresults, hread, hcalls⟩ : ∃ s,
      Transition.run (step idle_gpu) (new 1) send_and_request = some s ∧
        s.mux.results.length = 1 ∧ s.read = [(0, none), (1, some 1)] ∧
        s.mux.calls.length = 2 := ⟨_, rfl, rfl, rfl, rfl⟩
  refine ⟨s, hrun, hresults, hread, responses_own idle_gpu 1 _ s hrun ?_⟩
  rw [hcalls]
  decide

end Runs

end WgpuRemote
