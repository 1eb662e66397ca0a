/-
Under the frames, bytes.

`Link` has the tasks hand each other whole frames. What they have in fact is a
stream of bytes each way: `write_all` gives the transport as much as it accepts at
a time, `read_frame` takes what has arrived and waits for more, and either may be
anywhere in a frame when something fails. `ByteLink` is the same system at that
grain.

Each of its runs is one of `Link` (`bytes_refine_frames`): a frame passes from one
task to the next when its last byte is written, and again when its last byte is
read. So what was shown of frames holds of bytes. No failure makes up a frame,
because a frame that was not written to its end is never read to its end. Left to
themselves the tasks come to rest (`moves_lower`), and where nobody has failed,
nobody is then left waiting in the middle of a frame (`Settled.drained`).

The streams are those of the transports here, whose `flush` does nothing.
-/
import WgpuRemote.Transport.Pieces
import WgpuRemote.System.Responses

set_option autoImplicit false

namespace WgpuRemote

open Bincode Client Server
open Pipe (Framed Lane)
open Wgpu (Gpu)

section Bytes

variable [WgpuTypes]

/-! ## The system -/

/-- Where `handle_stream` stands. -/
inductive StreamTask where
  | reading
  /-- It has dispatched a frame that has an answer. -/
  | answering (frame : ResponseFrame)
  /-- It is in `write_all`. -/
  | writing
  | ended

/-- A frame that was dispatched, the engine it was dispatched on, and the answer. -/
structure Exchange where
  frame : Frame
  engine : Engine
  answer : Option ResponseFrame

structure ByteLink where
  mux : Mux
  /-- From the writer task to the handler. -/
  up : Lane UInt8
  task : StreamTask
  engine : Engine
  dispatched : List Exchange
  /-- From the handler to the reader task. -/
  down : Lane UInt8

namespace ByteLink

def new (next_request_id : UInt64) : ByteLink where
  mux := Mux.new next_request_id
  up := Lane.empty
  task := .reading
  engine := Engine.new
  dispatched := []
  down := Lane.empty

inductive Label where
  /-- Any piece of the mux but those below. -/
  | mux (l : Mux.Label)
  /-- The writer task takes the next job. -/
  | recv
  /-- The stream accepts the next bytes of the job. -/
  | write (k : ℕ)
  /-- The writer task fails to write them, and ends. -/
  | write_error
  /-- `read_frame` gets the next bytes. -/
  | feed (k : ℕ)
  /-- The handler has read a frame: it decodes and dispatches it. -/
  | serve
  /-- The handler encodes the answer. -/
  | encode
  /-- The stream accepts the next bytes of the answer. -/
  | reply (k : ℕ)
  /-- The handler fails to read or write, and ends. -/
  | handler_error
  /-- The reader task's `read_frame` gets the next bytes. -/
  | read (k : ℕ)
  /-- The reader task has read a frame: it hands over the response. -/
  | deliver

/-- The labels by which the tasks move what they have been given. -/
def Label.moves : Label → Bool
  | .recv | .write _ | .feed _ | .serve | .encode | .reply _ | .read _ | .deliver => true
  | .mux _ | .write_error | .handler_error => false

def step (gpu : Gpu) (s : ByteLink) : Label → Option ByteLink
  | .mux l =>
      match l with
      | .write | .write_error | .read _ => none
      | l => (s.mux.step l).map fun mux => { s with mux }
  | .recv =>
      match s.mux.writer, s.up.unsent, s.mux.inbox with
      | true, [], job :: inbox =>
          some { s with mux := { s.mux with inbox }, up := s.up.start job.bytes }
      | _, _, _ => none
  | .write k =>
      if s.mux.writer = true ∧ 0 < k ∧ k ≤ s.up.unsent.length then
        some { s with up := s.up.write k }
      else none
  | .write_error =>
      if s.mux.writer = true ∧ s.up.unsent ≠ [] then
        some { s with mux := { s.mux with inbox := [], writer := false } }
      else none
  | .feed k =>
      match s.task with
      | .reading =>
          if 0 < k ∧ k ≤ frame_need s.up.got ∧ k ≤ s.up.flying.length then
            some { s with up := s.up.feed k }
          else none
      | _ => none
  | .serve =>
      match s.task, frame_need s.up.got with
      | .reading, 0 =>
          match decode_frame Wire.frame s.up.got with
          | .error _ => some { s with up := s.up.take, task := .ended }
          | .ok (frame, _) =>
              let (answer, engine) := s.engine.dispatch gpu frame
              some { s with
                up := s.up.take, engine
                task := answer.elim .reading .answering
                dispatched := s.dispatched ++ [⟨frame, s.engine, answer⟩] }
      | _, _ => none
  | .encode =>
      match s.task with
      | .answering frame =>
          match encode_frame Wire.response_frame frame with
          | .error _ => some { s with task := .ended }
          | .ok bytes => some { s with task := .writing, down := s.down.start bytes }
      | _ => none
  | .reply k =>
      match s.task with
      | .writing =>
          if 0 < k ∧ k ≤ s.down.unsent.length then
            some { s with
              down := s.down.write k
              task := if k = s.down.unsent.length then .reading else .writing }
          else none
      | _ => none
  | .handler_error => some { s with task := .ended }
  | .read k =>
      if s.mux.reader = .running ∧ 0 < k ∧ k ≤ frame_need s.down.got ∧
          k ≤ s.down.flying.length then
        some { s with down := s.down.feed k }
      else none
  | .deliver =>
      match frame_need s.down.got with
      | 0 => (s.mux.step (.read s.down.got)).map fun mux => { s with mux, down := s.down.take }
      | _ => none

/-- **All that one step can do.** -/
inductive Moves (gpu : Gpu) (s : ByteLink) : Label → ByteLink → Prop where
  | mux {l : Mux.Label} {mux : Mux} (hw : l ≠ .write) (he : l ≠ .write_error)
      (hr : ∀ raw, l ≠ .read raw) (hm : s.mux.step l = some mux) :
      Moves gpu s (.mux l) { s with mux }
  | recv {job : WriteJob} {inbox : List WriteJob} (hw : s.mux.writer = true)
      (hu : s.up.unsent = []) (hi : s.mux.inbox = job :: inbox) :
      Moves gpu s .recv { s with mux := { s.mux with inbox }, up := s.up.start job.bytes }
  | write {k : ℕ} (hw : s.mux.writer = true) (hpos : 0 < k) (hk : k ≤ s.up.unsent.length) :
      Moves gpu s (.write k) { s with up := s.up.write k }
  | write_error (hw : s.mux.writer = true) (hu : s.up.unsent ≠ []) :
      Moves gpu s .write_error { s with mux := { s.mux with inbox := [], writer := false } }
  | feed {k : ℕ} (ht : s.task = .reading) (hpos : 0 < k) (hn : k ≤ frame_need s.up.got)
      (hk : k ≤ s.up.flying.length) : Moves gpu s (.feed k) { s with up := s.up.feed k }
  | refuse {e : CodecError} (ht : s.task = .reading) (hn : frame_need s.up.got = 0)
      (hd : decode_frame Wire.frame s.up.got = .error e) :
      Moves gpu s .serve { s with up := s.up.take, task := .ended }
  | serve {frame : Frame} {used : ℕ} {answer : Option ResponseFrame} {engine : Engine}
      (ht : s.task = .reading) (hn : frame_need s.up.got = 0)
      (hd : decode_frame Wire.frame s.up.got = .ok (frame, used))
      (ha : s.engine.dispatch gpu frame = (answer, engine)) :
      Moves gpu s .serve { s with
        up := s.up.take, engine
        task := answer.elim .reading .answering
        dispatched := s.dispatched ++ [⟨frame, s.engine, answer⟩] }
  | too_large {frame : ResponseFrame} {e : CodecError} (ht : s.task = .answering frame)
      (he : encode_frame Wire.response_frame frame = .error e) :
      Moves gpu s .encode { s with task := .ended }
  | encode {frame : ResponseFrame} {bytes : Bytes} (ht : s.task = .answering frame)
      (he : encode_frame Wire.response_frame frame = .ok bytes) :
      Moves gpu s .encode { s with task := .writing, down := s.down.start bytes }
  | reply {k : ℕ} (ht : s.task = .writing) (hpos : 0 < k) (hk : k ≤ s.down.unsent.length) :
      Moves gpu s (.reply k) { s with
        down := s.down.write k
        task := if k = s.down.unsent.length then .reading else .writing }
  | handler_error : Moves gpu s .handler_error { s with task := .ended }
  | read {k : ℕ} (hr : s.mux.reader = .running) (hpos : 0 < k) (hn : k ≤ frame_need s.down.got)
      (hk : k ≤ s.down.flying.length) : Moves gpu s (.read k) { s with down := s.down.feed k }
  | deliver {mux : Mux} (hn : frame_need s.down.got = 0)
      (hm : s.mux.step (.read s.down.got) = some mux) :
      Moves gpu s .deliver { s with mux, down := s.down.take }

section Moves

variable {gpu : Gpu} {s s' : ByteLink} {l : Label}

/-- The steps of the model are moves, and no more: one case a label, split where the source
branches. -/
theorem moves_of_step (h : step gpu s l = some s') : Moves gpu s l s' := by
  cases l with
  | mux l =>
      have hinner : (s.mux.step l).map (fun mux => { s with mux }) = some s' → l ≠ .write →
          l ≠ .write_error → (∀ raw, l ≠ .read raw) → Moves gpu s (.mux l) s' := by
        intro hs hw he hr
        obtain ⟨mux, hmux, rfl⟩ := Option.map_eq_some_iff.mp hs
        exact .mux hw he hr hmux
      cases l with
      | write => cases h
      | write_error => cases h
      | read raw => cases h
      | _ => exact hinner h (by simp) (by simp) (by simp)
  | recv =>
      simp only [step] at h
      split at h
      · rename_i job inbox hw hu hi
        rw [← Option.some.inj h]
        exact .recv hw hu hi
      · cases h
  | write k =>
      simp only [step] at h
      split at h
      · rename_i hk
        rw [← Option.some.inj h]
        exact .write hk.1 hk.2.1 hk.2.2
      · cases h
  | write_error =>
      simp only [step] at h
      split at h
      · rename_i hk
        rw [← Option.some.inj h]
        exact .write_error hk.1 hk.2
      · cases h
  | feed k =>
      simp only [step] at h
      split at h
      · rename_i ht
        split at h
        · rename_i hk
          rw [← Option.some.inj h]
          exact .feed ht hk.1 hk.2.1 hk.2.2
        · cases h
      · cases h
  | serve =>
      simp only [step] at h
      split at h
      · rename_i ht hn
        split at h
        · rename_i e hd
          rw [← Option.some.inj h]
          exact .refuse ht hn hd
        · rename_i frame used hd
          rw [← Option.some.inj h]
          exact .serve ht hn hd rfl
      · cases h
  | encode =>
      simp only [step] at h
      split at h
      · rename_i frame ht
        split at h
        · rename_i e he
          rw [← Option.some.inj h]
          exact .too_large ht he
        · rename_i bytes he
          rw [← Option.some.inj h]
          exact .encode ht he
      · cases h
  | reply k =>
      simp only [step] at h
      split at h
      · rename_i ht
        split at h
        · rename_i hk
          rw [← Option.some.inj h]
          exact .reply ht hk.1 hk.2
        · cases h
      · cases h
  | handler_error =>
      rw [← Option.some.inj h]
      exact .handler_error
  | read k =>
      simp only [step] at h
      split at h
      · rename_i hk
        rw [← Option.some.inj h]
        exact .read hk.1 hk.2.1 hk.2.2.1 hk.2.2.2
      · cases h
  | deliver =>
      simp only [step] at h
      split at h
      · rename_i hn
        obtain ⟨mux, hm, rfl⟩ := Option.map_eq_some_iff.mp h
        exact .deliver hn hm
      · cases h

/-- And it can do all of it. -/
theorem Moves.step (h : Moves gpu s l s') : ByteLink.step gpu s l = some s' := by
  cases h with
  | @mux l mux hw he hr hm =>
      cases l with
      | write => exact absurd rfl hw
      | write_error => exact absurd rfl he
      | read raw => exact absurd rfl (hr raw)
      | _ => simp only [ByteLink.step, hm, Option.map_some]
  | recv hw hu hi => simp only [ByteLink.step, hw, hu, hi]
  | write hw hpos hk => exact if_pos ⟨hw, hpos, hk⟩
  | write_error hw hu => exact if_pos ⟨hw, hu⟩
  | feed ht hpos hn hk =>
      simp only [ByteLink.step, ht]
      exact if_pos ⟨hpos, hn, hk⟩
  | refuse ht hn hd => simp only [ByteLink.step, ht, hn, hd]
  | serve ht hn hd ha => simp only [ByteLink.step, ht, hn, hd, ha]
  | too_large ht he => simp only [ByteLink.step, ht, he]
  | encode ht he => simp only [ByteLink.step, ht, he]
  | reply ht hpos hk =>
      simp only [ByteLink.step, ht]
      exact if_pos ⟨hpos, hk⟩
  | handler_error => rfl
  | read hr hpos hn hk => exact if_pos ⟨hr, hpos, hn, hk⟩
  | deliver hn hm => simp only [ByteLink.step, hn, hm, Option.map_some]

end Moves

end ByteLink

/-! ## A job that the writer task has in hand -/

namespace Client.Mux

/-- The mux whose writer task has not taken this job yet. -/
def behind (job : Option WriteJob) (mux : Mux) : Mux :=
  { mux with inbox := job.toList ++ mux.inbox }

/-- A job sent while another is being written is behind it. -/
theorem behind_send (job : Option WriteJob) (mux : Mux) (j : WriteJob) :
    (mux.behind job).send j = (mux.send j).behind job := by
  unfold Mux.send
  by_cases hwriter : mux.writer = true
  · rw [if_pos hwriter, if_pos (show (mux.behind job).writer = true from hwriter)]
    unfold behind
    rw [List.append_assoc]
  · rw [if_neg hwriter, if_neg (show ¬ (mux.behind job).writer = true from hwriter)]

/-- A response is delivered whatever is being written. -/
theorem behind_deliver (job : Option WriteJob) (mux : Mux) (frame : ResponseFrame) :
    (mux.behind job).deliver frame = (mux.deliver frame).behind job := by
  have hpending : (mux.behind job).pending = mux.pending := rfl
  unfold Mux.deliver
  rw [hpending]
  rcases mux.pending frame.request_id with _ | m
  · rfl
  · rfl

/-- Only the writer task looks at the head of the inbox. -/
theorem step_behind (job : Option WriteJob) (mux : Mux) {l : Mux.Label} (hw : l ≠ .write)
    (he : l ≠ .write_error) :
    (mux.behind job).step l = (mux.step l).map (behind job) := by
  -- what is behind the job is the same in every other respect
  have hcalls : (mux.behind job).calls = mux.calls := rfl
  have hphase : (mux.behind job).phase = mux.phase := rfl
  have honeshot : (mux.behind job).oneshot = mux.oneshot := rfl
  have hwriter : (mux.behind job).writer = mux.writer := rfl
  have hreader : (mux.behind job).reader = mux.reader := rfl
  cases l with
  | write => exact absurd rfl hw
  | write_error => exact absurd rfl he
  | call awaited action => rfl
  | insert n =>
      simp only [Mux.step, hcalls, hphase]
      rcases mux.calls[n]? with _ | ⟨rid, action, _ | _⟩
      · rfl
      · rfl
      · rcases mux.phase n with _ | _ | _ | _ | _ | _
        · dsimp only
          rcases (Call.mk rid action true).encode with e | bytes
          · rfl
          · rfl
        all_goals rfl
  | push n =>
      simp only [Mux.step, hphase, hwriter, behind_send]
      rcases mux.phase n with _ | _ | _ | _ | _ | _
      all_goals rfl
  | give_up n =>
      simp only [Mux.step, hcalls, hphase]
      rcases mux.calls[n]? with _ | c
      · rfl
      · rcases mux.phase n with _ | _ | _ | _ | _ | _
        all_goals rfl
  | resume n =>
      simp only [Mux.step, hphase, honeshot]
      rcases mux.phase n with _ | _ | _ | _ | _ | _
      case awaiting =>
        rcases mux.oneshot n with _ | r | _
        all_goals rfl
      all_goals rfl
  | cancel n =>
      simp only [Mux.step, hcalls, hphase]
      rcases mux.calls[n]? with _ | ⟨rid, action, _ | _⟩
      · rfl
      all_goals
        rcases mux.phase n with _ | _ | _ | _ | _ | _
        all_goals rfl
  | send n =>
      simp only [Mux.step, hcalls, hphase, behind_send]
      rcases mux.calls[n]? with _ | ⟨rid, action, _ | _⟩
      · rfl
      · rcases mux.phase n with _ | _ | _ | _ | _ | _
        · dsimp only
          rcases (Call.mk rid action false).encode with e | bytes
          · rfl
          · rfl
        all_goals rfl
      · rfl
  | read raw =>
      simp only [Mux.step, hreader, behind_deliver]
      rcases mux.reader with _ | _ | _
      · dsimp only
        rcases decode_frame Wire.response_frame raw with e | ⟨frame, used⟩
        · rfl
        · rfl
      · rfl
      · rfl
  | read_error =>
      simp only [Mux.step, hreader]
      rcases mux.reader with _ | _ | _
      all_goals rfl
  | clear =>
      simp only [Mux.step, hreader]
      rcases mux.reader with _ | _ | _
      all_goals rfl

/-- Whole frames: the job in hand is taken at once. -/
theorem write_behind (job : WriteJob) {mux : Mux} (hwriter : mux.writer = true) :
    (mux.behind (some job)).step .write = some mux := by
  have heq : { mux with writer := true } = mux := by
    rw [← hwriter]
  simp only [Mux.step, behind, hwriter]
  exact congrArg some heq

/-- Whole frames: the writer fails with the job in hand, and takes those behind it along. -/
theorem write_error_behind (job : WriteJob) {mux : Mux} (hwriter : mux.writer = true) :
    (mux.behind (some job)).step .write_error = some { mux with inbox := [], writer := false } := by
  simp only [Mux.step, behind, hwriter]
  rfl

/-- The writer task ends at its own failure only. -/
theorem step_writer {mux mux' : Mux} {l : Mux.Label} (h : mux.step l = some mux')
    (he : l ≠ .write_error) : mux'.writer = mux.writer := by
  cases moves_of_step h with
  | write_error _ => exact absurd rfl he
  | read _ _ =>
      rw [deliver_eq]
  | _ => rfl

end Client.Mux

namespace ByteLink

/-! ## Which frames are under way -/

/-- The same without the number of the call. -/
def Exchange.of (d : Dispatched) : Exchange := ⟨d.frame, d.engine, d.answer⟩

/-- The handler by bytes and by frames, and the answer that is being written. -/
inductive Stands : StreamTask → Handler → Option Bytes → Prop where
  | reading : Stands .reading .reading none
  | answering (n : ℕ) (frame : ResponseFrame) : Stands (.answering frame) (.writing n frame) none
  | writing (n : ℕ) {frame : ResponseFrame} {bytes : Bytes}
      (henc : encode_frame Wire.response_frame frame = .ok bytes) :
      Stands .writing (.writing n frame) (some bytes)
  | ended (reply : Option Bytes) : Stands .ended .ended reply

/-- The bytes are those of the frames. The writer task has `job` in hand; a job
it failed to write is still in `current`, but no longer a job. -/
structure Refines (gpu : Gpu) (first : UInt64) (s : ByteLink) (t : Link) (job : Option WriteJob)
    (current reply : Option Bytes) : Prop where
  inv : Link.Inv gpu first t
  mux : t.mux = s.mux.behind job
  alive : s.mux.writer = true → current = job.map WriteJob.bytes
  dead : s.mux.writer = false → job = none
  up : s.up.Carries frame_need (t.to_server.map WriteJob.bytes) current
  engine : t.engine = s.engine
  dispatched : t.dispatched.map Exchange.of = s.dispatched
  task : Stands s.task t.handler reply
  down : s.down.Carries frame_need (t.to_client.map Reply.bytes) reply

/-- At the start both have nothing in hand and nothing on the way. -/
theorem refines_new (gpu : Gpu) (first : UInt64) :
    Refines gpu first (new first) (Link.new first) none none none where
  inv := ⟨Link.flow_new gpu first, fun _ => Link.own_new gpu first⟩
  mux := rfl
  alive _ := rfl
  dead _ := rfl
  up := Lane.carries_empty
  engine := rfl
  dispatched := rfl
  task := .reading
  down := Lane.carries_empty

/-- The jobs are frames. -/
theorem framed_job {gpu : Gpu} {first : UInt64} {t : Link} (h : Link.Inv gpu first t)
    {job : WriteJob} (hjob : job ∈ t.to_server ++ t.mux.inbox) : Framed frame_need job.bytes := by
  obtain ⟨c, -, henc⟩ := h.flow.jobs job hjob
  exact framed_encode_frame _ henc

section Steps

variable {gpu : Gpu} {first : UInt64} {s : ByteLink} {t : Link} {job : Option WriteJob}
  {current reply : Option Bytes}

/-! ## The client's side -/

/-- What the client does apart from writing and reading is the same on both levels. -/
theorem Refines.mux_step (h : Refines gpu first s t job current reply) {l : Mux.Label} {mux : Mux}
    (hw : l ≠ .write) (he : l ≠ .write_error) (hr : ∀ raw, l ≠ .read raw)
    (hstep : s.mux.step l = some mux) :
    ∃ t', Link.step gpu t (.mux l) = some t' ∧
      Refines gpu first { s with mux } t' job current reply := by
  have hmux : t.mux.step l = some (mux.behind job) := by
    rw [h.mux, Mux.step_behind job s.mux hw he, hstep]
    rfl
  have hlink : Link.step gpu t (.mux l) = some { t with mux := mux.behind job } := by
    cases l with
    | write => exact absurd rfl hw
    | read raw => exact absurd rfl (hr raw)
    | _ => simp only [Link.step, hmux, Option.map_some]
  have hwriter : mux.writer = s.mux.writer := Mux.step_writer hstep he
  refine ⟨_, hlink, h.inv.step hlink, rfl, ?_, ?_, h.up, h.engine, h.dispatched, h.task, h.down⟩
  · intro halive
    exact h.alive (hwriter.symm.trans halive)
  · intro hdead
    exact h.dead (hwriter.symm.trans hdead)

/-- A writer task that has nothing left to write has no job in hand. -/
theorem Refines.between (h : Refines gpu first s t job current reply)
    (hwriter : s.mux.writer = true) (hunsent : s.up.unsent = []) : current = none ∧ job = none := by
  have hcurrent := h.up.current_none hunsent
  have halive := h.alive hwriter
  rw [hcurrent] at halive
  exact ⟨hcurrent, Option.map_eq_none_iff.mp halive.symm⟩

/-- Among the frames nothing happens when the writer task takes a job. -/
theorem Refines.recv (h : Refines gpu first s t job current reply) {next : WriteJob}
    {inbox : List WriteJob} (hwriter : s.mux.writer = true) (hunsent : s.up.unsent = [])
    (hinbox : s.mux.inbox = next :: inbox) :
    Refines gpu first { s with mux := { s.mux with inbox }, up := s.up.start next.bytes } t
      (some next) (some next.bytes) reply := by
  obtain ⟨hcurrent, hjob⟩ := h.between hwriter hunsent
  have hmux := h.mux
  rw [hjob] at hmux
  have hnext : next ∈ t.to_server ++ t.mux.inbox := by
    rw [hmux]
    show next ∈ t.to_server ++ s.mux.inbox
    rw [hinbox]
    simp
  -- the next job is one of the frames of the level above
  have hframed := framed_job h.inv hnext
  have hup := h.up
  rw [hcurrent] at hup
  refine ⟨h.inv, ?_, fun _ => rfl, ?_, hup.start hframed (hframed.ne_nil frame_need_nil), h.engine,
    h.dispatched, h.task, h.down⟩
  · rw [hmux]
    unfold Mux.behind
    rw [hinbox]
    rfl
  · intro hdead
    exact absurd (hwriter.symm.trans hdead) (by simp)

/-- It hands the job on when the last byte is written. -/
theorem Refines.write (h : Refines gpu first s t job current reply) {k : ℕ}
    (hwriter : s.mux.writer = true) (hpos : 0 < k) (hk : k ≤ s.up.unsent.length) :
    ∃ ms t' job' current', Transition.run (Link.step gpu) t ms = some t' ∧
      Refines gpu first { s with up := s.up.write k } t' job' current' reply := by
  -- the last byte of a job is the step of whole frames; before it nothing moves there
  by_cases hlast : k < s.up.unsent.length
  · exact ⟨[], t, job, current, rfl, h.inv, h.mux, h.alive, h.dead, h.up.write hlast, h.engine,
      h.dispatched, h.task, h.down⟩
  · have hunsent : s.up.unsent ≠ [] := List.ne_nil_of_length_pos (by omega)
    obtain ⟨x, rfl⟩ := h.up.current_some hunsent
    obtain ⟨j, rfl, rfl⟩ := Option.map_eq_some_iff.mp (h.alive hwriter).symm
    have hinbox : t.mux.inbox = j :: s.mux.inbox := by
      rw [h.mux]
      rfl
    have hmux : t.mux.step .write = some s.mux := by
      rw [h.mux]
      exact Mux.write_behind j hwriter
    have hlink : Link.step gpu t .write =
        some { t with mux := s.mux, to_server := t.to_server ++ [j] } := by
      simp only [Link.step, hinbox, List.head?_cons, hmux, Option.bind_eq_bind, Option.bind_some]
    refine ⟨[.write], _, none, none, by rw [Transition.run_cons, hlink]; rfl, h.inv.step hlink,
      rfl, fun _ => rfl, fun _ => rfl, ?_, h.engine, h.dispatched, h.task, h.down⟩
    show (s.up.write k).Carries frame_need ((t.to_server ++ [j]).map WriteJob.bytes) none
    rw [List.map_append, List.map_singleton]
    exact h.up.written (by omega)

/-- A job that is not written to its end is lost, and with it the inbox. -/
theorem Refines.write_error (h : Refines gpu first s t job current reply)
    (hwriter : s.mux.writer = true) (hunsent : s.up.unsent ≠ []) :
    ∃ t', Link.step gpu t (.mux .write_error) = some t' ∧
      Refines gpu first { s with mux := { s.mux with inbox := [], writer := false } } t' none
        current reply := by
  obtain ⟨x, hx⟩ := h.up.current_some hunsent
  obtain ⟨j, hj, -⟩ := Option.map_eq_some_iff.mp ((h.alive hwriter).symm.trans hx)
  have hmux : t.mux.step .write_error = some { s.mux with inbox := [], writer := false } := by
    rw [h.mux, hj]
    exact Mux.write_error_behind j hwriter
  have hlink : Link.step gpu t (.mux .write_error) =
      some { t with mux := { s.mux with inbox := [], writer := false } } := by
    simp only [Link.step, hmux, Option.map_some]
  refine ⟨_, hlink, h.inv.step hlink, rfl, ?_, fun _ => rfl, h.up, h.engine, h.dispatched, h.task,
    h.down⟩
  intro halive
  exact absurd halive (by simp)

/-- The reader task's frame is the reply at the head of the stream. -/
theorem Refines.deliver (h : Refines gpu first s t job current reply) {mux : Mux}
    (hneed : frame_need s.down.got = 0) (hstep : s.mux.step (.read s.down.got) = some mux) :
    ∃ t', Link.step gpu t .read = some t' ∧
      Refines gpu first { s with mux, down := s.down.take } t' job current reply := by
  obtain ⟨rest, hqueue, hdown⟩ := h.down.take frame_need_nil hneed
  obtain ⟨x, to_client, hclient, hbytes, rfl⟩ := List.map_eq_cons_iff.mp hqueue
  have hmux : t.mux.step (.read x.bytes) = some (mux.behind job) := by
    rw [hbytes, h.mux, Mux.step_behind job s.mux (by simp) (by simp), hstep]
    rfl
  have hwriter : mux.writer = s.mux.writer := Mux.step_writer hstep (by simp)
  obtain ⟨t', hlink, ht'⟩ : ∃ t', Link.step gpu t .read = some t' ∧
      ∃ read, t' = { t with mux := mux.behind job, to_client, read } := by
    simp only [Link.step, hclient, hmux]
    exact ⟨_, rfl, _, rfl⟩
  obtain ⟨read, rfl⟩ := ht'
  refine ⟨_, hlink, h.inv.step hlink, rfl, ?_, ?_, h.up, h.engine, h.dispatched, h.task, hdown⟩
  · intro halive
    exact h.alive (hwriter.symm.trans halive)
  · intro hdead
    exact h.dead (hwriter.symm.trans hdead)

/-! ## The server's side -/

omit [WgpuTypes] in
/-- A handler that reads holds no reply. -/
theorem Stands.of_reading {handler : Handler} (h : Stands .reading handler reply) :
    handler = .reading ∧ reply = none := by
  cases h
  exact ⟨rfl, rfl⟩

omit [WgpuTypes] in
/-- One that answers has the frame and no bytes of it written. -/
theorem Stands.of_answering {handler : Handler} {frame : ResponseFrame}
    (h : Stands (.answering frame) handler reply) :
    (∃ n, handler = .writing n frame) ∧ reply = none := by
  cases h with
  | answering n _ => exact ⟨⟨n, rfl⟩, rfl⟩

omit [WgpuTypes] in
/-- One that writes has the bytes of its frame. -/
theorem Stands.of_writing {handler : Handler} (h : Stands .writing handler reply) :
    ∃ n frame bytes, handler = .writing n frame ∧
      encode_frame Wire.response_frame frame = .ok bytes ∧ reply = some bytes := by
  cases h with
  | writing n henc => exact ⟨n, _, _, rfl, henc, rfl⟩

/-- The frame that the handler has read is the job at the head of the stream. -/
theorem Refines.head (h : Refines gpu first s t job current reply)
    (hneed : frame_need s.up.got = 0) :
    ∃ (j : WriteJob) (to_server : List WriteJob) (frame : Frame) (used : ℕ),
      t.to_server = j :: to_server ∧ j.bytes = s.up.got ∧
        decode_frame Wire.frame s.up.got = .ok (frame, used) ∧
          s.up.take.Carries frame_need (to_server.map WriteJob.bytes) current := by
  obtain ⟨rest, hqueue, hup⟩ := h.up.take frame_need_nil hneed
  obtain ⟨j, to_server, hserver, hbytes, rfl⟩ := List.map_eq_cons_iff.mp hqueue
  obtain ⟨c, used, -, hdec⟩ := h.inv.flow.head hserver
  rw [hbytes] at hdec
  exact ⟨j, to_server, _, used, hserver, hbytes, hdec, hup⟩

/-- Serving a frame that has arrived whole is serving it on the level of frames. -/
theorem Refines.serve (h : Refines gpu first s t job current reply) {frame : Frame} {used : ℕ}
    {answer : Option ResponseFrame} {engine : Engine} (htask : s.task = .reading)
    (hneed : frame_need s.up.got = 0)
    (hdec : decode_frame Wire.frame s.up.got = .ok (frame, used))
    (hdispatch : s.engine.dispatch gpu frame = (answer, engine)) :
    ∃ t', Link.step gpu t .serve = some t' ∧
      Refines gpu first { s with
        up := s.up.take, engine
        task := answer.elim .reading .answering
        dispatched := s.dispatched ++ [⟨frame, s.engine, answer⟩] } t' job current reply := by
  -- the bytes at the front are those of the job at the head of the stream
  obtain ⟨j, to_server, -, -, hserver, hbytes, -, hup⟩ := h.head hneed
  have hstands := h.task
  rw [htask] at hstands
  obtain ⟨hhandler, hreply⟩ := hstands.of_reading
  have hlink : Link.step gpu t .serve = some { t with
      to_server, engine
      handler := answer.elim .reading (Handler.writing j.n)
      dispatched := t.dispatched ++ [⟨j.n, frame, t.engine, answer⟩] } := by
    rw [← hbytes] at hdec
    rw [← h.engine] at hdispatch
    simp only [Link.step, hhandler, hserver, hdec, hdispatch]
  refine ⟨_, hlink, h.inv.step hlink, h.mux, h.alive, h.dead, hup, rfl, ?_, ?_, h.down⟩
  · show (t.dispatched ++ [_]).map Exchange.of = _
    rw [List.map_append, h.dispatched, List.map_singleton, ← h.engine]
    rfl
  -- an answer is written next; without one the handler reads on
  · rw [hreply]
    rcases answer with _ | response
    · exact .reading
    · exact .answering j.n response

/-- An answer that does not fit a frame ends both handlers. -/
theorem Refines.too_large (h : Refines gpu first s t job current reply) {frame : ResponseFrame}
    {e : CodecError} (htask : s.task = .answering frame)
    (henc : encode_frame Wire.response_frame frame = .error e) :
    ∃ t', Link.step gpu t .reply = some t' ∧
      Refines gpu first { s with task := .ended } t' job current reply := by
  have hstands := h.task
  rw [htask] at hstands
  obtain ⟨⟨n, hhandler⟩, -⟩ := hstands.of_answering
  have hlink : Link.step gpu t .reply = some { t with handler := .ended } := by
    simp only [Link.step, hhandler, henc]
  exact ⟨_, hlink, h.inv.step hlink, h.mux, h.alive, h.dead, h.up, h.engine, h.dispatched,
    .ended reply, h.down⟩

/-- Among the frames nothing happens when the handler begins to write. -/
theorem Refines.encode (h : Refines gpu first s t job current reply) {frame : ResponseFrame}
    {bytes : Bytes} (htask : s.task = .answering frame)
    (henc : encode_frame Wire.response_frame frame = .ok bytes) :
    Refines gpu first { s with task := .writing, down := s.down.start bytes } t job current
      (some bytes) := by
  have hstands := h.task
  rw [htask] at hstands
  obtain ⟨⟨n, hhandler⟩, rfl⟩ := hstands.of_answering
  have hframed := framed_encode_frame _ henc
  refine ⟨h.inv, h.mux, h.alive, h.dead, h.up, h.engine, h.dispatched, ?_,
    h.down.start hframed (hframed.ne_nil frame_need_nil)⟩
  rw [hhandler]
  exact .writing n henc

/-- The answer is handed on when its last byte is written. -/
theorem Refines.respond (h : Refines gpu first s t job current reply) {k : ℕ}
    (htask : s.task = .writing) (hk : k ≤ s.down.unsent.length) :
    ∃ ms t' reply', Transition.run (Link.step gpu) t ms = some t' ∧
      Refines gpu first { s with
        down := s.down.write k
        task := if k = s.down.unsent.length then .reading else .writing } t' job current reply' := by
  have hstands := h.task
  rw [htask] at hstands
  obtain ⟨n, frame, bytes, hhandler, henc, rfl⟩ := hstands.of_writing
  -- the last byte of a reply is the step of whole frames
  by_cases hlast : k = s.down.unsent.length
  · have hlink : Link.step gpu t .reply =
        some { t with handler := .reading, to_client := t.to_client ++ [⟨n, bytes⟩] } := by
      simp only [Link.step, hhandler, henc]
    refine ⟨[.reply], _, none, by rw [Transition.run_cons, hlink]; rfl, h.inv.step hlink, h.mux,
      h.alive, h.dead, h.up, h.engine, h.dispatched, ?_, ?_⟩
    · rw [if_pos hlast]
      exact .reading
    · show (s.down.write k).Carries frame_need ((t.to_client ++ [_]).map Reply.bytes) none
      rw [List.map_append, List.map_singleton]
      exact h.down.written (Nat.le_of_eq hlast.symm)
  · refine ⟨[], t, some bytes, rfl, h.inv, h.mux, h.alive, h.dead, h.up, h.engine, h.dispatched, ?_,
      h.down.write (by omega)⟩
    rw [if_neg hlast, hhandler]
    exact .writing n henc

/-- The handler leaves what it was reading, and what it was writing. -/
theorem Refines.handler_error (h : Refines gpu first s t job current reply) :
    Refines gpu first { s with task := .ended } { t with handler := .ended } job current reply :=
  ⟨h.inv.step (l := .handler_error) rfl, h.mux, h.alive, h.dead, h.up, h.engine, h.dispatched,
    .ended reply, h.down⟩

/-! ## Runs -/

/-- **Each step of the bytes is none, or one, of the frames.** -/
theorem refines_step {s' : ByteLink} {l : Label}
    (h : ∃ job current reply, Refines gpu first s t job current reply)
    (hstep : step gpu s l = some s') :
    ∃ ms t', Transition.run (Link.step gpu) t ms = some t' ∧
      ∃ job current reply, Refines gpu first s' t' job current reply := by
  have one : ∀ {m : Link.Label} {t' : Link}, Link.step gpu t m = some t' →
      Transition.run (Link.step gpu) t [m] = some t' := by
    intro m t' hm
    rw [Transition.run_cons, hm]
    rfl
  obtain ⟨job, current, reply, h⟩ := h
  cases moves_of_step hstep with
  | mux hw he hr hm =>
      obtain ⟨t', hlink, h'⟩ := h.mux_step hw he hr hm
      exact ⟨_, t', one hlink, _, _, _, h'⟩
  | recv hw hu hi => exact ⟨[], t, rfl, _, _, _, h.recv hw hu hi⟩
  | write hw hpos hk =>
      obtain ⟨ms, t', job', current', hrun, h'⟩ := h.write hw hpos hk
      exact ⟨ms, t', hrun, _, _, _, h'⟩
  | write_error hw hu =>
      obtain ⟨t', hlink, h'⟩ := h.write_error hw hu
      exact ⟨_, t', one hlink, _, _, _, h'⟩
  | feed ht hpos hn hk =>
      exact ⟨[], t, rfl, job, current, reply, h.inv, h.mux, h.alive, h.dead, h.up.feed hn, h.engine,
        h.dispatched, h.task, h.down⟩
  | refuse ht hn hd =>
      -- what the writer task has written decodes
      obtain ⟨-, -, frame, used, -, -, hdec, -⟩ := h.head hn
      rw [hd] at hdec
      cases hdec
  | serve ht hn hd ha =>
      obtain ⟨t', hlink, h'⟩ := h.serve ht hn hd ha
      exact ⟨_, t', one hlink, _, _, _, h'⟩
  | too_large ht he =>
      obtain ⟨t', hlink, h'⟩ := h.too_large ht he
      exact ⟨_, t', one hlink, _, _, _, h'⟩
  | encode ht he => exact ⟨[], t, rfl, _, _, _, h.encode ht he⟩
  | reply ht hpos hk =>
      obtain ⟨ms, t', reply', hrun, h'⟩ := h.respond ht hk
      exact ⟨ms, t', hrun, _, _, _, h'⟩
  | handler_error => exact ⟨[.handler_error], _, rfl, _, _, _, h.handler_error⟩
  | read hr hpos hn hk =>
      exact ⟨[], t, rfl, job, current, reply, h.inv, h.mux, h.alive, h.dead, h.up, h.engine,
        h.dispatched, h.task, h.down.feed hn⟩
  | deliver hn hm =>
      obtain ⟨t', hlink, h'⟩ := h.deliver hn hm
      exact ⟨_, t', one hlink, _, _, _, h'⟩

/-! ## Where nobody can go on -/

/-- Nobody has failed, and no task can move anything. -/
structure Settled (gpu : Gpu) (s : ByteLink) : Prop where
  writer : s.mux.writer = true
  reader : s.mux.reader = .running
  handler : s.task ≠ .ended
  rests : ∀ l : Label, l.moves = true → step gpu s l = none

/-- A settled link makes none of the moves that bring bytes forward. -/
theorem Settled.stops (h : Settled gpu s) {s' : ByteLink} {l : Label} (hl : l.moves = true) :
    ¬ Moves gpu s l s' := by
  intro hm
  have hrest := h.rests l hl
  rw [hm.step] at hrest
  cases hrest

omit [WgpuTypes] in
/-- A stream that is at rest is empty: there is no frame that somebody waits for
the rest of. -/
theorem settled_lane {lane : Lane UInt8} {queue : List Bytes} {current : Option Bytes}
    (h : lane.Carries frame_need queue current) (hunsent : lane.unsent = [])
    (hfeed : 0 < frame_need lane.got → lane.flying = []) (htake : frame_need lane.got ≠ 0) :
    queue = [] := by
  have hflying := hfeed (Nat.pos_of_ne_zero htake)
  have hgot : lane.got = [] := by
    by_contra hne
    rcases h.waits hne htake with hfly | hun
    · exact hfly hflying
    · exact hun hunsent
  exact h.drained frame_need_nil hgot hflying hunsent

/-- The writer task has written all it was given. -/
theorem Settled.written (h : Settled gpu s) : s.up.unsent = [] ∧ s.mux.inbox = [] := by
  have hunsent : s.up.unsent = [] := by
    by_contra hne
    exact h.stops rfl (.write h.writer (List.length_pos_iff.mpr hne) (Nat.le_refl _))
  refine ⟨hunsent, ?_⟩
  rcases hinbox : s.mux.inbox with _ | ⟨next, inbox⟩
  · rfl
  · exact absurd (.recv h.writer hunsent hinbox) (h.stops rfl)

/-- The handler waits for a frame. -/
theorem Settled.reading (h : Settled gpu s) (hr : Refines gpu first s t job current reply) :
    s.task = .reading := by
  rcases htask : s.task with _ | frame | _ | _
  · rfl
  · rcases henc : encode_frame Wire.response_frame frame with e | bytes
    · exact absurd (.too_large htask henc) (h.stops rfl)
    · exact absurd (.encode htask henc) (h.stops rfl)
  · have hstands := hr.task
    rw [htask] at hstands
    obtain ⟨-, -, bytes, -, -, hreply⟩ := hstands.of_writing
    obtain ⟨hunsent, -⟩ := hr.down.under_way bytes hreply
    have hpos := List.length_pos_iff.mpr hunsent
    exact absurd (.reply htask hpos (Nat.le_refl _)) (h.stops rfl)
  · exact absurd htask h.handler

/-- **Then everything has arrived**: the frames at the server, and the answers at
the client. -/
theorem Settled.drained (h : Settled gpu s) (hr : Refines gpu first s t job current reply) :
    t.mux = s.mux ∧ s.mux.inbox = [] ∧ t.to_server = [] ∧ t.handler = .reading ∧
      t.to_client = [] := by
  obtain ⟨hunsent, hinbox⟩ := h.written
  have htask := h.reading hr
  obtain ⟨-, hjob⟩ := hr.between h.writer hunsent
  have hstands := hr.task
  rw [htask] at hstands
  obtain ⟨hhandler, hreply⟩ := hstands.of_reading
  have hserver : t.to_server.map WriteJob.bytes = [] := by
    apply settled_lane hr.up hunsent
    · intro hneed
      by_contra hfly
      exact h.stops rfl (.feed htask Nat.one_pos hneed (List.length_pos_iff.mpr hfly))
    · intro hneed
      obtain ⟨-, -, frame, used, -, -, hdec, -⟩ := hr.head hneed
      exact h.stops rfl (.serve htask hneed hdec rfl)
  have hclient : t.to_client.map Reply.bytes = [] := by
    apply settled_lane hr.down (hr.down.idle hreply)
    · intro hneed
      by_contra hfly
      exact h.stops rfl (.read h.reader Nat.one_pos hneed (List.length_pos_iff.mpr hfly))
    · intro hneed
      -- a reader task that runs takes any frame
      obtain ⟨mux, hmux⟩ : ∃ mux, s.mux.step (.read s.down.got) = some mux := by
        simp only [Mux.step, h.reader]
        split
        · exact ⟨_, rfl⟩
        · exact ⟨_, rfl⟩
      exact h.stops rfl (.deliver hneed hmux)
  refine ⟨?_, hinbox, List.map_eq_nil_iff.mp hserver, hhandler, List.map_eq_nil_iff.mp hclient⟩
  rw [hr.mux, hjob]
  rfl

/-- The state that is meant by it. -/
theorem settled_of_empty (hwriter : s.mux.writer = true) (hreader : s.mux.reader = .running)
    (htask : s.task = .reading) (hinbox : s.mux.inbox = []) (hup : s.up = Lane.empty)
    (hdown : s.down = Lane.empty) : Settled gpu s where
  writer := hwriter
  reader := hreader
  handler := by
    rw [htask]
    simp
  rests l hl := by
    have hneed : frame_need [] = 4 := rfl
    have hnone : ∀ k, ¬ (0 < k ∧ k ≤ 0) := by omega
    -- no frame in the inbox, no bytes on the way: every piece waits for another
    cases l with
    | mux _ | write_error | handler_error => cases hl
    | recv => simp only [step, hwriter, hup, Lane.empty, hinbox]
    | write k => simp only [step, hup, Lane.empty, List.length_nil, hnone, and_false, if_false]
    | feed k =>
        simp only [step, htask, hup, Lane.empty, List.length_nil]
        rw [if_neg (by omega)]
    | serve => simp only [step, htask, hup, Lane.empty, hneed]
    | encode => simp only [step, htask]
    | reply k => simp only [step, htask]
    | read k =>
        simp only [step, hdown, Lane.empty, List.length_nil]
        rw [if_neg (by omega)]
    | deliver => simp only [step, hdown, Lane.empty, hneed]

/-! ## And nobody goes on forever -/

/-- No frame is longer. -/
def frame_cap : ℕ := MAX_FRAME_BYTES + 4

/-- What a byte on its way to the handler is good for: an answer of its frame, and
the answer's way back. -/
def byte_work : ℕ := 3 * frame_cap + 2

/-- How much the handler has still to do for the frame in hand. -/
def task_work : StreamTask → ℕ
  | .answering _ => 3 * frame_cap + 1
  | .reading | .writing | .ended => 0

/-- How many movements are left, at the most: what each byte has ahead of it, from
where it is. -/
def work (s : ByteLink) : ℕ :=
  (s.mux.inbox.map fun job => (byte_work + 2) * job.bytes.length + 1).sum +
    ((byte_work + 2) * s.up.unsent.length + (byte_work + 1) * s.up.flying.length +
      byte_work * s.up.got.length) + task_work s.task +
    (3 * s.down.unsent.length + 2 * s.down.flying.length + s.down.got.length)

omit [WgpuTypes] in
/-- A whole frame has its header. -/
theorem four_le_of_whole {got : Bytes} (h : frame_need got = 0) : 4 ≤ got.length := by
  unfold frame_need at h
  by_contra hlt
  rw [if_pos (by omega)] at h
  omega

/-- **Every movement leaves less to do.** -/
theorem moves_lower {s' : ByteLink} {l : Label} (hl : l.moves = true)
    (hstep : step gpu s l = some s') : s'.work < s.work := by
  cases moves_of_step hstep with
  | mux _ _ _ _ | write_error _ _ | handler_error => cases hl
  | recv hw hu hi =>
      simp only [work, Lane.start, hi, hu, List.map_cons, List.sum_cons, List.length_nil]
      omega
  | write hw hpos hk =>
      simp only [work, Lane.write, byte_work, frame_cap, MAX_FRAME_BYTES, List.length_append,
        List.length_take, List.length_drop]
      omega
  | feed ht hpos hn hk =>
      simp only [work, Lane.feed, byte_work, frame_cap, MAX_FRAME_BYTES, List.length_append,
        List.length_take, List.length_drop]
      omega
  | refuse ht hn hd =>
      have hlen := four_le_of_whole hn
      simp only [work, Lane.take, task_work, ht, byte_work, frame_cap, MAX_FRAME_BYTES,
        List.length_nil]
      omega
  | @serve frame used answer engine ht hn hd ha =>
      -- a frame has four bytes at least, and one answer at most
      have hlen := four_le_of_whole hn
      have hwork : task_work (answer.elim .reading .answering) ≤ 3 * frame_cap + 1 := by
        rcases answer with _ | response
        · exact Nat.zero_le _
        · exact Nat.le_refl _
      simp only [work, Lane.take, byte_work, frame_cap, MAX_FRAME_BYTES, List.length_nil]
        at hwork ⊢
      omega
  | too_large ht he =>
      simp only [work, task_work, ht]
      omega
  | @encode frame bytes ht he =>
      have hlen : bytes.length ≤ frame_cap := by
        obtain ⟨body, -, hcap, rfl⟩ := encode_frame_ok _ he
        rw [List.length_append, to_be_bytes_length, frame_cap]
        omega
      simp only [work, task_work, ht, Lane.start]
      omega
  | @reply k ht hpos hk =>
      have hwork : task_work (if k = s.down.unsent.length then .reading else .writing) = 0 := by
        split
        · rfl
        · rfl
      simp only [work, hwork, Lane.write, List.length_append, List.length_take, List.length_drop]
      omega
  | read hr hpos hn hk =>
      simp only [work, Lane.feed, List.length_append, List.length_take, List.length_drop]
      omega
  | @deliver mux hn hm =>
      have hlen := four_le_of_whole hn
      have hinbox : mux.inbox = s.mux.inbox := by
        cases Mux.moves_of_step hm with
        | decode_error _ _ => rfl
        | read _ _ => rw [Mux.deliver_eq]
      simp only [work, Lane.take, hinbox, List.length_nil]
      omega

end Steps

/-! ## The property -/

/-- One state by bytes and by frames. The tasks, the engine and its record are the
same; a job that the writer task has in hand is still in the inbox, and each stream
has the frames whose bytes are in it. -/
structure Framewise (s : ByteLink) (t : Link) : Prop where
  mux : ∃ job, t.mux = s.mux.behind job
  engine : t.engine = s.engine
  dispatched : t.dispatched.map Exchange.of = s.dispatched
  up : ∃ current, s.up.Carries frame_need (t.to_server.map WriteJob.bytes) current
  down : ∃ reply, s.down.Carries frame_need (t.to_client.map Reply.bytes) reply

/-- What was dispatched was sent, and what a request returned is the answer to its
own frame. -/
structure Genuine (gpu : Gpu) (s : ByteLink) : Prop where
  sent : ∀ x ∈ s.dispatched, ∃ c ∈ s.mux.calls, x.frame = ⟨some c.rid, c.action⟩
  own : s.mux.calls.length ≤ 2 ^ 64 → ∀ n r, (n, .ok r) ∈ s.mux.results →
    ∃ c, s.mux.calls[n]? = some c ∧ c.awaited = true ∧ ∃ x ∈ s.dispatched,
      x.frame = ⟨some c.rid, c.action⟩ ∧ x.answer = some ⟨c.rid, r⟩ ∧
        x.answer = (x.engine.dispatch gpu x.frame).1

/-- What a byte link has done is genuine, because the link of whole frames that it refines has
done the same. -/
theorem Refines.genuine {gpu : Gpu} {first : UInt64} {s : ByteLink} {t : Link}
    {job : Option WriteJob} {current reply : Option Bytes}
    (h : Refines gpu first s t job current reply) : Genuine gpu s where
  sent x hx := by
    rw [← h.dispatched] at hx
    obtain ⟨d, hd, rfl⟩ := List.mem_map.mp hx
    obtain ⟨c, hc, hfrom⟩ := h.inv.flow.served d hd
    rw [h.mux] at hc
    exact ⟨c, List.mem_of_getElem? hc, hfrom.1⟩
  own hbound n r hr := by
    -- the mux below has the same calls and the same results
    have hcalls : t.mux.calls = s.mux.calls := by
      rw [h.mux]
      rfl
    have hresults : t.mux.results = s.mux.results := by
      rw [h.mux]
      rfl
    rw [← hresults] at hr
    rw [← hcalls] at hbound ⊢
    obtain ⟨c, hc, ha, d, hd, -, hframe, hanswer, hdispatch⟩ := (h.inv.own hbound).own n r hr
    refine ⟨c, hc, ha, Exchange.of d, ?_, hframe, hanswer, hdispatch⟩
    rw [← h.dispatched]
    exact List.mem_map_of_mem hd

/-- **The streams may cut the frames as they like.** Every run of the system by
bytes, with failures anywhere, is one by frames: of whole frames, in their order.
Left to themselves the tasks come to rest, after so many movements at the most. And
in a state in which nobody has failed and no task can move anything, nothing is under
way: no job, no frame and no part of one. -/
theorem bytes_refine_frames (gpu : Gpu) (next_request_id : UInt64) (labels : List Label)
    (s : ByteLink) (hrun : Transition.run (step gpu) (new next_request_id) labels = some s) :
    Genuine gpu s ∧
      (∃ ms t, Transition.run (Link.step gpu) (Link.new next_request_id) ms = some t ∧
        Framewise s t ∧ (Settled gpu s → t.mux = s.mux ∧ s.mux.inbox = [] ∧ t.to_server = [] ∧
          t.handler = .reading ∧ t.to_client = [])) ∧
      ∀ (ls : List Label) (s' : ByteLink), (∀ l ∈ ls, l.moves = true) →
        Transition.run (step gpu) s ls = some s' → ls.length + s'.work ≤ s.work := by
  obtain ⟨ms, t, hlink, job, current, reply, hr⟩ :=
    Transition.run_simulated (step gpu)
      (R := fun s t => ∃ job current reply, Refines gpu next_request_id s t job current reply)
      (fun _ _ _ _ => refines_step) ⟨none, none, none, refines_new gpu next_request_id⟩ hrun
  refine ⟨hr.genuine, ⟨ms, t, hlink, ?_, fun h => h.drained hr⟩, ?_⟩
  · exact ⟨⟨job, hr.mux⟩, hr.engine, hr.dispatched, ⟨current, hr.up⟩, ⟨reply, hr.down⟩⟩
  · intro ls s' hmoves hrest
    exact Transition.run_length_le (step gpu) (fun _ _ _ hl hstep => moves_lower hl hstep) hmoves
      hrest

end ByteLink

end Bytes

/-! ## A request in pieces -/

section Runs

open ByteLink

attribute [local instance] WgpuTypes.numeric

/-- A request whose frame arrives in two pieces, and its response in three. -/
def request_in_pieces : List Label :=
  [.mux (.call true .RequestAdapter), .mux (.insert 0), .mux (.push 0), .recv, .write 2, .feed 1,
    .write 5, .feed 3, .feed 3, .serve, .encode, .reply 6, .read 4, .read 2, .deliver,
    .mux (.resume 0)]

/-- The request returns, and nothing is left under way. -/
theorem request_in_pieces_answered :
    ∃ s, Transition.run (step idle_gpu) (new 1) request_in_pieces = some s ∧
      s.mux.results.length = 1 ∧ Settled idle_gpu s ∧ Genuine idle_gpu s := by
  obtain ⟨s, hrun, hresults, hwriter, hreader, htask, hinbox, hup, hdown⟩ : ∃ s,
      Transition.run (step idle_gpu) (new 1) request_in_pieces = some s ∧
        s.mux.results.length = 1 ∧ s.mux.writer = true ∧ s.mux.reader = .running ∧
        s.task = .reading ∧ s.mux.inbox = [] ∧ s.up = Lane.empty ∧ s.down = Lane.empty :=
    ⟨_, rfl, rfl, rfl, rfl, rfl, rfl, rfl, rfl⟩
  exact ⟨s, hrun, hresults, settled_of_empty hwriter hreader htask hinbox hup hdown,
    (bytes_refine_frames idle_gpu 1 _ s hrun).1⟩

end Runs

end WgpuRemote
