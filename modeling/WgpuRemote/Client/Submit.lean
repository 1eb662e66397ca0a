/-
`Queue::submit` of the facade and of the drop-in, on a client whose stream is
open.

A submission is encoded twice. A recording that does not encode is `submit`'s
error, and the drop-in hands it to the uncaptured-error handler. A frame that
does not encode is dropped inside `send`, which returns nothing. `Fits` is what
keeps the second from happening, in bytes.
-/
import WgpuRemote.Client.Mux
import WgpuRemote.Transport.Stream

set_option autoImplicit false

namespace WgpuRemote.Client

open Bincode

section Submit

variable [WgpuTypes]

/-! ## The two layers -/

/-- Result of `CommandEncoder::finish`. -/
structure CommandBuffer where
  recording : CommandBufferRecording

def CommandBuffer.into_recording (cb : CommandBuffer) : CommandBufferRecording := cb.recording

/-- The payloads of a submission, or the error of the first recording that has none. -/
def payloads (command_buffers : List CommandBuffer) : Except EncodeError (List Bytes) :=
  command_buffers.mapM fun cb => cb.into_recording.encode

/-- The facade's `Queue::submit`. Its errors are `ClientError::Encode`. -/
def Mux.submit (s : Mux) (command_buffers : List CommandBuffer) : Except EncodeError Unit × Mux :=
  match payloads command_buffers with
  | .error e => (.error e, s)
  | .ok recordings => (.ok (), s.send_action (.Submit recordings))

/-- `wgpu::Error::Internal`, around a `SubmitError`. -/
structure InternalError where
  description : String

/-- What the installed handler has been called with, if one is installed. -/
structure ErrorReporter where
  handler : Option (List InternalError)

/-- Route an error through the installed handler; `none` if there is none, and
`report` panics. -/
def ErrorReporter.report (r : ErrorReporter) (err : InternalError) : Option ErrorReporter :=
  match r.handler with
  | some calls => some ⟨some (calls ++ [err])⟩
  | none => none

/-- The drop-in's `Queue`. -/
structure DropinQueue where
  facade : Mux
  error_handler : ErrorReporter
  next_submission : UInt64

/-- The drop-in's `Queue::submit`; `none` is a panic. -/
def DropinQueue.submit (q : DropinQueue) (command_buffers : List CommandBuffer) :
    Option (UInt64 × DropinQueue) := do
  let (result, facade) := q.facade.submit command_buffers
  let error_handler ←
    match result with
    | .error e => q.error_handler.report ⟨"Queue::submit failed: encode: " ++ e.message⟩
    | .ok () => some q.error_handler
  return (q.next_submission,
    { facade, error_handler, next_submission := q.next_submission + 1 })

/-! ## What a submission should do -/

/-- The frame is a `Submit` whose payloads decode to the recordings, in order. -/
def Submits (bytes : Bytes) (command_buffers : List CommandBuffer) : Prop :=
  ∃ rid recordings,
    decode_frame Wire.frame bytes = .ok (⟨some rid, .Submit recordings⟩, bytes.length) ∧
    List.Forall₂ (fun p r => CommandBufferRecording.decode p = .ok r)
      recordings (command_buffers.map CommandBuffer.into_recording)

/-- **Submit reports its own loss.** -/
structure ReportsLoss (q : DropinQueue) (command_buffers : List CommandBuffer) : Prop where
  ok : (q.facade.submit command_buffers).1 = .ok () →
    ∃ job, (q.facade.submit command_buffers).2.inbox = q.facade.inbox ++ [job] ∧
      Submits job.bytes command_buffers
  error : ∀ e, (q.facade.submit command_buffers).1 = .error e →
    (q.facade.submit command_buffers).2.inbox = q.facade.inbox
  /-- An installed handler is called if and only if nothing was enqueued. -/
  reported : ∀ calls, q.error_handler.handler = some calls →
    ∃ index q', q.submit command_buffers = some (index, q') ∧
      ((∃ err, q'.error_handler.handler = some (calls ++ [err])) ↔
        q'.facade.inbox = q.facade.inbox)

/-- The size of the frame around a submission: the tag of the request id, the
id, the variant, and the payloads. -/
def submit_size (request_id : UInt64) (recordings : List Bytes) : ℕ :=
  2 + (varint_encode request_id.toNat).length + Codec.bytes_list_size recordings

/-- A submission whose recordings encode is within the frame cap. -/
def Fits (s : Mux) (command_buffers : List CommandBuffer) : Prop :=
  ∀ recordings, payloads command_buffers = .ok recordings →
    submit_size s.next_request_id recordings ≤ MAX_FRAME_BYTES

/-! ## The frame around a submission -/

/-- A `Submit` is its variant's number and its list of payloads. -/
theorem submit_encode_ok {recordings : List Bytes} {body : Bytes} :
    Wire.action.encode (.Submit recordings) = .ok body ↔
      ∃ x, Codec.bytes.list.encode recordings = .ok x ∧ body = varint_encode 19 ++ x := by
  have hencode : Wire.action.encode (.Submit recordings) =
      (Codec.bytes.list.encode recordings >>= fun x => .ok (varint_encode 19 ++ x)) := rfl
  rw [hencode, bind_eq_ok]
  constructor
  · rintro ⟨x, hx, hbody⟩
    exact ⟨x, hx, (Except.ok.inj hbody).symm⟩
  · rintro ⟨x, hx, rfl⟩
    exact ⟨x, hx, rfl⟩

/-- The frame encodes exactly if its size is within the cap. -/
theorem submit_encodes_iff (request_id : UInt64) (recordings : List Bytes) :
    (∃ bytes, encode_frame Wire.frame ⟨some ⟨request_id⟩, .Submit recordings⟩ = .ok bytes) ↔
      submit_size request_id recordings ≤ MAX_FRAME_BYTES := by
  have hsize : ∀ body, Wire.action.encode (.Submit recordings) = .ok body →
      body.length = 1 + Codec.bytes_list_size recordings := by
    intro body hbody
    obtain ⟨x, hx, rfl⟩ := submit_encode_ok.mp hbody
    rw [List.length_append, Codec.bytes_list_length hx]
    rfl
  have hencodes : 1 + Codec.bytes_list_size recordings ≤ MAX_FRAME_BYTES →
      ∃ body, Wire.action.encode (.Submit recordings) = .ok body := by
    intro h
    -- within the cap every length fits a u64, so the payloads encode
    have hcap : MAX_FRAME_BYTES < 256 ^ 8 := by decide
    have hroom : Codec.bytes_list_size recordings < 256 ^ 8 := by omega
    obtain ⟨x, hx⟩ := Codec.bytes_list_encodes hroom
    exact ⟨_, submit_encode_ok.mpr ⟨x, hx, rfl⟩⟩
  rw [frame_encodes_iff hsize hencodes, submit_size]
  omega

/-- The payloads are the encodings of the recordings, one for one. -/
theorem encoded_payloads {command_buffers : List CommandBuffer} {recordings : List Bytes}
    (h : payloads command_buffers = .ok recordings) :
    EncodedRecordings (command_buffers.map CommandBuffer.into_recording) recordings := by
  unfold payloads at h
  induction command_buffers generalizing recordings with
  | nil =>
      rw [List.mapM_nil] at h
      rw [← Except.ok.inj h]
      exact .nil
  | cons cb command_buffers ih =>
      rw [List.mapM_cons] at h
      obtain ⟨p, hp, h⟩ := bind_eq_ok.mp h
      obtain ⟨ps, hps, h⟩ := bind_eq_ok.mp h
      rw [← Except.ok.inj h]
      exact .cons hp (ih hps)

/-! ## One submission -/

/-- A recording that does not encode is reported, and nothing is enqueued. -/
theorem reports_error {q : DropinQueue} {command_buffers : List CommandBuffer} {e : EncodeError}
    (h : payloads command_buffers = .error e) : ReportsLoss q command_buffers := by
  have hsubmit : q.facade.submit command_buffers = (.error e, q.facade) := by
    unfold Mux.submit
    rw [h]
  refine ⟨fun hok => ?_, fun _ _ => ?_, fun calls hcalls => ?_⟩
  · rw [hsubmit] at hok
    exact absurd hok (by simp)
  · rw [hsubmit]
  · unfold DropinQueue.submit ErrorReporter.report
    rw [hsubmit, hcalls]
    exact ⟨_, _, rfl, fun _ => rfl, fun _ => ⟨_, rfl⟩⟩

/-- When the recordings encode, `submit` returns `Ok` and no handler is called,
whatever becomes of the frame. -/
theorem reports_iff_enqueued {q : DropinQueue} {command_buffers : List CommandBuffer}
    {recordings : List Bytes} (h : payloads command_buffers = .ok recordings) :
    ReportsLoss q command_buffers ↔
      ∃ job, (q.facade.send_action (.Submit recordings)).inbox = q.facade.inbox ++ [job] ∧
        Submits job.bytes command_buffers := by
  have hsubmit : q.facade.submit command_buffers =
      (.ok (), q.facade.send_action (.Submit recordings)) := by
    unfold Mux.submit
    rw [h]
  constructor
  · intro hreports
    have hok := hreports.ok (by rw [hsubmit])
    rw [hsubmit] at hok
    exact hok
  -- a `submit` that enqueues does not come to the error handler
  · rintro ⟨job, hjob, hsubmits⟩
    refine ⟨fun _ => ?_, fun e he => ?_, fun calls hcalls => ?_⟩
    · rw [hsubmit]
      exact ⟨job, hjob, hsubmits⟩
    · rw [hsubmit] at he
      exact absurd he (by simp)
    · -- the inbox is one job longer, and the handler has not been called
      unfold DropinQueue.submit
      rw [hsubmit]
      refine ⟨_, _, rfl, ?_⟩
      show (∃ err, q.error_handler.handler = some (calls ++ [err])) ↔
        (q.facade.send_action (.Submit recordings)).inbox = q.facade.inbox
      rw [hcalls, hjob]
      simp

/-- When the recordings encode, all depends on the size of the frame. -/
theorem reports_iff_size {q : DropinQueue} (hw : q.facade.writer = true)
    {command_buffers : List CommandBuffer} {recordings : List Bytes}
    (h : payloads command_buffers = .ok recordings) :
    ReportsLoss q command_buffers ↔
      submit_size q.facade.next_request_id recordings ≤ MAX_FRAME_BYTES := by
  rw [reports_iff_enqueued h, Mux.send_action_inbox hw, ← submit_encodes_iff]
  rcases henc : encode_frame Wire.frame ⟨some ⟨q.facade.next_request_id⟩, .Submit recordings⟩
    with e | bytes
  · -- the frame is dropped, the inbox is as it was
    refine ⟨?_, ?_⟩
    · rintro ⟨job, hjob, -⟩
      exact absurd hjob (by simp)
    · rintro ⟨bytes, hbytes⟩
      exact absurd hbytes (by simp)
  · refine ⟨fun _ => ⟨bytes, rfl⟩, fun _ => ⟨⟨_, bytes⟩, rfl, ?_⟩⟩
    exact ⟨⟨q.facade.next_request_id⟩, recordings, decode_frame_encode_frame _ henc,
      decode_recordings (encoded_payloads h)⟩

/-- **Submit reports its own loss exactly if the frame fits**: a submission
whose recordings all encode, in a frame over the cap, returns `Ok` and is lost. -/
theorem reports_loss_iff (q : DropinQueue) (hw : q.facade.writer = true)
    (command_buffers : List CommandBuffer) :
    ReportsLoss q command_buffers ↔ Fits q.facade command_buffers := by
  unfold Fits
  rcases hp : payloads command_buffers with e | recordings
  · exact ⟨fun _ _ h => absurd h (by simp), fun _ => reports_error hp⟩
  · rw [reports_iff_size hw hp]
    refine ⟨fun h recordings' hrec => ?_, fun h => h recordings rfl⟩
    rw [← Except.ok.inj hrec]
    exact h

end Submit

/-! ## A recording that is longer than a frame -/

section Runs

attribute [local instance] WgpuTypes.numeric

/-- A drop-in queue on a fresh client, with an error handler installed. -/
def DropinQueue.fresh : DropinQueue := ⟨Mux.new 1, ⟨some []⟩, 1⟩

/-- A command buffer with one compute pass of `n` dispatches. -/
def dispatches (n : ℕ) : CommandBuffer :=
  ⟨⟨none, [.BeginComputePass none (List.replicate n (.DispatchWorkgroups 1 1 1))]⟩⟩

/-- Four bytes for each of them, and some around. -/
theorem dispatches_length {n : ℕ} (hn : n < 256 ^ 8) :
    ∃ p, (dispatches n).into_recording.encode = .ok p ∧ 4 * n ≤ p.length := by
  -- one dispatch is four bytes: its variant and three ones
  have hone : Wire.compute_command.encode (.DispatchWorkgroups 1 1 1) = .ok [3, 1, 1, 1] := rfl
  obtain ⟨y, hy, hlen⟩ := Codec.encode_all_replicate hone n
  have hcommands : Wire.compute_command.list.encode (List.replicate n (.DispatchWorkgroups 1 1 1)) =
      .ok (varint_encode n ++ y) := by
    refine bind_eq_ok.mpr ⟨_, Codec.len_encode_ok.mpr ⟨?_, rfl⟩, bind_eq_ok.mpr ⟨y, hy, ?_⟩⟩
    · rw [List.length_replicate]
      exact hn
    · rw [List.length_replicate]
      rfl
  -- the pass that holds them, then the list of that one command
  have hpass : Wire.encoder_command.encode
      (.BeginComputePass none (List.replicate n (.DispatchWorkgroups 1 1 1))) =
        .ok (varint_encode 4 ++ (0 :: (varint_encode n ++ y))) :=
    bind_eq_ok.mpr ⟨_, bind_eq_ok.mpr ⟨[0], rfl, bind_eq_ok.mpr ⟨_, hcommands, rfl⟩⟩, rfl⟩
  have hlist : Codec.encode_all Wire.encoder_command
      [.BeginComputePass none (List.replicate n (.DispatchWorkgroups 1 1 1))] =
        .ok (varint_encode 4 ++ (0 :: (varint_encode n ++ y)) ++ []) :=
    bind_eq_ok.mpr ⟨_, hpass, rfl⟩
  refine ⟨_, bind_eq_ok.mpr ⟨[0], rfl, bind_eq_ok.mpr ⟨_, bind_eq_ok.mpr ⟨[1], rfl,
    bind_eq_ok.mpr ⟨_, hlist, rfl⟩⟩, rfl⟩⟩, ?_⟩
  simp only [List.length_append, List.length_cons, hlen, List.length_nil]
  omega

/-- 16777216 dispatches take 64 MiB, and with the frame around them too much. -/
theorem long_submission_lost : DropinQueue.fresh.facade.writer = true ∧
    ¬ ReportsLoss .fresh [dispatches 16777216] := by
  refine ⟨rfl, ?_⟩
  obtain ⟨p, hp, hlen⟩ := dispatches_length (n := 16777216) (by decide)
  have hpayloads : payloads [dispatches 16777216] = .ok [p] := by
    unfold payloads
    rw [List.mapM_cons, hp]
    rfl
  intro hreports
  have hsize := (reports_iff_size (q := .fresh) rfl hpayloads).mp hreports
  simp only [submit_size, Codec.bytes_list_size, Codec.bytes_size, MAX_FRAME_BYTES, List.map_cons,
    List.map_nil, List.sum_cons, List.sum_nil] at hsize
  omega

/-- Two command buffers that encode, in a frame that fits: one frame is enqueued. -/
theorem short_submission_reported : DropinQueue.fresh.facade.writer = true ∧
    (∃ recordings, payloads [dispatches 3, dispatches 1] = .ok recordings) ∧
    Fits DropinQueue.fresh.facade [dispatches 3, dispatches 1] ∧
    ReportsLoss .fresh [dispatches 3, dispatches 1] := by
  have hpayloads : payloads [dispatches 3, dispatches 1] =
      .ok [[0, 1, 4, 0, 3, 3, 1, 1, 1, 3, 1, 1, 1, 3, 1, 1, 1], [0, 1, 4, 0, 1, 3, 1, 1, 1]] := rfl
  have hfits : Fits DropinQueue.fresh.facade [dispatches 3, dispatches 1] := by
    intro recordings h
    rw [← Except.ok.inj (hpayloads.symm.trans h)]
    decide
  exact ⟨rfl, ⟨_, hpayloads⟩, hfits,
    (reports_loss_iff .fresh rfl [dispatches 3, dispatches 1]).mpr hfits⟩

end Runs

end WgpuRemote.Client
