/-
`server::handler`: the loop over one stream.

`handle_stream` reads a frame, dispatches it, and writes the response frame, if
there is one, back over the same stream. It returns at the end of the stream,
or with the error of the first frame that does not decode or of the first
response frame that does not encode.

The frame cap is on both directions of the stream, but what a request of a few
bytes asks for may be longer than that: a `BufferData` carries all the bytes of
the range that was read. Up to the first response over the cap, the loop
dispatches and answers all it is sent (`loop_oversized`); without one, it
answers everything (`loop_fits`).
-/
import Mathlib.Data.List.Forall2
import WgpuRemote.Transport.Stream
import WgpuRemote.Server.Contract

set_option autoImplicit false

namespace WgpuRemote.Server

open Bincode
open Wgpu (Occ Obj Call Event Gpu)

/-- A `BufferData` of as many bytes as a frame may have is too long for one. -/
theorem buffer_data_too_large (rid : RequestId) (data : Bytes) (h : MAX_FRAME_BYTES ≤ data.length)
    (bytes : Bytes) : encode_frame Wire.response_frame ⟨rid, .BufferData data⟩ ≠ .ok bytes := by
  intro hok
  obtain ⟨body, hbody, hcap, -⟩ := encode_frame_ok Wire.response_frame hok
  -- the request id, the variant, and the data with its length
  obtain ⟨id, hid, hbody⟩ := bind_eq_ok.mp hbody
  obtain ⟨resp, hresp, hbody⟩ := bind_eq_ok.mp hbody
  obtain ⟨x, hx, hresp⟩ := bind_eq_ok.mp
    (show (Codec.bytes.encode data >>= fun x => .ok (varint_encode 2 ++ x)) = .ok resp from hresp)
  have hdata := Codec.bytes_length hx
  rw [← Except.ok.inj hbody, ← Except.ok.inj hresp] at hcap
  simp only [List.length_append] at hcap
  omega

section Handler

variable [WgpuTypes]

/-- One frame dispatched: the engine before and after, and the response frame. -/
structure Pass where
  before : Engine
  frame : Frame
  response : Option ResponseFrame
  after : Engine

/-- The pass that dispatches `frame` on `e`. -/
def Pass.of (gpu : Gpu) (e : Engine) (frame : Frame) : Pass where
  before := e
  frame := frame
  response := (e.dispatch gpu frame).1
  after := (e.dispatch gpu frame).2

/-- The handler of one stream, on an engine nothing else dispatches to. -/
structure Serving where
  engine : Engine
  /-- What was written to the send stream, one `write_all` each. It accepts all
  writes. -/
  tx : List Bytes
  /-- The error the loop returned, if it did return one. -/
  failure : Option CodecError
  /-- The passes made so far. No code looks at them. -/
  passes : List Pass

namespace Serving

/-- The handler of a stream nothing was read from yet. -/
def new (engine : Engine) : Serving := ⟨engine, [], none, []⟩

/-- The body of the loop, after `decode_frame`. -/
def serve (gpu : Gpu) (s : Serving) (frame : Frame) : Serving :=
  let pass := Pass.of gpu s.engine frame
  match pass.response with
  | none => { s with engine := pass.after, passes := s.passes ++ [pass] }
  | some response =>
      match encode_frame Wire.response_frame response with
      | .error e =>
          { s with engine := pass.after, failure := some e, passes := s.passes ++ [pass] }
      | .ok bytes =>
          { s with engine := pass.after, tx := s.tx ++ [bytes], passes := s.passes ++ [pass] }

end Serving

/-- `handle_stream`. -/
def handle_stream (gpu : Gpu) (s : Serving) (rx : Source) : Serving :=
  match _h : read_frame rx with
  | .error _ => s
  | .ok (raw, rx') =>
      match decode_frame Wire.frame raw with
      | .error e => { s with failure := some e }
      | .ok (frame, _) =>
          let s' := s.serve gpu frame
          match s'.failure with
          | some _ => s'
          | none => handle_stream gpu s' rx'
termination_by rx.flatten.length
decreasing_by
  obtain ⟨heq, hlen⟩ := read_frame_ok _h
  rw [heq, List.length_append]
  omega

/-! ## The loop on frames that decode -/

/-- `raws` are whole frames that decode to `frames`. -/
abbrev Decodes (raws : List Bytes) (frames : List Frame) : Prop :=
  List.Forall₂ (fun raw frame => decode_frame Wire.frame raw = .ok (frame, raw.length)) raws frames

/-- The loop on a list of frames. -/
def Serving.loop (gpu : Gpu) (s : Serving) : List Frame → Serving
  | [] => s
  | frame :: frames =>
      match (s.serve gpu frame).failure with
      | some _ => s.serve gpu frame
      | none => Serving.loop gpu (s.serve gpu frame) frames

/-- On a stream of frames that decode, in whatever pieces it arrives, that is
what `handle_stream` runs. -/
theorem handle_stream_eq (gpu : Gpu) {raws : List Bytes} {frames : List Frame}
    (h : Decodes raws frames) (s : Serving) (rx : Source) (hrx : rx.flatten = raws.flatten) :
    handle_stream gpu s rx = s.loop gpu frames := by
  induction h generalizing s rx with
  | nil =>
      -- the stream ends cleanly
      have hread : read_frame rx = .error .UnexpectedEof := by
        rw [read_frame, read_exact_eof 4 rx (by simp [hrx])]
        rfl
      rw [handle_stream]
      split
      · rfl
      · rename_i raw rx' hok
        rw [hread] at hok
        exact absurd hok (by simp)
  | @cons raw frame raws frames hraw _ ih =>
      obtain ⟨rx', hread, hrest⟩ :=
        read_frame_of_decode Wire.frame hraw (show rx.flatten = raw ++ raws.flatten from hrx)
      rw [handle_stream, Serving.loop]
      split
      · rename_i e hbad
        rw [hread] at hbad
        exact absurd hbad (by simp)
      · rename_i raw' rx'' hok
        rw [hread] at hok
        obtain ⟨rfl, rfl⟩ := Prod.mk.inj (Except.ok.inj hok)
        simp only [hraw]
        -- an answer that does not encode ends both loops
        split
        · rfl
        · exact ih _ rx' hrest

/-- What the end of the receive loop adds: the error of a frame that did not
decode. -/
def Serving.ended (s : Serving) : Stop → Serving
  | .Read _ => s
  | .Decode e => { s with failure := some e }

/-- On a stream of any bytes, `handle_stream` dispatches the frames the receive
loop yields, and then stops for its reason, unless a response that does not encode
has stopped it before. -/
theorem handle_stream_recv (gpu : Gpu) (s : Serving) (rx : Source) (hs : s.failure = none) :
    handle_stream gpu s rx =
      if (s.loop gpu ((recv_frames Wire.frame rx).1.map Prod.fst)).failure.isSome
      then s.loop gpu ((recv_frames Wire.frame rx).1.map Prod.fst)
      else (s.loop gpu ((recv_frames Wire.frame rx).1.map Prod.fst)).ended
        (recv_frames Wire.frame rx).2 := by
  induction hn : rx.flatten.length using Nat.strongRecOn generalizing s rx with
  | ind n ih =>
      rw [handle_stream]
      split
      · -- nothing was read, and nothing is dispatched
        rename_i e hread
        rw [recv_frames_of_read _ hread]
        simp only [List.map_nil, Serving.loop, hs]
        rfl
      · rename_i raw rx' hread
        obtain ⟨hflat, hlen⟩ := read_frame_ok hread
        have hshorter : rx'.flatten.length < n := by
          rw [← hn, hflat, List.length_append]
          omega
        cases hdec : decode_frame Wire.frame raw with
        | error e =>
            rw [recv_frames_of_refused _ hread hdec]
            simp only [List.map_nil, Serving.loop, hs]
            rfl
        | ok p =>
            rw [recv_frames_of_frame _ hread hdec]
            simp only [List.map_cons, Serving.loop]
            -- an answer that does not encode ends both loops
            cases hserve : (s.serve gpu p.1).failure with
            | some e =>
                simp only [hserve]
                rfl
            | none =>
                dsimp only
                exact ih _ hshorter _ rx' hserve rfl

/-! ## What the loop has dispatched and answered -/

/-- The engine after dispatching `frames` in order. -/
def engine_after (gpu : Gpu) (e : Engine) (frames : List Frame) : Engine :=
  frames.foldl (fun e frame => (e.dispatch gpu frame).2) e

/-- The passes that dispatch `frames` in order, each on the engine the one
before it left. -/
def passes_from (gpu : Gpu) (e : Engine) : List Frame → List Pass
  | [] => []
  | frame :: frames => Pass.of gpu e frame :: passes_from gpu (e.dispatch gpu frame).2 frames

/-- The responses to `frames`, dispatched in order. -/
def responses_from (gpu : Gpu) (e : Engine) (frames : List Frame) : List ResponseFrame :=
  (passes_from gpu e frames).filterMap Pass.response

/-- The response frame, if there is one, encodes. -/
def Pass.fits (p : Pass) : Prop :=
  ∀ response, p.response = some response →
    ∃ bytes, encode_frame Wire.response_frame response = .ok bytes

/-- There is a response frame, and `encode_frame` refuses it with `err`. -/
def Pass.refused_with (p : Pass) (err : CodecError) : Prop :=
  ∃ response, p.response = some response ∧
    encode_frame Wire.response_frame response = .error err

/-- A pass that does not fit was refused. -/
theorem Pass.refused_of_not_fits {p : Pass} (h : ¬ p.fits) : ∃ err, p.refused_with err := by
  unfold Pass.fits at h
  push Not at h
  obtain ⟨response, hresponse, hall⟩ := h
  rcases henc : encode_frame Wire.response_frame response with err | bytes
  · exact ⟨err, response, hresponse, henc⟩
  · exact absurd henc (hall bytes)

/-- The loop has dispatched `dispatched`, in order, and has written one response
frame for each frame of `answered` that has a request id, under that id and in
order, and nothing else. -/
structure Serves (gpu : Gpu) (e : Engine) (dispatched answered : List Frame) (s : Serving) :
    Prop where
  passes : s.passes = passes_from gpu e dispatched
  engine : s.engine = engine_after gpu e dispatched
  written : Encoded Wire.response_frame (responses_from gpu e answered) s.tx
  ids : (responses_from gpu e answered).map ResponseFrame.request_id =
    answered.filterMap Frame.request_id

/-- A frame is answered exactly if it has a request id, and under that id. -/
theorem dispatch_response (gpu : Gpu) (e : Engine) (frame : Frame) :
    (e.dispatch gpu frame).1.map ResponseFrame.request_id = frame.request_id := by
  unfold Engine.dispatch Engine.exec
  rw [run_dispatch]
  cases frame.request_id with
  | none => rfl
  | some rid => rfl

/-- The responses to a stream begin with that to its first frame. -/
theorem responses_cons (gpu : Gpu) (e : Engine) (frame : Frame) (frames : List Frame) :
    responses_from gpu e (frame :: frames) =
      (e.dispatch gpu frame).1.toList ++ responses_from gpu (e.dispatch gpu frame).2 frames := by
  have hhead : (Pass.of gpu e frame).response = (e.dispatch gpu frame).1 := rfl
  unfold responses_from
  rw [passes_from, List.filterMap_cons, hhead]
  rcases (e.dispatch gpu frame).1 with _ | response
  · rfl
  · rfl

/-- The responses carry the ids of the frames that have one, in order. -/
theorem response_ids (gpu : Gpu) (e : Engine) (frames : List Frame) :
    (responses_from gpu e frames).map ResponseFrame.request_id =
      frames.filterMap Frame.request_id := by
  induction frames generalizing e with
  | nil => rfl
  | cons frame frames ih =>
      rw [responses_cons, List.map_append, ih, List.filterMap_cons, ← dispatch_response gpu e frame]
      rcases (e.dispatch gpu frame).1 with _ | response
      · rfl
      · rfl

/-- One frame more, at the end. -/
theorem passes_snoc (gpu : Gpu) (e : Engine) (frames : List Frame) (frame : Frame) :
    passes_from gpu e (frames ++ [frame]) =
      passes_from gpu e frames ++ [Pass.of gpu (engine_after gpu e frames) frame] := by
  induction frames generalizing e with
  | nil => rfl
  | cons f frames ih => exact congrArg (Pass.of gpu e f :: ·) (ih _)

/-! ## The passes of the loop -/

/-- The loop went on as long as the response frames encode. -/
theorem loop_append (gpu : Gpu) (s : Serving) (before after : List Frame)
    (hfits : ∀ p ∈ passes_from gpu s.engine before, p.fits) (hopen : s.failure = none) :
    ∃ s' : Serving, s.loop gpu (before ++ after) = s'.loop gpu after ∧ s'.failure = none ∧
      s'.engine = engine_after gpu s.engine before ∧
      s'.passes = s.passes ++ passes_from gpu s.engine before ∧
      ∃ bss, s'.tx = s.tx ++ bss ∧
        Encoded Wire.response_frame (responses_from gpu s.engine before) bss := by
  induction before generalizing s with
  | nil => exact ⟨s, rfl, hopen, rfl, by simp [passes_from], [], by simp, List.Forall₂.nil⟩
  | cons frame before ih =>
      have hfirst := hfits _ List.mem_cons_self
      -- one pass, then the induction hypothesis
      obtain ⟨hgoes, hengine, hpasses, bss, htx, hbss⟩ :
          (s.serve gpu frame).failure = none ∧
            (s.serve gpu frame).engine = (s.engine.dispatch gpu frame).2 ∧
            (s.serve gpu frame).passes = s.passes ++ [Pass.of gpu s.engine frame] ∧
            ∃ bss, (s.serve gpu frame).tx = s.tx ++ bss ∧
              Encoded Wire.response_frame (s.engine.dispatch gpu frame).1.toList bss := by
        unfold Serving.serve
        dsimp only
        rcases hr : (Pass.of gpu s.engine frame).response with _ | response
        · rw [show (s.engine.dispatch gpu frame).1 = none from hr]
          exact ⟨hopen, rfl, rfl, [], by simp, List.Forall₂.nil⟩
        · obtain ⟨bytes, hbytes⟩ := hfirst response hr
          rw [show (s.engine.dispatch gpu frame).1 = some response from hr]
          dsimp only
          rw [hbytes]
          exact ⟨hopen, rfl, rfl, [bytes], rfl, List.Forall₂.cons hbytes List.Forall₂.nil⟩
      have hrest : ∀ p ∈ passes_from gpu (s.serve gpu frame).engine before, p.fits := by
        rw [hengine]
        exact fun p hp => hfits p (List.mem_cons_of_mem _ hp)
      obtain ⟨s', hloop, hopen', hengine', hpasses', bss', htx', hbss'⟩ := ih _ hrest hgoes
      rw [hengine] at hengine' hpasses' hbss'
      refine ⟨s', ?_, hopen', hengine', ?_, bss ++ bss', ?_, ?_⟩
      · rw [List.cons_append, Serving.loop, hgoes]
        exact hloop
      · rw [hpasses', hpasses, List.append_assoc]
        rfl
      · rw [htx', htx, List.append_assoc]
      · rw [responses_cons]
        exact List.rel_append hbss hbss'

/-- All response frames encode: everything is dispatched and answered. -/
theorem loop_fits (gpu : Gpu) (e : Engine) (frames : List Frame)
    (hfits : ∀ p ∈ passes_from gpu e frames, p.fits) :
    Serves gpu e frames frames ((Serving.new e).loop gpu frames) ∧
      ((Serving.new e).loop gpu frames).failure = none := by
  obtain ⟨s', hloop, hopen, hengine, hpasses, bss, htx, hbss⟩ :=
    loop_append gpu (Serving.new e) frames [] hfits rfl
  rw [List.append_nil] at hloop
  rw [hloop]
  refine ⟨⟨hpasses, hengine, ?_, response_ids gpu e frames⟩, hopen⟩
  show Encoded _ _ s'.tx
  rw [htx]
  exact hbss

/-- The first response frame that does not encode: its frame was dispatched, the
ones before it were answered, and the loop returned the error of encoding it. -/
theorem loop_oversized (gpu : Gpu) (e : Engine) (before after : List Frame) (frame : Frame)
    (hfits : ∀ p ∈ passes_from gpu e before, p.fits)
    (hbad : ¬ (Pass.of gpu (engine_after gpu e before) frame).fits) :
    Serves gpu e (before ++ [frame]) before
        ((Serving.new e).loop gpu (before ++ frame :: after)) ∧
      ∃ err, (Pass.of gpu (engine_after gpu e before) frame).refused_with err ∧
        ((Serving.new e).loop gpu (before ++ frame :: after)).failure = some err := by
  -- the frames before it are answered, and the loop comes to it with its engine
  obtain ⟨s', hloop, hopen, hengine, hpasses, bss, htx, hbss⟩ :=
    loop_append gpu (Serving.new e) before (frame :: after) hfits rfl
  have hengine' : s'.engine = engine_after gpu e before := hengine
  obtain ⟨err, hrefused⟩ := Pass.refused_of_not_fits hbad
  -- serving it keeps the engine and the record, and stops with the encode error
  have hserve : s'.serve gpu frame =
      { s' with
        engine := (s'.engine.dispatch gpu frame).2, failure := some err
        passes := s'.passes ++ [Pass.of gpu s'.engine frame] } := by
    obtain ⟨response, hresponse, henc⟩ := hrefused
    rw [← hengine'] at hresponse
    unfold Serving.serve
    dsimp only
    rw [hresponse]
    dsimp only
    rw [henc]
    rfl
  rw [hloop, Serving.loop, hserve]
  refine ⟨⟨?_, ?_, ?_, response_ids gpu e before⟩, err, hrefused, rfl⟩
  · show s'.passes ++ [_] = _
    rw [hpasses, passes_snoc, hengine']
    rfl
  · show (s'.engine.dispatch gpu frame).2 = _
    rw [hengine', engine_after, engine_after, List.foldl_append]
    rfl
  · show Encoded _ _ s'.tx
    rw [htx]
    exact hbss

/-- What a stream of frames that decode comes to. -/
structure AnsweredToCap (gpu : Gpu) (e : Engine) (frames : List Frame) (s : Serving) : Prop where
  /-- Everything is dispatched and answered, and the loop returns normally,
  exactly if all the response frames encode. -/
  all : (∀ p ∈ passes_from gpu e frames, p.fits) ↔
    Serves gpu e frames frames s ∧ s.failure = none
  /-- Otherwise the first one that does not ends the loop with the error of
  encoding it, after its frame was dispatched and all the frames before it were
  answered. -/
  until_oversized : ∀ before frame after, frames = before ++ frame :: after →
    (∀ p ∈ passes_from gpu e before, p.fits) →
    ¬ (Pass.of gpu (engine_after gpu e before) frame).fits →
    Serves gpu e (before ++ [frame]) before s ∧
      ∃ err, (Pass.of gpu (engine_after gpu e before) frame).refused_with err ∧ s.failure = some err

/-- Only passes that fit have their responses written. -/
theorem Serves.fits {gpu : Gpu} {e : Engine} {frames : List Frame} {s : Serving}
    (h : Serves gpu e frames frames s) : ∀ p ∈ passes_from gpu e frames, p.fits := by
  intro p hp response hresponse
  have hmem : response ∈ responses_from gpu e frames :=
    List.mem_filterMap.mpr ⟨p, hp, hresponse⟩
  have hall : ∀ rs bss, Encoded Wire.response_frame rs bss → ∀ r ∈ rs,
      ∃ bytes, encode_frame Wire.response_frame r = .ok bytes := by
    intro rs bss henc
    induction henc with
    | nil => exact fun r hr => absurd hr List.not_mem_nil
    | @cons r bs _ _ hhead _ ih =>
        intro x hx
        rcases List.mem_cons.mp hx with rfl | hx
        · exact ⟨bs, hhead⟩
        · exact ih x hx
  exact hall _ _ h.written response hmem

/-- **Requests are answered** in order, up to the first response that is longer
than a frame may be. -/
theorem answered_to_cap (gpu : Gpu) (e : Engine) (raws : List Bytes) (frames : List Frame)
    (rx : Source) (hdecodes : Decodes raws frames) (hrx : rx.flatten = raws.flatten) :
    AnsweredToCap gpu e frames (handle_stream gpu (Serving.new e) rx) := by
  rw [handle_stream_eq gpu hdecodes _ rx hrx]
  refine ⟨⟨loop_fits gpu e frames, fun h => h.1.fits⟩, ?_⟩
  rintro before frame after rfl hfits hbad
  exact loop_oversized gpu e before after frame hfits hbad

end Handler

/-! ## A buffer that is read whole -/

section Runs

attribute [local instance] WgpuTypes.numeric

/-- A GPU on which every map succeeds and every byte reads as zero. -/
def zeroed_gpu : Gpu where
  map_result _ _ _ := .Ok
  mapped_bytes _ _ s := List.replicate ((s.stop.getD s.start).toNat - s.start.toNat) 0

/-- Make a buffer of 64 MiB, read all of it, and ask for an adapter. -/
def read_64_mib : List Frame :=
  [⟨none, .CreateBuffer ⟨1⟩ ⟨none, 67108864, (9 : UInt32), false⟩⟩,
    ⟨some ⟨1⟩, .MapBufferForRead ⟨1⟩ 0 67108864⟩, ⟨some ⟨2⟩, .RequestAdapter⟩]

/-- A stream on which some frames are requests: make a buffer, read it, write to
it, ask for an adapter, and read a buffer that is not there. -/
def mixed : List Frame :=
  [⟨none, .CreateBuffer ⟨1⟩ ⟨none, 8, (9 : UInt32), false⟩⟩, ⟨some ⟨1⟩, .MapBufferForRead ⟨1⟩ 0 8⟩,
    ⟨none, .WriteBuffer ⟨1⟩ 0 [1, 2, 3, 4]⟩, ⟨some ⟨7⟩, .RequestAdapter⟩,
    ⟨some ⟨2⟩, .MapBufferForRead ⟨9⟩ 0 8⟩]

/-- The three requests among the five frames are answered, in their order. -/
theorem mixed_answered : ∃ raws : List Bytes, Decodes raws mixed ∧
    Serves zeroed_gpu Engine.new mixed mixed
      (handle_stream zeroed_gpu (Serving.new Engine.new) [raws.flatten]) ∧
    (handle_stream zeroed_gpu (Serving.new Engine.new) [raws.flatten]).failure = none ∧
    (responses_from zeroed_gpu Engine.new mixed).map ResponseFrame.request_id = [⟨1⟩, ⟨7⟩, ⟨2⟩] := by
  obtain ⟨raws, hdecodes⟩ : ∃ raws, Decodes raws mixed := by
    have hcreate : ∃ raw, encode_frame Wire.frame mixed[0] = .ok raw := ⟨_, rfl⟩
    have hread : ∃ raw, encode_frame Wire.frame mixed[1] = .ok raw := ⟨_, rfl⟩
    have hwrite : ∃ raw, encode_frame Wire.frame mixed[2] = .ok raw := ⟨_, rfl⟩
    have hadapter : ∃ raw, encode_frame Wire.frame mixed[3] = .ok raw := ⟨_, rfl⟩
    have hmissing : ∃ raw, encode_frame Wire.frame mixed[4] = .ok raw := ⟨_, rfl⟩
    obtain ⟨_, hcreate⟩ := hcreate
    obtain ⟨_, hread⟩ := hread
    obtain ⟨_, hwrite⟩ := hwrite
    obtain ⟨_, hadapter⟩ := hadapter
    obtain ⟨_, hmissing⟩ := hmissing
    exact ⟨_, .cons (decode_frame_encode_frame _ hcreate) <| .cons (decode_frame_encode_frame _ hread) <|
      .cons (decode_frame_encode_frame _ hwrite) <| .cons (decode_frame_encode_frame _ hadapter) <|
      .cons (decode_frame_encode_frame _ hmissing) .nil⟩
  have hall := (answered_to_cap zeroed_gpu Engine.new raws mixed [raws.flatten] hdecodes (by simp)).all
  -- each response there is encodes
  obtain ⟨hserves, hopen⟩ := hall.mp fun p hp response hresponse => by
    simp only [mixed, passes_from, List.mem_cons, List.not_mem_nil, or_false] at hp
    rcases hp with rfl | rfl | rfl | rfl | rfl
    · exact absurd (show none = some response from hresponse) (by simp)
    · rw [← Option.some.inj hresponse]
      exact ⟨_, rfl⟩
    · exact absurd (show none = some response from hresponse) (by simp)
    · rw [← Option.some.inj hresponse]
      exact ⟨_, rfl⟩
    · rw [← Option.some.inj hresponse]
      exact ⟨_, rfl⟩
  exact ⟨raws, hdecodes, hserves, hopen, rfl⟩

/-- **The read ends the loop**: its response is a few bytes over the cap, so the
request for an adapter is never dispatched. -/
theorem long_read_ends_stream :
    ¬ ∀ (gpu : Gpu) (e : Engine) (raws : List Bytes) (frames : List Frame) (rx : Source),
      Decodes raws frames → rx.flatten = raws.flatten →
        Serves gpu e frames frames (handle_stream gpu (Serving.new e) rx) := by
  intro h
  obtain ⟨raws, hdecodes⟩ : ∃ raws, Decodes raws read_64_mib := by
    have hcreate : ∃ raw, encode_frame Wire.frame read_64_mib[0] = .ok raw := ⟨_, rfl⟩
    have hread : ∃ raw, encode_frame Wire.frame read_64_mib[1] = .ok raw := ⟨_, rfl⟩
    have hadapter : ∃ raw, encode_frame Wire.frame read_64_mib[2] = .ok raw := ⟨_, rfl⟩
    obtain ⟨raw, hcreate⟩ := hcreate
    obtain ⟨raw', hread⟩ := hread
    obtain ⟨raw'', hadapter⟩ := hadapter
    exact ⟨[raw, raw', raw''], .cons (decode_frame_encode_frame _ hcreate)
      (.cons (decode_frame_encode_frame _ hread)
        (.cons (decode_frame_encode_frame _ hadapter) .nil))⟩
  have hall := h zeroed_gpu Engine.new raws read_64_mib [raws.flatten] hdecodes (by simp)
  rw [handle_stream_eq _ hdecodes _ _ (by simp)] at hall
  -- only the first two were dispatched
  obtain ⟨htwo, -⟩ := loop_oversized zeroed_gpu Engine.new [read_64_mib[0]] [read_64_mib[2]]
    read_64_mib[1]
    (by
      intro p hp response hresponse
      rw [List.mem_singleton.mp hp] at hresponse
      exact absurd (show none = some response from hresponse) (by simp))
    (by
      intro hfits
      obtain ⟨bytes, hbytes⟩ := hfits ⟨⟨1⟩, .BufferData (List.replicate 67108864 0)⟩ rfl
      refine buffer_data_too_large _ _ ?_ _ hbytes
      rw [List.length_replicate]
      decide)
  have hpasses := htwo.passes.symm.trans hall.passes
  exact absurd (congrArg List.length hpasses) (by simp [passes_from, read_64_mib])

end Runs

end WgpuRemote.Server
