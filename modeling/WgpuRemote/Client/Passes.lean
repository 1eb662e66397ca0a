/-
The drop-in's encoders and passes, as an application may use them.

A drop-in pass owns its commands and a reference to its encoder, so nothing ties
its life to that of other passes: any number of passes can be open at a time, on
any number of encoders, and be dropped in any order, after the encoder was
finished as well. Every method either records, or is one of those that do not:
debug groups and hints are ignored, what wgpu has and this backend does not is
reported to the device's error handler or panics.

What an encoder's recording holds is determined by the calls that concern it, in
whatever order the calls on other encoders come: each copy where it was called,
each pass in one piece where it was dropped, with the commands it was given
(`Recorder.Inv`). `finish` takes what there is and leaves an empty recording.
-/
import WgpuRemote.Client.Submit
import WgpuRemote.Client.Encoder
import WgpuRemote.Lib.Transition

set_option autoImplicit false

namespace WgpuRemote.Client

open Transition (along along_snoc filterMap_snoc countP_snoc)

section Passes

variable [WgpuTypes]

/-! ## Calls that record at once -/

/-- A copy or a clear. -/
inductive CopyOp (R : Kind → Type) where
  | copy_buffer_to_buffer (source : R .Buffer) (source_offset : BufferAddress)
      (destination : R .Buffer) (destination_offset : BufferAddress)
      (copy_size : Option BufferAddress)
  | clear_buffer (buffer : R .Buffer) (offset : BufferAddress) (size : Option BufferAddress)
  | copy_texture_to_buffer (source : Wgpu.TexelCopyTextureInfo R)
      (destination : Wgpu.TexelCopyBufferInfo R) (copy_size : Extent3d)

def CopyOp.op {R : Kind → Type} : CopyOp R → EncoderOp R
  | .copy_buffer_to_buffer source source_offset destination destination_offset copy_size =>
      .copy_buffer_to_buffer source source_offset destination destination_offset copy_size
  | .clear_buffer buffer offset size => .clear_buffer buffer offset size
  | .copy_texture_to_buffer source destination copy_size =>
      .copy_texture_to_buffer source destination copy_size

/-- The command of a copy or a clear; panics on a foreign handle. -/
def copy_command : CopyOp Wrapped → Option EncoderCommand
  | .copy_buffer_to_buffer source source_offset destination destination_offset copy_size => do
      let src ← source.as_custom
      let dst ← destination.as_custom
      let size := copy_size.getD (saturating_sub src.size source_offset)
      return .CopyBufferToBuffer src.id source_offset dst.id destination_offset size
  | .clear_buffer buffer offset size => do
      let buf ← buffer.as_custom
      return .ClearBuffer buf.id offset size
  | .copy_texture_to_buffer source destination copy_size => do
      let tex ← source.texture.as_custom
      let buf ← destination.buffer.as_custom
      return .CopyTextureToBuffer
        { texture := tex.id, mip_level := source.mip_level, origin := source.origin
          aspect := source.aspect }
        { buffer := buf.id, layout := destination.layout } copy_size

/-- It is what the encoder of one application thread pushes. -/
theorem step_copy (s : DropinEncoder) (op : CopyOp Wrapped) :
    s.step op.op = (copy_command op).map s.push := by
  rcases op with ⟨source, _, destination, _, _⟩ | ⟨buffer, _, _⟩ | ⟨source, destination, _⟩
  · rcases source with ⟨_ | src⟩
    · rfl
    · rcases destination with ⟨_ | dst⟩
      · rfl
      · rfl
  · rcases buffer with ⟨_ | buf⟩
    · rfl
    · rfl
  · rcases source with ⟨⟨_ | tex⟩, _, _, _⟩
    · rfl
    · rcases destination with ⟨⟨_ | buf⟩, _⟩
      · rfl
      · rfl

/-- The render pass `begin_render_pass` makes; panics on a foreign view. -/
def open_render_pass (desc : Wgpu.RenderPassDescriptor Wrapped) : Option OpenPass := do
  let color_attachments ← desc.color_attachments.mapM DropinEncoder.color_slot
  let depth_stencil_attachment ← DropinEncoder.depth_slot desc.depth_stencil_attachment
  return .render desc.label color_attachments depth_stencil_attachment []

/-! ## Methods that record nothing -/

/-- What such a method does. -/
inductive Unrecorded where
  | ignored
  /-- `report_unsupported(what)` -/
  | unsupported (what : String)
  /-- `unimplemented!` or `expect`, with this text. -/
  | panics (text : String)

inductive EncoderMethod where
  | copy_buffer_to_texture
  | copy_texture_to_texture
  | clear_texture
  | insert_debug_marker (label : String)
  | push_debug_group (label : String)
  | pop_debug_group
  | write_timestamp
  | resolve_query_set
  | mark_acceleration_structures_built
  | build_acceleration_structures
  | transition_resources

def EncoderMethod.effect : EncoderMethod → Unrecorded
  | .copy_buffer_to_texture =>
      .panics "copy_buffer_to_texture not yet wired through the wgpu drop-in"
  | .copy_texture_to_texture =>
      .panics "copy_texture_to_texture not yet wired through the wgpu drop-in"
  | .clear_texture => .panics "clear_texture not yet wired through the wgpu drop-in"
  | .insert_debug_marker _ | .push_debug_group _ | .pop_debug_group => .ignored
  | .write_timestamp | .resolve_query_set => .panics "query sets not supported by wgpu-remote"
  | .mark_acceleration_structures_built | .build_acceleration_structures =>
      .unsupported "acceleration structures"
  | .transition_resources => .ignored

inductive ComputePassMethod where
  | set_no_bind_group (index : UInt32) (offsets : List UInt32)
  | set_push_constants (offset : UInt32) (data : Bincode.Bytes)
  | insert_debug_marker (label : String)
  | push_debug_group (label : String)
  | pop_debug_group
  | write_timestamp
  | begin_pipeline_statistics_query
  | end_pipeline_statistics_query
  /-- `end` -/
  | end_pass

def ComputePassMethod.effect : ComputePassMethod → Unrecorded
  | .set_no_bind_group _ _ =>
      .panics "ComputePass::set_bind_group: optional bind groups not yet supported"
  | .set_push_constants _ _ => .panics "compute push constants not yet wired"
  | .insert_debug_marker _ | .push_debug_group _ | .pop_debug_group => .ignored
  | .write_timestamp | .begin_pipeline_statistics_query | .end_pipeline_statistics_query =>
      .unsupported "query sets"
  | .end_pass => .ignored

inductive RenderPassMethod where
  | set_no_bind_group (index : UInt32) (offsets : List UInt32)
  | set_push_constants (offset : UInt32) (data : Bincode.Bytes)
  | set_blend_constant
  | set_scissor_rect (x y width height : UInt32)
  | set_viewport
  | set_stencil_reference (reference : UInt32)
  | draw_mesh_tasks (x y z : UInt32)
  | draw_indirect
  | draw_indexed_indirect
  | draw_mesh_tasks_indirect
  | multi_draw_indirect
  | multi_draw_indexed_indirect
  | multi_draw_indirect_count
  | multi_draw_mesh_tasks_indirect
  | multi_draw_indexed_indirect_count
  | multi_draw_mesh_tasks_indirect_count
  | insert_debug_marker (label : String)
  | push_debug_group (label : String)
  | pop_debug_group
  | write_timestamp
  | begin_occlusion_query (query_index : UInt32)
  | end_occlusion_query
  | begin_pipeline_statistics_query
  | end_pipeline_statistics_query
  | execute_bundles
  /-- `end` -/
  | end_pass

def RenderPassMethod.effect : RenderPassMethod → Unrecorded
  | .set_no_bind_group _ _ =>
      .panics "RenderPass::set_bind_group: optional bind groups not yet supported"
  | .set_push_constants _ _ => .panics "render push constants not yet wired"
  | .set_blend_constant => .panics "set_blend_constant not yet wired"
  | .set_scissor_rect _ _ _ _ => .panics "set_scissor_rect not yet wired"
  | .set_viewport => .panics "set_viewport not yet wired"
  | .set_stencil_reference _ => .panics "set_stencil_reference not yet wired"
  | .draw_mesh_tasks _ _ _ => .unsupported "mesh shading"
  | .draw_indirect => .panics "draw_indirect not yet wired through wgpu-remote-wgpu"
  | .draw_indexed_indirect =>
      .panics "draw_indexed_indirect not yet wired through wgpu-remote-wgpu"
  | .draw_mesh_tasks_indirect => .unsupported "mesh shading"
  | .multi_draw_indirect | .multi_draw_indexed_indirect => .unsupported "multi-draw"
  | .multi_draw_indirect_count => .unsupported "multi-draw-count"
  | .multi_draw_mesh_tasks_indirect => .unsupported "mesh shading"
  | .multi_draw_indexed_indirect_count => .unsupported "multi-draw-count"
  | .multi_draw_mesh_tasks_indirect_count => .unsupported "mesh shading"
  | .insert_debug_marker _ | .push_debug_group _ | .pop_debug_group => .ignored
  | .write_timestamp => .unsupported "query sets"
  | .begin_occlusion_query _ | .end_occlusion_query => .unsupported "occlusion queries"
  | .begin_pipeline_statistics_query | .end_pipeline_statistics_query =>
      .unsupported "pipeline statistics queries"
  | .execute_bundles => .unsupported "render bundles"
  | .end_pass => .ignored

/-! ## The state -/

/-- A pass that was not dropped yet, and the number of its encoder. -/
structure OwnedPass where
  parent : ℕ
  pass : OpenPass

/-- The device's `ErrorReporter`: how many handlers were installed, the last of
which counts, and what each was called with. -/
structure Reporter where
  handlers : ℕ
  reports : List (ℕ × String)

/-- A call of the application, on the encoder or the pass with this number. -/
inductive RecorderCall where
  | create_command_encoder (label : Option String)
  | copy (encoder : ℕ) (op : CopyOp Wrapped)
  | begin_compute_pass (encoder : ℕ) (label : Option String)
  | begin_render_pass (encoder : ℕ) (desc : Wgpu.RenderPassDescriptor Wrapped)
  | compute (pass : ℕ) (op : ComputePassOp Wrapped)
  | render (pass : ℕ) (op : RenderPassOp Wrapped)
  | drop (pass : ℕ)
  | finish (encoder : ℕ)
  | encoder_method (encoder : ℕ) (method : EncoderMethod)
  | compute_pass_method (pass : ℕ) (method : ComputePassMethod)
  | render_pass_method (pass : ℕ) (method : RenderPassMethod)
  | on_uncaptured_error

/-- The encoders, passes and command buffers of a device, numbered as they were
made. -/
structure Recorder where
  encoders : List CommandBufferRecording
  /-- `none` once dropped. -/
  passes : List (Option OwnedPass)
  command_buffers : List CommandBuffer
  error_handler : Reporter
  /-- The calls that returned. No code looks at them. -/
  log : List RecorderCall

namespace Recorder

def new : Recorder := ⟨[], [], [], ⟨0, []⟩, []⟩

/-- `EncoderInner::push`. -/
def push (s : Recorder) (encoder : ℕ) (c : EncoderCommand) : Recorder :=
  { s with encoders := s.encoders.modify encoder fun r => { r with commands := r.commands ++ [c] } }

/-- A new pass. -/
def begin (s : Recorder) (pass : OwnedPass) : Recorder :=
  { s with passes := s.passes ++ [some pass] }

/-- One more command in a pass. -/
def put (s : Recorder) (p : ℕ) (pass : OwnedPass) : Recorder :=
  { s with passes := s.passes.set p (some pass) }

/-- `report_unsupported`; `none` if no handler is installed, and it panics. -/
def report_unsupported (s : Recorder) (what : String) : Option Recorder :=
  if s.error_handler.handlers = 0 then none
  else
    let report := (s.error_handler.handlers - 1, "wgpu-remote does not support " ++ what)
    some { s with error_handler :=
      { s.error_handler with reports := s.error_handler.reports ++ [report] } }

/-- A method that records nothing. -/
def unrecorded (s : Recorder) : Unrecorded → Option Recorder
  | .ignored => some s
  | .unsupported what => s.report_unsupported what
  | .panics _ => none

/-- A pass that has not been dropped. -/
def open_pass (s : Recorder) (p : ℕ) : Option OwnedPass := s.passes[p]?.join

/-- What a call does. The outer `none` is a call no program can make: there is no
such encoder or pass, or the pass is of the other kind, or dropped. The inner
`none` is a panic, which has no effect. -/
def call (s : Recorder) : RecorderCall → Option (Option Recorder)
  | .create_command_encoder label =>
      some (some { s with encoders := s.encoders ++ [{ label, commands := [] }] })
  | .copy e op => s.encoders[e]?.map fun _ => (copy_command op).map (s.push e)
  | .begin_compute_pass e label =>
      s.encoders[e]?.map fun _ => some (s.begin ⟨e, .compute label []⟩)
  | .begin_render_pass e desc =>
      s.encoders[e]?.map fun _ => (open_render_pass desc).map fun pass => s.begin ⟨e, pass⟩
  | .compute p op =>
      match s.open_pass p with
      | some ⟨e, .compute label commands⟩ =>
          some ((DropinEncoder.compute_command op).map fun c =>
            s.put p ⟨e, .compute label (commands ++ [c])⟩)
      | _ => none
  | .render p op =>
      match s.open_pass p with
      | some ⟨e, .render label color depth commands⟩ =>
          some ((DropinEncoder.render_command op).map fun c =>
            s.put p ⟨e, .render label color depth (commands ++ [c])⟩)
      | _ => none
  | .drop p =>
      (s.open_pass p).map fun pass =>
        some ({ s with passes := s.passes.set p none }.push pass.parent pass.pass.flush)
  | .finish e =>
      s.encoders[e]?.map fun recording =>
        some { s with
          encoders := s.encoders.set e { label := none, commands := [] }
          command_buffers := s.command_buffers ++ [⟨recording⟩] }
  | .encoder_method e m => s.encoders[e]?.map fun _ => s.unrecorded m.effect
  | .compute_pass_method p m =>
      match s.open_pass p with
      | some ⟨_, .compute _ _⟩ => some (s.unrecorded m.effect)
      | _ => none
  | .render_pass_method p m =>
      match s.open_pass p with
      | some ⟨_, .render _ _ _ _⟩ => some (s.unrecorded m.effect)
      | _ => none
  | .on_uncaptured_error =>
      some (some { s with error_handler :=
        { s.error_handler with handlers := s.error_handler.handlers + 1 } })

/-- One call, which may panic. -/
def step (s : Recorder) (c : RecorderCall) : Option Recorder :=
  (s.call c).map fun
    | some s' => { s' with log := s.log ++ [c] }
    | none => s

end Recorder

/-! ## What the calls amount to -/

/-- The encoder a call makes, by its label. -/
def created : RecorderCall → Option (Option String)
  | .create_command_encoder label => some label
  | _ => none

/-- The pass a call makes. -/
def begun : RecorderCall → Option OwnedPass
  | .begin_compute_pass e label => some ⟨e, .compute label []⟩
  | .begin_render_pass e desc => (open_render_pass desc).map fun pass => ⟨e, pass⟩
  | _ => none

/-- The command a call gives to pass `p`. -/
def computes (p : ℕ) : RecorderCall → Option ComputeCommand
  | .compute q op => if q = p then DropinEncoder.compute_command op else none
  | _ => none

def renders (p : ℕ) : RecorderCall → Option RenderCommand
  | .render q op => if q = p then DropinEncoder.render_command op else none
  | _ => none

/-- A pass with further commands of its kind. -/
def OpenPass.with (compute : List ComputeCommand) (render : List RenderCommand) :
    OpenPass → OpenPass
  | .compute label commands => .compute label (commands ++ compute)
  | .render label color depth commands => .render label color depth (commands ++ render)

/-- Pass `p` as the calls have left it: as it was begun, with all commands given to
it since. -/
def pass_in (log : List RecorderCall) (p : ℕ) : Option OwnedPass :=
  (log.filterMap begun)[p]?.map fun owned =>
    { owned with pass := owned.pass.with (log.filterMap (computes p)) (log.filterMap (renders p)) }

/-- What a call puts into the recording of encoder `e`, after the calls `before`. -/
def records (e : ℕ) (before : List RecorderCall) : RecorderCall → List EncoderCommand
  | .copy e' op => if e' = e then (copy_command op).toList else []
  | .drop p =>
      match pass_in before p with
      | some owned => if owned.parent = e then [owned.pass.flush] else []
      | none => []
  | _ => []

/-- The call finishes encoder `e`. -/
def finishes (e : ℕ) : RecorderCall → Bool
  | .finish e' => e' = e
  | _ => false

def is_finish : RecorderCall → Bool
  | .finish _ => true
  | _ => false

def is_install : RecorderCall → Bool
  | .on_uncaptured_error => true
  | _ => false

/-- The calls `since` are all calls after the last `finish` of encoder `e` before
them, or all calls there were. -/
structure Since (e : ℕ) (before since : List RecorderCall) : Prop where
  none_finishes : ∀ c ∈ since, finishes e c = false
  from_finish : before = [] ∨ ∃ past, before = past ++ [.finish e]

/-- The recording of encoder `e` after the calls `before` and, since it was
finished, `since`. Only the first recording has the label. -/
def recording_of (e : ℕ) (before since : List RecorderCall) : CommandBufferRecording where
  label :=
    match before with
    | [] => (since.filterMap created)[e]?.join
    | _ :: _ => none
  commands := along (records e) before since

/-- What a method that records nothing does. -/
def unrecorded_effect : RecorderCall → Unrecorded
  | .encoder_method _ m => m.effect
  | .compute_pass_method _ m => m.effect
  | .render_pass_method _ m => m.effect
  | _ => .ignored

/-- What a call reports, to the handler installed last. -/
def reports (before : List RecorderCall) (c : RecorderCall) : List (ℕ × String) :=
  match unrecorded_effect c with
  | .unsupported what => [(before.countP is_install - 1, "wgpu-remote does not support " ++ what)]
  | _ => []

/-! ## What a call can do -/

/-- A method that records nothing. -/
def is_method : RecorderCall → Bool
  | .encoder_method _ _ | .compute_pass_method _ _ | .render_pass_method _ _ => true
  | _ => false

/-- The calls that return, and what they do. -/
inductive Effect (s : Recorder) : RecorderCall → Recorder → Prop where
  | create_command_encoder (label : Option String) :
      Effect s (.create_command_encoder label)
        { s with encoders := s.encoders ++ [{ label, commands := [] }] }
  | copy {e : ℕ} {op : CopyOp Wrapped} {c : EncoderCommand} (he : e < s.encoders.length)
      (hop : copy_command op = some c) : Effect s (.copy e op) (s.push e c)
  | begin_pass {c : RecorderCall} {owned : OwnedPass} (hc : begun c = some owned)
      (he : owned.parent < s.encoders.length) : Effect s c (s.begin owned)
  | compute {p : ℕ} {op : ComputePassOp Wrapped} {e : ℕ} {label : Option String}
      {commands : List ComputeCommand} {c : ComputeCommand}
      (hp : s.open_pass p = some ⟨e, .compute label commands⟩)
      (hop : DropinEncoder.compute_command op = some c) :
      Effect s (.compute p op) (s.put p ⟨e, .compute label (commands ++ [c])⟩)
  | render {p : ℕ} {op : RenderPassOp Wrapped} {e : ℕ} {label : Option String}
      {color : List (Option RenderPassColorAttachment)}
      {depth : Option RenderPassDepthStencilAttachment} {commands : List RenderCommand}
      {c : RenderCommand} (hp : s.open_pass p = some ⟨e, .render label color depth commands⟩)
      (hop : DropinEncoder.render_command op = some c) :
      Effect s (.render p op) (s.put p ⟨e, .render label color depth (commands ++ [c])⟩)
  | drop {p : ℕ} {owned : OwnedPass} (hp : s.open_pass p = some owned) :
      Effect s (.drop p)
        ({ s with passes := s.passes.set p none }.push owned.parent owned.pass.flush)
  | finish {e : ℕ} {recording : CommandBufferRecording} (he : s.encoders[e]? = some recording) :
      Effect s (.finish e)
        { s with
          encoders := s.encoders.set e { label := none, commands := [] }
          command_buffers := s.command_buffers ++ [⟨recording⟩] }
  | method {c : RecorderCall} {s' : Recorder} (hc : is_method c = true)
      (hs : s.unrecorded (unrecorded_effect c) = some s') : Effect s c s'
  | on_uncaptured_error :
      Effect s .on_uncaptured_error
        { s with error_handler :=
          { s.error_handler with handlers := s.error_handler.handlers + 1 } }

/-- A call that returns has its effect. -/
theorem effect_of_call {s s' : Recorder} {c : RecorderCall} (h : s.call c = some (some s')) :
    Effect s c s' := by
  have hexists : ∀ {e : ℕ} {r : CommandBufferRecording}, s.encoders[e]? = some r →
      e < s.encoders.length := fun he => (List.getElem?_eq_some_iff.mp he).1
  rcases c with label | ⟨e, op⟩ | ⟨e, label⟩ | ⟨e, desc⟩ | ⟨p, op⟩ | ⟨p, op⟩ | p | e | ⟨e, m⟩ |
    ⟨p, m⟩ | ⟨p, m⟩ | _
  · rw [← Option.some.inj (Option.some.inj h)]
    exact .create_command_encoder label
  · obtain ⟨r, hr, hcopy⟩ := Option.map_eq_some_iff.mp h
    obtain ⟨c, hc, rfl⟩ := Option.map_eq_some_iff.mp hcopy
    exact .copy (hexists hr) hc
  · obtain ⟨r, hr, hbegin⟩ := Option.map_eq_some_iff.mp h
    rw [← Option.some.inj hbegin]
    exact .begin_pass rfl (hexists hr)
  · obtain ⟨r, hr, hbegin⟩ := Option.map_eq_some_iff.mp h
    obtain ⟨pass, hpass, rfl⟩ := Option.map_eq_some_iff.mp hbegin
    refine .begin_pass ?_ (hexists hr)
    show (open_render_pass desc).map _ = _
    rw [hpass]
    rfl
  -- a compute call is on a compute pass that is still open
  · rcases hp : s.open_pass p with _ | ⟨e, ⟨label, commands⟩ | ⟨label, color, depth, commands⟩⟩
    · simp only [Recorder.call, hp] at h
      cases h
    · simp only [Recorder.call, hp] at h
      obtain ⟨c, hc, rfl⟩ := Option.map_eq_some_iff.mp (Option.some.inj h)
      exact .compute hp hc
    · simp only [Recorder.call, hp] at h
      cases h
  -- and a render call on a render pass
  · rcases hp : s.open_pass p with _ | ⟨e, ⟨label, commands⟩ | ⟨label, color, depth, commands⟩⟩
    · simp only [Recorder.call, hp] at h
      cases h
    · simp only [Recorder.call, hp] at h
      cases h
    · simp only [Recorder.call, hp] at h
      obtain ⟨c, hc, rfl⟩ := Option.map_eq_some_iff.mp (Option.some.inj h)
      exact .render hp hc
  · obtain ⟨owned, hp, hdrop⟩ := Option.map_eq_some_iff.mp h
    rw [← Option.some.inj hdrop]
    exact .drop hp
  · obtain ⟨r, hr, hfinish⟩ := Option.map_eq_some_iff.mp h
    rw [← Option.some.inj hfinish]
    exact .finish hr
  · obtain ⟨r, hr, hmethod⟩ := Option.map_eq_some_iff.mp h
    exact .method rfl hmethod
  -- a method nothing is recorded for asks for the pass' kind too
  · rcases hp : s.open_pass p with _ | ⟨e, ⟨label, commands⟩ | ⟨label, color, depth, commands⟩⟩
    · simp only [Recorder.call, hp] at h
      cases h
    · simp only [Recorder.call, hp] at h
      exact .method rfl (Option.some.inj h)
    · simp only [Recorder.call, hp] at h
      cases h
  · rcases hp : s.open_pass p with _ | ⟨e, ⟨label, commands⟩ | ⟨label, color, depth, commands⟩⟩
    · simp only [Recorder.call, hp] at h
      cases h
    · simp only [Recorder.call, hp] at h
      cases h
    · simp only [Recorder.call, hp] at h
      exact .method rfl (Option.some.inj h)
  · rw [← Option.some.inj (Option.some.inj h)]
    exact .on_uncaptured_error

/-- A method changes the error handler's books at most. -/
theorem unrecorded_same {s s' : Recorder} {m : Unrecorded} (h : s.unrecorded m = some s') :
    s'.encoders = s.encoders ∧ s'.passes = s.passes ∧ s'.command_buffers = s.command_buffers ∧
      s'.error_handler.handlers = s.error_handler.handlers := by
  rcases m with _ | what | text
  · rw [← Option.some.inj h]
    exact ⟨rfl, rfl, rfl, rfl⟩
  · change s.report_unsupported what = some s' at h
    unfold Recorder.report_unsupported at h
    by_cases hnone : s.error_handler.handlers = 0
    · rw [if_pos hnone] at h
      cases h
    · rw [if_neg hnone] at h
      rw [← Option.some.inj h]
      exact ⟨rfl, rfl, rfl, rfl⟩
  · cases h

/-- A call that begins a pass does nothing else. -/
theorem begun_only {c : RecorderCall} {owned : OwnedPass} (hc : begun c = some owned) :
    created c = none ∧ is_finish c = false ∧ is_install c = false ∧
      unrecorded_effect c = .ignored ∧ (∀ e before, records e before c = []) ∧
      (∀ e, finishes e c = false) ∧ (∀ p, computes p c = none) ∧ ∀ p, renders p c = none := by
  cases c
  case begin_compute_pass e label =>
    exact ⟨rfl, rfl, rfl, rfl, fun _ _ => rfl, fun _ => rfl, fun _ => rfl, fun _ => rfl⟩
  case begin_render_pass e desc =>
    exact ⟨rfl, rfl, rfl, rfl, fun _ _ => rfl, fun _ => rfl, fun _ => rfl, fun _ => rfl⟩
  all_goals cases hc

/-- Nor does a method record anything. -/
theorem method_only {c : RecorderCall} (hc : is_method c = true) :
    created c = none ∧ begun c = none ∧ is_finish c = false ∧ is_install c = false ∧
      (∀ e before, records e before c = []) ∧
      (∀ e, finishes e c = false) ∧ (∀ p, computes p c = none) ∧ ∀ p, renders p c = none := by
  cases c
  case encoder_method e m =>
    exact ⟨rfl, rfl, rfl, rfl, fun _ _ => rfl, fun _ => rfl, fun _ => rfl, fun _ => rfl⟩
  case compute_pass_method p m =>
    exact ⟨rfl, rfl, rfl, rfl, fun _ _ => rfl, fun _ => rfl, fun _ => rfl, fun _ => rfl⟩
  case render_pass_method p m =>
    exact ⟨rfl, rfl, rfl, rfl, fun _ _ => rfl, fun _ => rfl, fun _ => rfl, fun _ => rfl⟩
  all_goals cases hc

/-! ## The recordings -/

/-- A copy records its command on its own encoder. -/
theorem records_copy {op : CopyOp Wrapped} {cmd : EncoderCommand} (hop : copy_command op = some cmd)
    (e e' : ℕ) (before : List RecorderCall) :
    records e before (.copy e' op) = if e' = e then [cmd] else [] := by
  simp only [records, hop, Option.toList_some]

/-- Dropping a pass records the pass, with its commands, on its parent. -/
theorem records_drop {p : ℕ} {before : List RecorderCall} {owned : OwnedPass}
    (hp : pass_in before p = some owned) (e : ℕ) :
    records e before (.drop p) = if owned.parent = e then [owned.pass.flush] else [] := by
  simp only [records, hp]

namespace Recorder

/-- The books of the application: what the state of the encoders, the passes and
the handler is after the calls that returned. -/
structure Inv (s : Recorder) : Prop where
  created : s.encoders.length = (s.log.filterMap created).length
  recording : ∀ e before since, e < s.encoders.length → s.log = before ++ since →
    Since e before since → s.encoders[e]? = some (recording_of e before since)
  /-- Nothing was recorded into an encoder that was not made yet. -/
  fresh : ∀ e, s.encoders.length ≤ e →
    (∀ c ∈ s.log, finishes e c = false) ∧ along (records e) [] s.log = []
  begun : s.passes.length = (s.log.filterMap begun).length
  passes : ∀ p owned, s.open_pass p = some owned →
    pass_in s.log p = some owned ∧ owned.parent < s.encoders.length
  unused : ∀ p, s.passes.length ≤ p →
    s.log.filterMap (computes p) = [] ∧ s.log.filterMap (renders p) = []
  finished : s.command_buffers.length = s.log.countP is_finish
  buffers : ∀ e before since after, s.log = before ++ since ++ .finish e :: after →
    Since e before since →
    s.command_buffers[(before ++ since).countP is_finish]? = some ⟨recording_of e before since⟩
  handlers : s.error_handler.handlers = s.log.countP is_install
  reports : s.error_handler.reports = along reports [] s.log

theorem inv_new : new.Inv where
  created := rfl
  recording e _ _ he := absurd he (Nat.not_lt_zero e)
  fresh _ _ := ⟨fun _ hc => absurd hc List.not_mem_nil, rfl⟩
  begun := rfl
  passes p owned hp := by cases hp
  unused _ _ := ⟨rfl, rfl⟩
  finished := rfl
  buffers e before since after hlog := by
    have hlength := congrArg List.length hlog
    simp [new] at hlength
  handlers := rfl
  reports := rfl

variable {s s' : Recorder} {c : RecorderCall}

/-- **A call and a recording**: what the call puts into it, or a new one. -/
theorem encoders_after (h : s.Inv) (heffect : Effect s c s') {e : ℕ} (he : e < s.encoders.length) :
    s'.encoders[e]? = s.encoders[e]?.map fun r =>
      if finishes e c then { label := none, commands := [] }
      else { r with commands := r.commands ++ records e s.log c } := by
  have hsame : ∀ {encoders : List CommandBufferRecording}, encoders = s.encoders →
      finishes e c = false → records e s.log c = [] →
      encoders[e]? = s.encoders[e]?.map fun r =>
        if finishes e c then { label := none, commands := [] }
        else { r with commands := r.commands ++ records e s.log c } := by
    intro encoders hencoders hfinishes hrecords
    rw [hencoders, hfinishes, hrecords]
    simp
  -- a command pushed into the recording of `e'`
  have hpush : ∀ (e' : ℕ) (cmd : EncoderCommand), finishes e c = false →
      records e s.log c = (if e' = e then [cmd] else []) →
      (s.push e' cmd).encoders[e]? = s.encoders[e]?.map fun r =>
        if finishes e c then { label := none, commands := [] }
        else { r with commands := r.commands ++ records e s.log c } := by
    intro e' cmd hfinishes hrecords
    rw [hfinishes, hrecords, push, List.getElem?_modify]
    by_cases heq : e' = e
    · simp [heq]
    · simp [heq]
  rcases heffect with label | ⟨he', hop⟩ | ⟨hc, he'⟩ | ⟨hp, hop⟩ | ⟨hp, hop⟩ | hp | he' |
    ⟨hc, hs⟩ | _
  · rw [List.getElem?_append_left he]
    exact hsame rfl rfl rfl
  · exact hpush _ _ rfl (records_copy hop _ _ _)
  · exact hsame rfl ((begun_only hc).2.2.2.2.2.1 e) ((begun_only hc).2.2.2.2.1 e s.log)
  · exact hsame rfl rfl rfl
  · exact hsame rfl rfl rfl
  · exact hpush _ _ rfl (records_drop (h.passes _ _ hp).1 _)
  · rename_i e' recording
    by_cases heq : e' = e
    · rw [heq, List.getElem?_set_self he]
      rw [heq] at he'
      rw [he']
      simp [finishes]
    · rw [List.getElem?_set_ne heq]
      exact hsame rfl (decide_eq_false heq) rfl
  · exact hsame (unrecorded_same hs).1 ((method_only hc).2.2.2.2.2.1 e)
      ((method_only hc).2.2.2.2.1 e s.log)
  · exact hsame rfl rfl rfl

/-- An encoder is added by the call that creates one, and by no other. -/
theorem encoders_length (heffect : Effect s c s') :
    s'.encoders.length = s.encoders.length + (Client.created c).toList.length := by
  rcases heffect with label | ⟨he, hop⟩ | ⟨hc, he⟩ | ⟨hp, hop⟩ | ⟨hp, hop⟩ | hp | he | ⟨hc, hs⟩ | _
  · exact List.length_append
  · exact List.length_modify ..
  · rw [(begun_only hc).1]
    rfl
  · rfl
  · rfl
  · exact List.length_modify ..
  · exact List.length_set
  · rw [(method_only hc).1, (unrecorded_same hs).1]
    rfl
  · rfl

/-- A new encoder has recorded nothing. -/
theorem effect_create {label : Option String} (heffect : Effect s c s')
    (hc : Client.created c = some label) :
    s'.encoders = s.encoders ++ [{ label, commands := [] }] := by
  rcases heffect with label' | _ | ⟨hbegun, _⟩ | _ | _ | _ | _ | ⟨hmethod, _⟩ | _
  · rw [← Option.some.inj hc]
  · cases hc
  · rw [(begun_only hbegun).1] at hc
    cases hc
  · cases hc
  · cases hc
  · cases hc
  · cases hc
  · rw [(method_only hmethod).1] at hc
    cases hc
  · cases hc

/-- A call on an encoder that was not made yet: there is none. -/
theorem fresh_after (h : s.Inv) (heffect : Effect s c s') {e : ℕ} (he : s.encoders.length ≤ e) :
    finishes e c = false ∧ records e s.log c = [] := by
  rcases heffect with label | ⟨he', hop⟩ | ⟨hc, he'⟩ | ⟨hp, hop⟩ | ⟨hp, hop⟩ | hp | he' |
    ⟨hc, hs⟩ | _
  · exact ⟨rfl, rfl⟩
  · refine ⟨rfl, ?_⟩
    rw [records_copy hop, if_neg (by omega)]
  · exact ⟨(begun_only hc).2.2.2.2.2.1 e, (begun_only hc).2.2.2.2.1 e s.log⟩
  · exact ⟨rfl, rfl⟩
  · exact ⟨rfl, rfl⟩
  · obtain ⟨hpass, hparent⟩ := h.passes _ _ hp
    refine ⟨rfl, ?_⟩
    rw [records_drop hpass, if_neg (by omega)]
  · have hlt := (List.getElem?_eq_some_iff.mp he').1
    exact ⟨decide_eq_false (by omega), rfl⟩
  · exact ⟨(method_only hc).2.2.2.2.2.1 e, (method_only hc).2.2.2.2.1 e s.log⟩
  · exact ⟨rfl, rfl⟩

/-- The last call finished the encoder, or is one of those since. -/
theorem since_cases {log before since : List RecorderCall} {e : ℕ} (hlog : log ++ [c] = before ++ since)
    (hsince : Since e before since) :
    (since = [] ∧ before = log ++ [c] ∧ c = .finish e) ∨
      ∃ front, since = front ++ [c] ∧ log = before ++ front ∧ Since e before front ∧
        finishes e c = false := by
  rcases List.eq_nil_or_concat since with rfl | ⟨front, x, rfl⟩
  · rw [List.append_nil] at hlog
    refine Or.inl ⟨rfl, hlog.symm, ?_⟩
    rcases hsince.from_finish with rfl | ⟨past, rfl⟩
    · exact absurd hlog (by simp)
    · exact List.singleton_inj.mp (List.append_inj' hlog rfl).2
  · rw [List.concat_eq_append] at hlog hsince ⊢
    rw [← List.append_assoc] at hlog
    obtain ⟨hfront, hx⟩ := List.append_inj' hlog rfl
    rw [← List.singleton_inj.mp hx] at hsince ⊢
    refine Or.inr ⟨front, rfl, hfront, ⟨fun y hy => ?_, hsince.from_finish⟩, ?_⟩
    · exact hsince.none_finishes y (List.mem_append_left _ hy)
    · exact hsince.none_finishes c (List.mem_append_right _ (List.mem_singleton_self c))

/-- One more call since. -/
theorem recording_of_snoc {e : ℕ} {before since : List RecorderCall}
    (he : e < ((before ++ since).filterMap Client.created).length) :
    recording_of e before (since ++ [c]) =
      { recording_of e before since with
        commands := (recording_of e before since).commands ++ records e (before ++ since) c } := by
  unfold recording_of
  rw [along_snoc]
  rcases before with _ | ⟨x, before⟩
  · rw [List.nil_append] at he ⊢
    dsimp only
    rw [filterMap_snoc, List.getElem?_append_left he]
  · rfl

/-- The recording of an encoder after a call is that of the log since its last finish, the call
included. -/
theorem recording_after (h : s.Inv) (heffect : Effect s c s') (e : ℕ)
    (before since : List RecorderCall) (he : e < s'.encoders.length)
    (hlog : s.log ++ [c] = before ++ since) (hsince : Since e before since) :
    s'.encoders[e]? = some (recording_of e before since) := by
  by_cases hold : e < s.encoders.length
  · rw [encoders_after h heffect hold]
    rcases since_cases hlog hsince with ⟨rfl, rfl, rfl⟩ | ⟨front, rfl, hfront, hsince', hc⟩
    · -- the recording was just taken
      have hc : finishes e (.finish e) = true := decide_eq_true rfl
      rw [List.getElem?_eq_getElem hold, Option.map_some, if_pos hc]
      unfold recording_of
      rcases s.log with _ | ⟨x, log⟩
      · rfl
      · rfl
    -- the encoder was there before the call: its recording grows by what the call records for it
    · have hmade : e < ((before ++ front).filterMap Client.created).length := by
        rw [← hfront, ← h.created]
        exact hold
      rw [h.recording e before front hold hfront hsince', Option.map_some, hc,
        recording_of_snoc hmade, hfront]
      rfl
  · -- the call has just made the encoder
    have hlength := encoders_length heffect
    have hfresh := h.fresh e (Nat.le_of_not_lt hold)
    rcases hcreated : Client.created c with _ | label
    · rw [hcreated, Option.toList_none, List.length_nil] at hlength
      omega
    · rw [hcreated, Option.toList_some, List.length_singleton] at hlength
      have heq : e = s.encoders.length := by omega
      rcases since_cases hlog hsince with ⟨-, -, rfl⟩ | ⟨front, rfl, hfront, hsince', -⟩
      · cases hcreated
      · have hbefore : before = [] := by
          rcases hsince.from_finish with hnil | ⟨past, rfl⟩
          · exact hnil
          · -- it cannot have been finished
            have hmem : RecorderCall.finish e ∈ s.log := by
              rw [hfront]
              simp
            have hno := hfresh.1 _ hmem
            rw [show finishes e (.finish e) = true from decide_eq_true rfl] at hno
            cases hno
        -- nothing was recorded for an encoder that was not there
        have hcommands : along (records e) [] (s.log ++ [c]) = [] := by
          rw [along_snoc, hfresh.2, List.nil_append, List.nil_append]
          exact (fresh_after h heffect (Nat.le_of_not_lt hold)).2
        have hlabel : ((s.log ++ [c]).filterMap Client.created)[e]? = some label := by
          rw [filterMap_snoc, hcreated, heq, h.created]
          exact List.getElem?_concat_length
        rw [hbefore, List.nil_append] at hfront
        rw [hbefore, ← hfront, effect_create heffect hcreated, heq, List.getElem?_concat_length, ← heq]
        unfold recording_of
        rw [hcommands, hlabel]
        rfl

/-! ## The passes -/

theorem with_nil (pass : OpenPass) : pass.with [] [] = pass := by
  rcases pass with ⟨label, commands⟩ | ⟨label, color, depth, commands⟩
  · exact congrArg _ (List.append_nil commands)
  · exact congrArg _ (List.append_nil commands)

/-- Commands are added in turn. -/
theorem with_with (pass : OpenPass) (compute compute' : List ComputeCommand)
    (render render' : List RenderCommand) :
    (pass.with compute render).with compute' render' =
      pass.with (compute ++ compute') (render ++ render') := by
  rcases pass with ⟨label, commands⟩ | ⟨label, color, depth, commands⟩
  · exact congrArg _ (List.append_assoc commands compute compute')
  · exact congrArg _ (List.append_assoc commands render render')

/-- One more call, with a pass that was begun before. -/
theorem pass_in_snoc {log : List RecorderCall} {p : ℕ}
    (hp : p < (log.filterMap Client.begun).length) (c : RecorderCall) :
    pass_in (log ++ [c]) p = (pass_in log p).map fun owned =>
      { owned with pass := owned.pass.with (computes p c).toList (renders p c).toList } := by
  unfold pass_in
  rw [filterMap_snoc, filterMap_snoc, filterMap_snoc, List.getElem?_append_left hp,
    List.getElem?_eq_getElem hp, Option.map_some, Option.map_some, Option.map_some, with_with]

/-- An open pass is among those begun. -/
theorem open_pass_lt {p : ℕ} {owned : OwnedPass} (hp : s.open_pass p = some owned) :
    p < s.passes.length := by
  unfold open_pass at hp
  by_contra hge
  rw [List.getElem?_eq_none (Nat.le_of_not_lt hge)] at hp
  cases hp

/-- A call that leaves pass `p` alone. -/
theorem pass_kept (h : s.Inv) {p : ℕ} {owned : OwnedPass} (hp : s.open_pass p = some owned)
    (hcompute : computes p c = none) (hrender : renders p c = none) :
    pass_in (s.log ++ [c]) p = some owned := by
  have hlt : p < (s.log.filterMap Client.begun).length := by
    rw [← h.begun]
    exact open_pass_lt hp
  rw [pass_in_snoc hlt, (h.passes p owned hp).1, hcompute, hrender, Option.map_some]
  show some { owned with pass := owned.pass.with [] [] } = _
  rw [with_nil]

/-- A pass that is put back with one more command. -/
theorem open_pass_put (p q : ℕ) (owned : OwnedPass) :
    (s.put q owned).open_pass p =
      if q = p ∧ q < s.passes.length then some owned else s.open_pass p := by
  unfold open_pass put
  dsimp only
  rw [List.getElem?_set]
  by_cases hq : q = p
  · by_cases hlt : q < s.passes.length
    · rw [if_pos hq, if_pos hlt, if_pos ⟨hq, hlt⟩]
      rfl
    · rw [if_pos hq, if_neg hlt, if_neg (fun hand => hlt hand.2), ← hq,
        List.getElem?_eq_none (Nat.le_of_not_lt hlt)]
  · rw [if_neg hq, if_neg (fun hand => hq hand.1)]

/-- A pass that is open after a call is the one the log leaves open, and its parent is there. -/
theorem pass_after (h : s.Inv) (heffect : Effect s c s') (p : ℕ) (owned : OwnedPass)
    (hp : s'.open_pass p = some owned) :
    pass_in (s.log ++ [c]) p = some owned ∧ owned.parent < s'.encoders.length := by
  have hmore : s.encoders.length ≤ s'.encoders.length := by
    have hlength := encoders_length heffect
    omega
  -- a pass the call has nothing to do with
  have hkept : s.open_pass p = some owned → computes p c = none → renders p c = none →
      pass_in (s.log ++ [c]) p = some owned ∧ owned.parent < s'.encoders.length :=
    fun hold hcompute hrender => ⟨pass_kept h hold hcompute hrender,
      Nat.lt_of_lt_of_le (h.passes p owned hold).2 hmore⟩
  rcases heffect with label | ⟨he, hop⟩ | ⟨hc, he⟩ | @⟨q, op, e, label, commands, cmd, hq, hop⟩ |
    @⟨q, op, e, label, color, depth, commands, cmd, hq, hop⟩ | hq | he | ⟨hc, hs⟩ | _
  · exact hkept hp rfl rfl
  · exact hkept hp rfl rfl
  · rename_i owned'
    obtain ⟨-, -, -, -, -, -, hcompute, hrender⟩ := begun_only hc
    by_cases hlt : p < s.passes.length
    · have hold : s.open_pass p = some owned := by
        rw [← hp]
        unfold open_pass begin
        dsimp only
        rw [List.getElem?_append_left hlt]
      exact hkept hold (hcompute p) (hrender p)
    · -- the pass just begun
      have hlast := open_pass_lt hp
      unfold begin at hlast
      rw [List.length_append, List.length_singleton] at hlast
      have heq : p = s.passes.length := by omega
      unfold open_pass begin at hp
      dsimp only at hp
      rw [heq, List.getElem?_concat_length] at hp
      have howned : owned' = owned := Option.some.inj hp
      obtain ⟨hnocompute, hnorender⟩ := h.unused p (Nat.le_of_not_lt hlt)
      refine ⟨?_, howned ▸ he⟩
      unfold pass_in
      rw [filterMap_snoc, filterMap_snoc, filterMap_snoc, hnocompute, hnorender, hcompute, hrender,
        hc, heq, h.begun, Option.toList_some, List.getElem?_concat_length, Option.map_some]
      show some { owned' with pass := owned'.pass.with [] [] } = _
      rw [with_nil, howned]
  · rw [open_pass_put] at hp
    by_cases heq : q = p
    · have hlt := open_pass_lt hq
      rw [if_pos ⟨heq, hlt⟩] at hp
      obtain ⟨hpass, hparent⟩ := h.passes q _ hq
      rw [← Option.some.inj hp, ← heq]
      refine ⟨?_, hparent⟩
      rw [pass_in_snoc (h.begun ▸ hlt), hpass, Option.map_some]
      have hcmd : computes q (.compute q op) = some cmd := by
        simp only [computes, if_pos, hop]
      rw [hcmd]
      rfl
    · rw [if_neg fun hand => heq hand.1] at hp
      exact hkept hp (if_neg heq) rfl
  · rw [open_pass_put] at hp
    by_cases heq : q = p
    · have hlt := open_pass_lt hq
      rw [if_pos ⟨heq, hlt⟩] at hp
      obtain ⟨hpass, hparent⟩ := h.passes q _ hq
      rw [← Option.some.inj hp, ← heq]
      refine ⟨?_, hparent⟩
      rw [pass_in_snoc (h.begun ▸ hlt), hpass, Option.map_some]
      have hcmd : renders q (.render q op) = some cmd := by
        simp only [renders, if_pos, hop]
      rw [hcmd]
      rfl
    · rw [if_neg fun hand => heq hand.1] at hp
      exact hkept hp rfl (if_neg heq)
  · rename_i q owned'
    have hset : ({ s with passes := s.passes.set q none } : Recorder).open_pass p = some owned := hp
    unfold open_pass at hset
    dsimp only at hset
    by_cases heq : q = p
    · rw [heq, List.getElem?_set_self (heq ▸ open_pass_lt hq)] at hset
      cases hset
    · rw [List.getElem?_set_ne heq] at hset
      exact hkept hset rfl rfl
  · exact hkept hp rfl rfl
  · obtain ⟨-, hpasses, -, -⟩ := unrecorded_same hs
    obtain ⟨-, -, -, -, -, -, hcompute, hrender⟩ := method_only hc
    unfold open_pass at hp
    rw [hpasses] at hp
    exact hkept hp (hcompute p) (hrender p)
  · exact hkept hp rfl rfl

/-- A pass is added by the call that begins one. -/
theorem passes_length (heffect : Effect s c s') :
    s'.passes.length = s.passes.length + (Client.begun c).toList.length := by
  rcases heffect with label | ⟨he, hop⟩ | ⟨hc, he⟩ | ⟨hp, hop⟩ | ⟨hp, hop⟩ | hp | he | ⟨hc, hs⟩ | _
  · rfl
  · rfl
  · rw [hc]
    exact List.length_append
  · exact List.length_set
  · exact List.length_set
  · exact List.length_set
  · rfl
  · rw [(method_only hc).2.1, (unrecorded_same hs).2.1]
    rfl
  · rfl

/-- A command goes to a pass there is. -/
theorem unused_after (heffect : Effect s c s') {p : ℕ} (hp : s.passes.length ≤ p) :
    computes p c = none ∧ renders p c = none := by
  rcases heffect with label | ⟨he, hop⟩ | ⟨hc, he⟩ | ⟨hq, hop⟩ | ⟨hq, hop⟩ | hq | he | ⟨hc, hs⟩ | _
  · exact ⟨rfl, rfl⟩
  · exact ⟨rfl, rfl⟩
  · exact ⟨(begun_only hc).2.2.2.2.2.2.1 p, (begun_only hc).2.2.2.2.2.2.2 p⟩
  · have hlt := open_pass_lt hq
    exact ⟨if_neg (by omega), rfl⟩
  · have hlt := open_pass_lt hq
    exact ⟨rfl, if_neg (by omega)⟩
  · exact ⟨rfl, rfl⟩
  · exact ⟨rfl, rfl⟩
  · exact ⟨(method_only hc).2.2.2.2.2.2.1 p, (method_only hc).2.2.2.2.2.2.2 p⟩
  · exact ⟨rfl, rfl⟩

/-! ## The command buffers -/

/-- A command buffer is added by `finish`, and those before it stay. -/
theorem buffers_after (heffect : Effect s c s') :
    s'.command_buffers.length = s.command_buffers.length + (if is_finish c then 1 else 0) ∧
      ∀ k < s.command_buffers.length, s'.command_buffers[k]? = s.command_buffers[k]? := by
  rcases heffect with label | ⟨he, hop⟩ | ⟨hc, he⟩ | ⟨hp, hop⟩ | ⟨hp, hop⟩ | hp | he | ⟨hc, hs⟩ | _
  · exact ⟨rfl, fun _ _ => rfl⟩
  · exact ⟨rfl, fun _ _ => rfl⟩
  · rw [(begun_only hc).2.1]
    exact ⟨rfl, fun _ _ => rfl⟩
  · exact ⟨rfl, fun _ _ => rfl⟩
  · exact ⟨rfl, fun _ _ => rfl⟩
  · exact ⟨rfl, fun _ _ => rfl⟩
  · exact ⟨List.length_append, fun k hk => List.getElem?_append_left hk⟩
  · rw [(method_only hc).2.2.1, (unrecorded_same hs).2.2.1]
    exact ⟨rfl, fun _ _ => rfl⟩
  · exact ⟨rfl, fun _ _ => rfl⟩

/-- `finish` takes the recording. -/
theorem finish_takes {e : ℕ} (heffect : Effect s (.finish e) s') :
    ∃ r, s.encoders[e]? = some r ∧ s'.command_buffers[s.command_buffers.length]? = some ⟨r⟩ := by
  cases heffect with
  | finish he => exact ⟨_, he, List.getElem?_concat_length⟩
  | begin_pass hc => cases hc
  | method hc => cases hc

/-- The command buffer of a `finish` holds the recording since the one before, at the place its
number gives it. -/
theorem buffer_after (h : s.Inv) (heffect : Effect s c s') (e : ℕ)
    (before since after : List RecorderCall)
    (hlog : s.log ++ [c] = before ++ since ++ .finish e :: after) (hsince : Since e before since) :
    s'.command_buffers[(before ++ since).countP is_finish]? =
      some ⟨recording_of e before since⟩ := by
  obtain ⟨-, hold⟩ := buffers_after heffect
  rcases Transition.split_snoc hlog with ⟨hpre, rfl⟩ | ⟨front, hfront⟩
  · -- the buffer is new
    obtain ⟨r, hr, hbuffer⟩ := finish_takes heffect
    have hlt := (List.getElem?_eq_some_iff.mp hr).1
    rw [h.recording e before since hlt hpre.symm hsince] at hr
    rw [hpre, ← h.finished, hbuffer, Option.some.inj hr]
  · have hlast := h.buffers e before since front hfront hsince
    rw [hold _ (List.getElem?_eq_some_iff.mp hlast).1]
    exact hlast

/-! ## The error handler -/

/-- Handlers and reports grow by what the call installs and by what it reports. -/
theorem handler_after (h : s.Inv) (heffect : Effect s c s') :
    s'.error_handler.handlers = s.error_handler.handlers + (if is_install c then 1 else 0) ∧
      s'.error_handler.reports = s.error_handler.reports ++ Client.reports s.log c := by
  have hnothing : s.error_handler.reports = s.error_handler.reports ++ [] := (List.append_nil _).symm
  rcases heffect with label | ⟨he, hop⟩ | ⟨hc, he⟩ | ⟨hp, hop⟩ | ⟨hp, hop⟩ | hp | he | ⟨hc, hs⟩ | _
  · exact ⟨rfl, hnothing⟩
  · exact ⟨rfl, hnothing⟩
  · obtain ⟨-, -, hinstall, heff, -⟩ := begun_only hc
    unfold Client.reports
    rw [hinstall, heff]
    exact ⟨rfl, hnothing⟩
  · exact ⟨rfl, hnothing⟩
  · exact ⟨rfl, hnothing⟩
  · exact ⟨rfl, hnothing⟩
  · exact ⟨rfl, hnothing⟩
  · rw [(unrecorded_same hs).2.2.2, (method_only hc).2.2.2.1]
    refine ⟨rfl, ?_⟩
    unfold Client.reports
    -- what the method does depends on whether it is one that is reported
    rcases hm : unrecorded_effect c with _ | what | text
    · rw [hm] at hs
      rw [← Option.some.inj hs]
      exact hnothing
    · rw [hm] at hs
      change s.report_unsupported what = some s' at hs
      unfold report_unsupported at hs
      by_cases hnone : s.error_handler.handlers = 0
      · rw [if_pos hnone] at hs
        cases hs
      · rw [if_neg hnone] at hs
        rw [← Option.some.inj hs, ← h.handlers]
    · rw [hm] at hs
      cases hs
  · exact ⟨rfl, hnothing⟩

/-! ## Runs -/

/-- **A call that returns** keeps the books. -/
theorem Inv.effect (h : s.Inv) (heffect : Effect s c s') :
    Inv { s' with log := s.log ++ [c] } where
  created := by
    dsimp only
    rw [filterMap_snoc, List.length_append, encoders_length heffect, h.created]
  recording e before since he hlog hsince := recording_after h heffect e before since he hlog hsince
  -- an encoder that will be made later has not been used by this call either
  fresh e he := by
    dsimp only at he ⊢
    rw [encoders_length heffect] at he
    obtain ⟨hfinishes, halong⟩ := h.fresh e (by omega)
    obtain ⟨hc, hrecords⟩ := fresh_after h heffect (e := e) (by omega)
    refine ⟨fun x hx => ?_, ?_⟩
    · rcases List.mem_append.mp hx with hx | hx
      · exact hfinishes x hx
      · rw [List.mem_singleton.mp hx]
        exact hc
    · rw [along_snoc, halong, List.nil_append, List.nil_append]
      exact hrecords
  begun := by
    dsimp only
    rw [filterMap_snoc, List.length_append, passes_length heffect, h.begun]
  passes p owned hp := pass_after h heffect p owned hp
  unused p hp := by
    dsimp only at hp ⊢
    rw [passes_length heffect] at hp
    obtain ⟨hcomputes, hrenders⟩ := h.unused p (by omega)
    obtain ⟨hcompute, hrender⟩ := unused_after heffect (p := p) (by omega)
    rw [filterMap_snoc, filterMap_snoc, hcomputes, hrenders, hcompute, hrender]
    exact ⟨rfl, rfl⟩
  finished := by
    dsimp only
    rw [countP_snoc, (buffers_after heffect).1, h.finished]
  buffers e before since after hlog hsince :=
    buffer_after h heffect e before since after hlog hsince
  handlers := by
    dsimp only
    rw [countP_snoc, (handler_after h heffect).1, h.handlers]
  reports := by
    dsimp only
    rw [along_snoc, (handler_after h heffect).2, h.reports]
    rfl

/-- One call keeps the invariant; the parts are the lemmas above. -/
theorem Inv.step (h : s.Inv) (hstep : s.step c = some s') : s'.Inv := by
  obtain ⟨result, hcall, hresult⟩ := Option.map_eq_some_iff.mp hstep
  rcases result with _ | r
  · -- a panic
    rw [← hresult]
    exact h
  · rw [← hresult]
    exact h.effect (effect_of_call hcall)

/-- So does any sequence of calls. -/
theorem inv_run {calls : List RecorderCall} (hrun : Transition.run step new calls = some s) :
    s.Inv :=
  Transition.run_invariant step (fun _ _ _ h hstep => Inv.step h hstep) inv_new hrun

end Recorder

end Passes

end WgpuRemote.Client
