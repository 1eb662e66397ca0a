/-
`server::engine`: replaying a recording on a wgpu command encoder.

`Submit` carries recordings; each is replayed on an encoder of its own, with
the tables locked from the first command to the last. A command first resolves
the ids it mentions, in the order of its fields, and then makes its one call on
the encoder or on the pass that is open; the first id that does not resolve
ends the whole replay.
-/
import WgpuRemote.Server.Prog

set_option autoImplicit false

namespace WgpuRemote.Server

open Bincode
open Wgpu (Occ Obj Call EncoderCall)
open Dispatch (attempt issue add with_tables)

section Replay

variable [WgpuTypes]

/-! ## Looking ids up -/

/-- The answer to an action that names an id the tables do not hold. -/
def unknown (what : String) (raw : UInt64) : Response :=
  .Error .UnknownResource s!"unknown {what}({raw})"

/-- `tables.<kind>.get(&id)`, or the error naming the id under the text `what`. -/
def lookup_as (what : String) (t : ResourceTables) {k : Kind} (id : Id k) :
    Except Response (Obj k) :=
  match t.get id with
  | some o => .ok o
  | none => .error (unknown what id.raw)

/-- The usual case: the error names the id by its type. -/
def lookup (t : ResourceTables) {k : Kind} (id : Id k) : Except Response (Obj k) :=
  lookup_as k.id_name t id

/-- An optional id. -/
def lookup_option (t : ResourceTables) {k : Kind} :
    Option (Id k) → Except Response (Option (Obj k))
  | none => .ok none
  | some id => (lookup t id).map some

/-- `lookup_image_copy_buffer`. -/
def lookup_image_copy_buffer (t : ResourceTables) (src : ImageCopyBuffer) :
    Except Response (Wgpu.TexelCopyBufferInfo Obj) := do
  let buffer ← lookup t src.buffer
  return { buffer, layout := src.layout }

/-- `lookup_image_copy_texture`. -/
def lookup_image_copy_texture (t : ResourceTables) (src : ImageCopyTexture) :
    Except Response (Wgpu.TexelCopyTextureInfo Obj) := do
  let texture ← lookup t src.texture
  return { texture, mip_level := src.mip_level, origin := src.origin, aspect := src.aspect }

/-! ## Commands -/

/-- A call on the encoder, or on the pass open on it. -/
def encode (encoder : Occ) (call : EncoderCall Obj) : Dispatch Unit := do
  let _ ← issue (.encode encoder call)
  return ()

/-- The scope of a pass. Dropping the pass ends it, on an early return as well. -/
def with_pass (encoder : Occ) (opening closing : EncoderCall Obj) (body : Dispatch Unit) :
    Dispatch Unit := do
  encode encoder opening
  ExceptT.mk (body.run >>= fun r => (encode encoder closing).run >>= fun _ => pure r)

/-- The slice a call is made on or given. The source takes it right before the
call, under the same guard, so that a panic of `Buffer::slice` is one of the
call's own (`InRange` is when there is none). -/
def slice_of : Call → Option (Wgpu.BufferSlice Obj)
  | .map_async s | .get_mapped_range s => some s
  | .encode _ (.render (.set_vertex_buffer _ s)) => some s
  | .encode _ (.render (.set_index_buffer s _)) => some s
  | _ => none

/-- The slice is not empty and ends within its buffer; `size` is what wgpu has
kept as the size of each buffer. `Buffer::slice` panics on any other. -/
def InRange (size : Obj .Buffer → BufferAddress) (s : Wgpu.BufferSlice Obj) : Prop :=
  s.start < s.stop.getD (size s.buffer) ∧ s.stop.getD (size s.buffer) ≤ size s.buffer

instance (size : Obj .Buffer → BufferAddress) (s : Wgpu.BufferSlice Obj) :
    Decidable (InRange size s) := inferInstanceAs (Decidable (_ ∧ _))

/-- `b.slice(offset..offset + s)`, or `b.slice(offset..)` without a size: the
addition is made here, the range is checked at the call (`slice_of`). -/
def slice (b : Obj .Buffer) (offset : BufferAddress) :
    Option BufferAddress → Dispatch (Wgpu.BufferSlice Obj)
  | some s => do
      let stop ← add offset s
      return ⟨b, offset, some stop⟩
  | none => return ⟨b, offset, none⟩

/-- `replay_compute_command`. -/
def replay_compute_command (t : ResourceTables) (pass : Occ) : ComputeCommand → Dispatch Unit
  | .SetPipeline id => do
      let p ← attempt (lookup t id)
      encode pass (.compute (.set_pipeline p))
  | .SetBindGroup index group offsets => do
      let g ← attempt (lookup t group)
      encode pass (.compute (.set_bind_group index g offsets))
  | .SetPushConstants offset data =>
      encode pass (.compute (.set_push_constants offset data))
  | .DispatchWorkgroups x y z =>
      encode pass (.compute (.dispatch_workgroups x y z))
  | .DispatchWorkgroupsIndirect indirect_buffer indirect_offset => do
      let b ← attempt (lookup t indirect_buffer)
      encode pass (.compute (.dispatch_workgroups_indirect b indirect_offset))

/-- `replay_render_command`. -/
def replay_render_command (t : ResourceTables) (pass : Occ) : RenderCommand → Dispatch Unit
  | .SetPipeline id => do
      let p ← attempt (lookup t id)
      encode pass (.render (.set_pipeline p))
  | .SetBindGroup index group offsets => do
      let g ← attempt (lookup t group)
      encode pass (.render (.set_bind_group index g offsets))
  | .SetVertexBuffer slot buffer offset size => do
      let b ← attempt (lookup t buffer)
      let slice ← slice b offset size
      encode pass (.render (.set_vertex_buffer slot slice))
  | .SetIndexBuffer buffer format offset size => do
      let b ← attempt (lookup t buffer)
      let slice ← slice b offset size
      encode pass (.render (.set_index_buffer slice format))
  | .Draw vertices instances =>
      encode pass (.render (.draw vertices instances))
  | .DrawIndexed indices base_vertex instances =>
      encode pass (.render (.draw_indexed indices base_vertex instances))

/-- `for c in commands { self.replay_*_command(tables, &mut pass, c)?; }` -/
def for_each {α : Type} (f : α → Dispatch Unit) : List α → Dispatch Unit
  | [] => return ()
  | c :: commands => do
      f c
      for_each f commands

/-- One color attachment, if the slot is used. -/
def color_attachment (t : ResourceTables) :
    Option RenderPassColorAttachment →
    Except Response (Option (Wgpu.RenderPassColorAttachment Obj))
  | none => .ok none
  | some att => do
      let view ← lookup t att.view
      let resolve ← lookup_option t att.resolve_target
      return some
        { view, depth_slice := att.depth_slice, resolve_target := resolve, ops := att.ops }

/-- The depth attachment, if there is one. -/
def depth_attachment (t : ResourceTables) :
    Option RenderPassDepthStencilAttachment →
    Except Response (Option (Wgpu.RenderPassDepthStencilAttachment Obj))
  | none => .ok none
  | some att => do
      let view ← lookup t att.view
      return some { view, depth_ops := att.depth_ops, stencil_ops := att.stencil_ops }

/-- `replay_encoder_command`. -/
def replay_encoder_command (t : ResourceTables) (encoder : Occ) : EncoderCommand → Dispatch Unit
  | .CopyBufferToBuffer source source_offset destination destination_offset size => do
      let src ← attempt (lookup t source)
      let dst ← attempt (lookup t destination)
      encode encoder (.copy_buffer_to_buffer src source_offset dst destination_offset size)
  | .ClearBuffer buffer offset size => do
      let b ← attempt (lookup t buffer)
      encode encoder (.clear_buffer b offset size)
  | .BeginComputePass label commands =>
      with_pass encoder (.begin_compute_pass label) .end_compute_pass
        (for_each (replay_compute_command t encoder) commands)
  | .CopyBufferToTexture source destination copy_size => do
      let src ← attempt (lookup_image_copy_buffer t source)
      let dst ← attempt (lookup_image_copy_texture t destination)
      encode encoder (.copy_buffer_to_texture src dst copy_size)
  | .CopyTextureToBuffer source destination copy_size => do
      let src ← attempt (lookup_image_copy_texture t source)
      let dst ← attempt (lookup_image_copy_buffer t destination)
      encode encoder (.copy_texture_to_buffer src dst copy_size)
  | .BeginRenderPass label color_attachments depth_stencil_attachment commands => do
      let color_atts ← attempt (color_attachments.mapM (color_attachment t))
      let depth_att ← attempt (depth_attachment t depth_stencil_attachment)
      with_pass encoder
        (.begin_render_pass
          { label, color_attachments := color_atts, depth_stencil_attachment := depth_att })
        .end_render_pass
        (for_each (replay_render_command t encoder) commands)

/-- `replay_recording`. The encoder is made before the tables are locked and
finished after they are released. -/
def replay_recording (recording : CommandBufferRecording) : Dispatch Wgpu.CommandBuffer := do
  let encoder ← issue (.create_command_encoder recording.label)
  with_tables fun t => for_each (replay_encoder_command t encoder.made) recording.commands
  let command_buffer ← issue (.finish encoder.made)
  return ⟨command_buffer.made⟩

/-- The loop of `submit`: decode and replay each recording. -/
def replay_recordings : List Bytes → Dispatch (List Wgpu.CommandBuffer)
  | [] => return []
  | raw :: recordings => do
      let recording ←
        match CommandBufferRecording.decode raw with
        | .ok r => pure r
        | .error e =>
            attempt (.error
              (.Error .InvalidArgument
                ("recording decode failed: " ++ WgpuTypes.decode_error_text e)))
      let cb ← replay_recording recording
      let command_buffers ← replay_recordings recordings
      return cb :: command_buffers

/-- `submit`. -/
def submit (recordings : List Bytes) : Dispatch Response := do
  let command_buffers ← replay_recordings recordings
  let _ ← issue (.submit command_buffers)
  return .Ok

end Replay

end WgpuRemote.Server
