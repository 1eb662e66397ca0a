/-
`protocol::commands`: the command-buffer recording format.

A recorded command buffer is a list of encoder commands; the commands of a pass
are nested inside its `Begin*Pass` variant. A recording travels inside
`Action::Submit` as a byte string of its own, so it has its own `encode` and
`decode`.
-/
import WgpuRemote.Protocol.Descriptors

set_option autoImplicit false

namespace WgpuRemote

open Bincode

/-- `std::ops::Range<u32>`. -/
structure Range where
  start : UInt32
  stop : UInt32
deriving DecidableEq, Repr

section Commands

variable [WgpuTypes]

structure ImageCopyBuffer where
  buffer : BufferId
  layout : TexelCopyBufferLayout

structure ImageCopyTexture where
  texture : TextureId
  mip_level : UInt32
  origin : Origin3d
  aspect : TextureAspect

structure RenderPassColorAttachment where
  view : TextureViewId
  depth_slice : Option UInt32
  resolve_target : Option TextureViewId
  ops : ColorOperations

structure RenderPassDepthStencilAttachment where
  view : TextureViewId
  depth_ops : Option DepthOperations
  stencil_ops : Option StencilOperations

inductive ComputeCommand where
  | SetPipeline (pipeline : ComputePipelineId)
  | SetBindGroup (index : UInt32) (group : BindGroupId) (offsets : List UInt32)
  | SetPushConstants (offset : UInt32) (data : Bytes)
  | DispatchWorkgroups (x y z : UInt32)
  | DispatchWorkgroupsIndirect (indirect_buffer : BufferId) (indirect_offset : BufferAddress)

inductive RenderCommand where
  | SetPipeline (pipeline : RenderPipelineId)
  | SetBindGroup (index : UInt32) (group : BindGroupId) (offsets : List UInt32)
  | SetVertexBuffer (slot : UInt32) (buffer : BufferId) (offset : BufferAddress)
      (size : Option BufferAddress)
  | SetIndexBuffer (buffer : BufferId) (format : IndexFormat) (offset : BufferAddress)
      (size : Option BufferAddress)
  | Draw (vertices instances : Range)
  | DrawIndexed (indices : Range) (base_vertex : Int32) (instances : Range)

inductive EncoderCommand where
  | CopyBufferToBuffer (source : BufferId) (source_offset : BufferAddress)
      (destination : BufferId) (destination_offset : BufferAddress) (size : BufferAddress)
  | CopyBufferToTexture (source : ImageCopyBuffer) (destination : ImageCopyTexture)
      (copy_size : Extent3d)
  | CopyTextureToBuffer (source : ImageCopyTexture) (destination : ImageCopyBuffer)
      (copy_size : Extent3d)
  | ClearBuffer (buffer : BufferId) (offset : BufferAddress) (size : Option BufferAddress)
  | BeginComputePass (label : Option String) (commands : List ComputeCommand)
  | BeginRenderPass (label : Option String)
      (color_attachments : List (Option RenderPassColorAttachment))
      (depth_stencil_attachment : Option RenderPassDepthStencilAttachment)
      (commands : List RenderCommand)

/-- One recorded command buffer. -/
structure CommandBufferRecording where
  label : Option String
  commands : List EncoderCommand

/-! ## What a recording mentions -/

/-- The ids a compute command mentions. -/
def ComputeCommand.refs : ComputeCommand → List Ref
  | .SetPipeline p => [p.ref]
  | .SetBindGroup _ g _ => [g.ref]
  | .SetPushConstants _ _ => []
  | .DispatchWorkgroups _ _ _ => []
  | .DispatchWorkgroupsIndirect b _ => [b.ref]

/-- The ids a render command mentions. -/
def RenderCommand.refs : RenderCommand → List Ref
  | .SetPipeline p => [p.ref]
  | .SetBindGroup _ g _ => [g.ref]
  | .SetVertexBuffer _ b _ _ => [b.ref]
  | .SetIndexBuffer b _ _ _ => [b.ref]
  | .Draw _ _ => []
  | .DrawIndexed _ _ _ => []

/-- The views a color attachment mentions: its own, then its resolve target. -/
def RenderPassColorAttachment.refs (att : RenderPassColorAttachment) : List Ref :=
  att.view.ref :: (att.resolve_target.map Id.ref).toList

/-- The views the attachments of a render pass mention. -/
def attachment_refs (color : List (Option RenderPassColorAttachment))
    (depth : Option RenderPassDepthStencilAttachment) : List Ref :=
  (color.flatMap fun a => a.elim [] RenderPassColorAttachment.refs) ++
    (depth.map fun a => a.view.ref).toList

/-- The ids an encoder command mentions, those of a nested pass included. -/
def EncoderCommand.refs : EncoderCommand → List Ref
  | .CopyBufferToBuffer s _ d _ _ => [s.ref, d.ref]
  | .CopyBufferToTexture s d _ => [s.buffer.ref, d.texture.ref]
  | .CopyTextureToBuffer s d _ => [s.texture.ref, d.buffer.ref]
  | .ClearBuffer b _ _ => [b.ref]
  | .BeginComputePass _ cmds => cmds.flatMap ComputeCommand.refs
  | .BeginRenderPass _ color depth cmds =>
      attachment_refs color depth ++ cmds.flatMap RenderCommand.refs

/-- The ids a recording mentions, in the order the commands mention them. -/
def CommandBufferRecording.refs (r : CommandBufferRecording) : List Ref :=
  r.commands.flatMap EncoderCommand.refs

/-! ## Wire format -/

namespace Wire

def range : Codec Range :=
  (Codec.u32.seq Codec.u32).map (fun ⟨a, b⟩ => ⟨a, b⟩) (fun r => (r.start, r.stop)) (fun _ => rfl)

def image_copy_buffer : Codec ImageCopyBuffer :=
  ((id .Buffer).seq TexelCopyBufferLayout.codec).map
    (fun ⟨a, b⟩ => ⟨a, b⟩) (fun i => (i.buffer, i.layout)) (fun _ => rfl)

def image_copy_texture : Codec ImageCopyTexture :=
  ((id .Texture).seq <| Codec.u32.seq <| Origin3d.codec.seq TextureAspect.codec).map
    (fun ⟨a, b, c, d⟩ => ⟨a, b, c, d⟩) (fun i => (i.texture, i.mip_level, i.origin, i.aspect))
    (fun _ => rfl)

def color_attachment : Codec RenderPassColorAttachment :=
  ((id .TextureView).seq <| Codec.u32.option.seq <| (id .TextureView).option.seq
    ColorOperations.codec).map
    (fun ⟨a, b, c, d⟩ => ⟨a, b, c, d⟩)
    (fun a => (a.view, a.depth_slice, a.resolve_target, a.ops)) (fun _ => rfl)

def depth_stencil_attachment : Codec RenderPassDepthStencilAttachment :=
  ((id .TextureView).seq <| DepthOperations.codec.option.seq
    StencilOperations.codec.option).map
    (fun ⟨a, b, c⟩ => ⟨a, b, c⟩) (fun a => (a.view, a.depth_ops, a.stencil_ops)) (fun _ => rfl)

/-- Fields shared by the two `SetBindGroup` variants. -/
def set_bind_group : Codec (UInt32 × BindGroupId × List UInt32) :=
  Codec.u32.seq <| (id .BindGroup).seq Codec.u32.list

def compute_command : Codec ComputeCommand :=
  Codec.variants
    [ { fields := id .ComputePipeline, make := .SetPipeline
        view := fun | .SetPipeline p => some p | _ => none },
      { fields := set_bind_group, make := fun ⟨i, g, o⟩ => .SetBindGroup i g o
        view := fun | .SetBindGroup i g o => some (i, g, o) | _ => none },
      { fields := Codec.u32.seq Codec.bytes, make := fun ⟨o, d⟩ => .SetPushConstants o d
        view := fun | .SetPushConstants o d => some (o, d) | _ => none },
      { fields := Codec.u32.seq <| Codec.u32.seq Codec.u32
        make := fun ⟨x, y, z⟩ => .DispatchWorkgroups x y z
        view := fun | .DispatchWorkgroups x y z => some (x, y, z) | _ => none },
      { fields := (id .Buffer).seq Codec.u64
        make := fun ⟨b, o⟩ => .DispatchWorkgroupsIndirect b o
        view := fun | .DispatchWorkgroupsIndirect b o => some (b, o) | _ => none } ]
    (by simp)

def render_command : Codec RenderCommand :=
  Codec.variants
    [ { fields := id .RenderPipeline, make := .SetPipeline
        view := fun | .SetPipeline p => some p | _ => none },
      { fields := set_bind_group, make := fun ⟨i, g, o⟩ => .SetBindGroup i g o
        view := fun | .SetBindGroup i g o => some (i, g, o) | _ => none },
      { fields := Codec.u32.seq <| (id .Buffer).seq <| Codec.u64.seq Codec.u64.option
        make := fun ⟨i, b, o, s⟩ => .SetVertexBuffer i b o s
        view := fun | .SetVertexBuffer i b o s => some (i, b, o, s) | _ => none },
      { fields := (id .Buffer).seq <| IndexFormat.codec.seq <| Codec.u64.seq Codec.u64.option
        make := fun ⟨b, f, o, s⟩ => .SetIndexBuffer b f o s
        view := fun | .SetIndexBuffer b f o s => some (b, f, o, s) | _ => none },
      { fields := range.seq range, make := fun ⟨v, i⟩ => .Draw v i
        view := fun | .Draw v i => some (v, i) | _ => none },
      { fields := range.seq <| Codec.i32.seq range
        make := fun ⟨i, b, n⟩ => .DrawIndexed i b n
        view := fun | .DrawIndexed i b n => some (i, b, n) | _ => none } ]
    (by simp)

def encoder_command : Codec EncoderCommand :=
  Codec.variants
    [ { fields := (id .Buffer).seq <| Codec.u64.seq <| (id .Buffer).seq <|
          Codec.u64.seq Codec.u64
        make := fun ⟨s, so, d, d_o, n⟩ => .CopyBufferToBuffer s so d d_o n
        view := fun | .CopyBufferToBuffer s so d d_o n => some (s, so, d, d_o, n) | _ => none },
      { fields := image_copy_buffer.seq <| image_copy_texture.seq Extent3d.codec
        make := fun ⟨s, d, n⟩ => .CopyBufferToTexture s d n
        view := fun | .CopyBufferToTexture s d n => some (s, d, n) | _ => none },
      { fields := image_copy_texture.seq <| image_copy_buffer.seq Extent3d.codec
        make := fun ⟨s, d, n⟩ => .CopyTextureToBuffer s d n
        view := fun | .CopyTextureToBuffer s d n => some (s, d, n) | _ => none },
      { fields := (id .Buffer).seq <| Codec.u64.seq Codec.u64.option
        make := fun ⟨b, o, n⟩ => .ClearBuffer b o n
        view := fun | .ClearBuffer b o n => some (b, o, n) | _ => none },
      { fields := label.seq compute_command.list
        make := fun ⟨l, c⟩ => .BeginComputePass l c
        view := fun | .BeginComputePass l c => some (l, c) | _ => none },
      { fields := label.seq <| color_attachment.option.list.seq <|
          depth_stencil_attachment.option.seq render_command.list
        make := fun ⟨l, a, d, c⟩ => .BeginRenderPass l a d c
        view := fun | .BeginRenderPass l a d c => some (l, a, d, c) | _ => none } ]
    (by simp)

def recording : Codec CommandBufferRecording :=
  (label.seq encoder_command.list).map
    (fun ⟨a, b⟩ => ⟨a, b⟩) (fun r => (r.label, r.commands)) (fun _ => rfl)

end Wire

/-- `CommandBufferRecording::encode`. -/
def CommandBufferRecording.encode (r : CommandBufferRecording) : Except EncodeError Bytes :=
  Wire.recording.encode r

/-- `CommandBufferRecording::decode`: the bytes left over after the value are
dropped. -/
def CommandBufferRecording.decode (bytes : Bytes) : Except DecodeError CommandBufferRecording := do
  let (recording, _) ← Wire.recording.decode bytes
  return recording

/-- A recording is read back from its own encoding. -/
theorem CommandBufferRecording.decode_encode (r : CommandBufferRecording) (bs : Bytes)
    (h : r.encode = .ok bs) : CommandBufferRecording.decode bs = .ok r := by
  have hdec := Wire.recording.decode_encode r bs [] h
  rw [List.append_nil] at hdec
  rw [decode, hdec]
  rfl

end Commands

end WgpuRemote
