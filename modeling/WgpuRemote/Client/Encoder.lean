/-
`client::encoder` and the drop-in's command encoder: two recorders.

The calls an application makes on an encoder and its passes are one flat
sequence (`EncoderOp`), generic in the handles it passes. The facade's encoder
lends itself to the pass that is open, so nothing else can be called until the
pass is dropped, and a pass appends its commands to the encoder when it is. The
drop-in's passes share the encoder's recording and append to it when they are
dropped, whatever else happens in between.

A call that a recorder does not offer, or refuses (the borrow checker for the
facade, a panic for the drop-in), has no next state.
-/
import WgpuRemote.Lib.Transition
import WgpuRemote.Client.Handles
import WgpuRemote.Wgpu.Api

set_option autoImplicit false

namespace WgpuRemote.Client

open Bincode

section Encoder

variable [WgpuTypes]

/-! ## Calls -/

section Ops

variable (R : Kind → Type)

inductive ComputePassOp where
  | set_pipeline (pipeline : R .ComputePipeline)
  | set_bind_group (index : UInt32) (group : R .BindGroup) (offsets : List UInt32)
  | dispatch_workgroups (x y z : UInt32)
  | dispatch_workgroups_indirect (indirect_buffer : R .Buffer) (indirect_offset : BufferAddress)

inductive RenderPassOp where
  | set_pipeline (pipeline : R .RenderPipeline)
  | set_bind_group (index : UInt32) (group : R .BindGroup) (offsets : List UInt32)
  | set_vertex_buffer (slot : UInt32) (buffer : R .Buffer) (offset : BufferAddress)
      (size : Option BufferAddress)
  | set_index_buffer (buffer : R .Buffer) (format : IndexFormat) (offset : BufferAddress)
      (size : Option BufferAddress)
  | draw (vertices instances : Range)
  | draw_indexed (indices : Range) (base_vertex : Int32) (instances : Range)

/-- A call on an encoder or on the pass of it in front. A copy without a size
copies to the end of its source. -/
inductive EncoderOp where
  | copy_buffer_to_buffer (source : R .Buffer) (source_offset : BufferAddress)
      (destination : R .Buffer) (destination_offset : BufferAddress)
      (copy_size : Option BufferAddress)
  | clear_buffer (buffer : R .Buffer) (offset : BufferAddress) (size : Option BufferAddress)
  | copy_texture_to_buffer (source : Wgpu.TexelCopyTextureInfo R)
      (destination : Wgpu.TexelCopyBufferInfo R) (copy_size : Extent3d)
  | begin_compute_pass (label : Option String)
  | compute (op : ComputePassOp R)
  | end_compute_pass
  | begin_render_pass (desc : Wgpu.RenderPassDescriptor R)
  | render (op : RenderPassOp R)
  | end_render_pass

end Ops

section Map

variable {R S : Kind → Type} (f : ∀ k, R k → S k)

def ComputePassOp.map : ComputePassOp R → ComputePassOp S
  | .set_pipeline pipeline => .set_pipeline (f _ pipeline)
  | .set_bind_group index group offsets => .set_bind_group index (f _ group) offsets
  | .dispatch_workgroups x y z => .dispatch_workgroups x y z
  | .dispatch_workgroups_indirect buffer offset => .dispatch_workgroups_indirect (f _ buffer) offset

def RenderPassOp.map : RenderPassOp R → RenderPassOp S
  | .set_pipeline pipeline => .set_pipeline (f _ pipeline)
  | .set_bind_group index group offsets => .set_bind_group index (f _ group) offsets
  | .set_vertex_buffer slot buffer offset size => .set_vertex_buffer slot (f _ buffer) offset size
  | .set_index_buffer buffer format offset size => .set_index_buffer (f _ buffer) format offset size
  | .draw vertices instances => .draw vertices instances
  | .draw_indexed indices base_vertex instances => .draw_indexed indices base_vertex instances

def EncoderOp.map : EncoderOp R → EncoderOp S
  | .copy_buffer_to_buffer source source_offset destination destination_offset copy_size =>
      .copy_buffer_to_buffer (f _ source) source_offset (f _ destination) destination_offset
        copy_size
  | .clear_buffer buffer offset size => .clear_buffer (f _ buffer) offset size
  | .copy_texture_to_buffer source destination copy_size =>
      .copy_texture_to_buffer (source.map f) (destination.map f) copy_size
  | .begin_compute_pass label => .begin_compute_pass label
  | .compute op => .compute (op.map f)
  | .end_compute_pass => .end_compute_pass
  | .begin_render_pass desc => .begin_render_pass (desc.map f)
  | .render op => .render (op.map f)
  | .end_render_pass => .end_render_pass

end Map

/-! ## Passes -/

/-- A pass that has been opened and not yet dropped, with what it will append. -/
inductive OpenPass where
  | compute (label : Option String) (commands : List ComputeCommand)
  | render (label : Option String) (color_attachments : List (Option RenderPassColorAttachment))
      (depth_stencil_attachment : Option RenderPassDepthStencilAttachment)
      (commands : List RenderCommand)

/-- `Drop`: the pass and its commands as one command of the encoder. -/
def OpenPass.flush : OpenPass → EncoderCommand
  | .compute label commands => .BeginComputePass label commands
  | .render label color_attachments depth_stencil_attachment commands =>
      .BeginRenderPass label color_attachments depth_stencil_attachment commands

inductive PassKind where
  | compute
  | render
deriving DecidableEq

/-- Which pass is open after a call, in a sequence whose passes neither overlap
nor contain calls on the encoder. -/
def nest {R : Kind → Type} : Option PassKind → EncoderOp R → Option (Option PassKind)
  | none, .copy_buffer_to_buffer _ _ _ _ _ => some none
  | none, .clear_buffer _ _ _ => some none
  | none, .copy_texture_to_buffer _ _ _ => some none
  | none, .begin_compute_pass _ => some (some .compute)
  | none, .begin_render_pass _ => some (some .render)
  | some .compute, .compute _ => some (some .compute)
  | some .compute, .end_compute_pass => some none
  | some .render, .render _ => some (some .render)
  | some .render, .end_render_pass => some none
  | _, _ => none

/-- The passes of the sequence do not overlap and all end. -/
def WellNested {R : Kind → Type} (ops : List (EncoderOp R)) : Prop :=
  Transition.run nest none ops = some none

/-! ## The facade's encoder -/

structure FacadeEncoder where
  label : Option String
  commands : List EncoderCommand
  /-- The pass that has borrowed the encoder. -/
  pass : Option OpenPass

namespace FacadeEncoder

def new (label : Option String) : FacadeEncoder := ⟨label, [], none⟩

def push (s : FacadeEncoder) (c : EncoderCommand) : FacadeEncoder :=
  { s with commands := s.commands ++ [c] }

/-- `ColorAttachment`, with ids. -/
def color_attachment (att : Wgpu.RenderPassColorAttachment Handle) : RenderPassColorAttachment where
  view := att.view.id
  depth_slice := att.depth_slice
  resolve_target := att.resolve_target.map Handle.id
  ops := att.ops

/-- `DepthStencilAttachment`, with ids. -/
def depth_attachment (att : Wgpu.RenderPassDepthStencilAttachment Handle) :
    RenderPassDepthStencilAttachment where
  view := att.view.id
  depth_ops := att.depth_ops
  stencil_ops := att.stencil_ops

/-- The methods of `ComputePass`, which has no indirect dispatch. -/
def compute_command : ComputePassOp Handle → Option ComputeCommand
  | .set_pipeline pipeline => some (.SetPipeline pipeline.id)
  | .set_bind_group index group offsets => some (.SetBindGroup index group.id offsets)
  | .dispatch_workgroups x y z => some (.DispatchWorkgroups x y z)
  | .dispatch_workgroups_indirect _ _ => none

/-- The methods of `RenderPass`. -/
def render_command : RenderPassOp Handle → RenderCommand
  | .set_pipeline pipeline => .SetPipeline pipeline.id
  | .set_bind_group index group offsets => .SetBindGroup index group.id offsets
  | .set_vertex_buffer slot buffer offset size => .SetVertexBuffer slot buffer.id offset size
  | .set_index_buffer buffer format offset size => .SetIndexBuffer buffer.id format offset size
  | .draw vertices instances => .Draw vertices instances
  | .draw_indexed indices base_vertex instances => .DrawIndexed indices base_vertex instances

/-- One call. With a pass open, only the pass can be called. -/
def step (s : FacadeEncoder) (op : EncoderOp Handle) : Option FacadeEncoder :=
  match s.pass, op with
  | none, .copy_buffer_to_buffer source source_offset destination destination_offset (some size) =>
      some (s.push
        (.CopyBufferToBuffer source.id source_offset destination.id destination_offset size))
  | none, .clear_buffer buffer offset size => some (s.push (.ClearBuffer buffer.id offset size))
  | none, .copy_texture_to_buffer source destination copy_size =>
      some (s.push
        (.CopyTextureToBuffer
          { texture := source.texture.id, mip_level := source.mip_level, origin := source.origin
            aspect := source.aspect }
          { buffer := destination.buffer.id, layout := destination.layout } copy_size))
  | none, .begin_compute_pass label => some { s with pass := some (.compute label []) }
  | none, .begin_render_pass desc =>
      some { s with
        pass := some (.render desc.label
          (desc.color_attachments.map fun maybe => maybe.map color_attachment)
          (desc.depth_stencil_attachment.map depth_attachment) []) }
  | some (.compute label commands), .compute op => do
      let c ← compute_command op
      some { s with pass := some (.compute label (commands ++ [c])) }
  | some (.compute label commands), .end_compute_pass =>
      some { s.push (OpenPass.compute label commands).flush with pass := none }
  | some (.render label color depth commands), .render op =>
      some { s with pass := some (.render label color depth (commands ++ [render_command op])) }
  | some (.render label color depth commands), .end_render_pass =>
      some { s.push (OpenPass.render label color depth commands).flush with pass := none }
  | _, _ => none

/-- `finish`, which no open pass may borrow the encoder from. -/
def finish (s : FacadeEncoder) : Option CommandBufferRecording :=
  match s.pass with
  | none => some { label := s.label, commands := s.commands }
  | some _ => none

/-- The recording of a whole sequence of calls. -/
def record (label : Option String) (ops : List (EncoderOp Handle)) :
    Option CommandBufferRecording :=
  (Transition.run step (new label) ops).bind finish

end FacadeEncoder

/-! ## The drop-in's encoder -/

/-- The shared recording, and the passes that will append to it. The one in front
is called: it was opened last, or turned to since. -/
structure DropinEncoder where
  recording : CommandBufferRecording
  passes : List OpenPass

namespace DropinEncoder

def new (label : Option String) : DropinEncoder := ⟨{ label, commands := [] }, []⟩

/-- `EncoderInner::push`. -/
def push (s : DropinEncoder) (c : EncoderCommand) : DropinEncoder :=
  { s with recording := { s.recording with commands := s.recording.commands ++ [c] } }

/-- A color attachment with ids; panics on a foreign view. -/
def color_attachment (att : Wgpu.RenderPassColorAttachment Wrapped) :
    Option RenderPassColorAttachment := do
  let view ← att.view.as_custom
  let resolve_target ←
    match att.resolve_target with
    | none => some none
    | some v => v.as_custom.map some
  return { view := view.id, depth_slice := att.depth_slice
           resolve_target := resolve_target.map Handle.id, ops := att.ops }

/-- An optional color attachment. -/
def color_slot : Option (Wgpu.RenderPassColorAttachment Wrapped) →
    Option (Option RenderPassColorAttachment)
  | none => some none
  | some att => (color_attachment att).map some

/-- An optional depth attachment. -/
def depth_slot : Option (Wgpu.RenderPassDepthStencilAttachment Wrapped) →
    Option (Option RenderPassDepthStencilAttachment)
  | none => some none
  | some att => do
      let view ← att.view.as_custom
      return some { view := view.id, depth_ops := att.depth_ops, stencil_ops := att.stencil_ops }

/-- `ComputePassInterface`. -/
def compute_command : ComputePassOp Wrapped → Option ComputeCommand
  | .set_pipeline pipeline => do
      let p ← pipeline.as_custom
      return .SetPipeline p.id
  | .set_bind_group index group offsets => do
      let bg ← group.as_custom
      return .SetBindGroup index bg.id offsets
  | .dispatch_workgroups x y z => some (.DispatchWorkgroups x y z)
  | .dispatch_workgroups_indirect indirect_buffer indirect_offset => do
      let buf ← indirect_buffer.as_custom
      return .DispatchWorkgroupsIndirect buf.id indirect_offset

/-- `size.map(|s| s.get())` for a size that is a `NonZeroU64` on this interface. -/
def non_zero_size : Option BufferAddress → Option (Option BufferAddress)
  | none => some none
  | some s => if s = 0 then none else some (some s)

/-- `RenderPassInterface`. -/
def render_command : RenderPassOp Wrapped → Option RenderCommand
  | .set_pipeline pipeline => do
      let p ← pipeline.as_custom
      return .SetPipeline p.id
  | .set_bind_group index group offsets => do
      let bg ← group.as_custom
      return .SetBindGroup index bg.id offsets
  | .set_vertex_buffer slot buffer offset size => do
      let size ← non_zero_size size
      let buf ← buffer.as_custom
      return .SetVertexBuffer slot buf.id offset size
  | .set_index_buffer buffer format offset size => do
      let size ← non_zero_size size
      let buf ← buffer.as_custom
      return .SetIndexBuffer buf.id format offset size
  | .draw vertices instances => some (.Draw vertices instances)
  | .draw_indexed indices base_vertex instances =>
      some (.DrawIndexed indices base_vertex instances)

/-- One call. The encoder can be called with passes open. -/
def step (s : DropinEncoder) : EncoderOp Wrapped → Option DropinEncoder
  | .copy_buffer_to_buffer source source_offset destination destination_offset copy_size => do
      let src ← source.as_custom
      let dst ← destination.as_custom
      let size := copy_size.getD (saturating_sub src.size source_offset)
      return s.push (.CopyBufferToBuffer src.id source_offset dst.id destination_offset size)
  | .clear_buffer buffer offset size => do
      let buf ← buffer.as_custom
      return s.push (.ClearBuffer buf.id offset size)
  | .copy_texture_to_buffer source destination copy_size => do
      let tex ← source.texture.as_custom
      let buf ← destination.buffer.as_custom
      return s.push
        (.CopyTextureToBuffer
          { texture := tex.id, mip_level := source.mip_level, origin := source.origin
            aspect := source.aspect }
          { buffer := buf.id, layout := destination.layout } copy_size)
  | .begin_compute_pass label => some { s with passes := .compute label [] :: s.passes }
  | .begin_render_pass desc => do
      let color_attachments ← desc.color_attachments.mapM color_slot
      let depth_stencil_attachment ← depth_slot desc.depth_stencil_attachment
      return { s with
        passes := .render desc.label color_attachments depth_stencil_attachment [] :: s.passes }
  | .compute op =>
      match s.passes with
      | .compute label commands :: rest => do
          let c ← compute_command op
          return { s with passes := .compute label (commands ++ [c]) :: rest }
      | _ => none
  | .end_compute_pass =>
      match s.passes with
      | .compute label commands :: rest =>
          some { s.push (OpenPass.compute label commands).flush with passes := rest }
      | _ => none
  | .render op =>
      match s.passes with
      | .render label color depth commands :: rest => do
          let c ← render_command op
          return { s with passes := .render label color depth (commands ++ [c]) :: rest }
      | _ => none
  | .end_render_pass =>
      match s.passes with
      | .render label color depth commands :: rest =>
          some { s.push (OpenPass.render label color depth commands).flush with passes := rest }
      | _ => none

/-- The application goes on with another open pass of the encoder, which comes to
the front. Every pass owns its commands: the order of the passes says only which
of them is called next. -/
def turn_to (s : DropinEncoder) (pass : ℕ) : Option DropinEncoder := do
  let front ← s.passes[pass]?
  return { s with passes := front :: s.passes.eraseIdx pass }

/-- `finish` takes the recording as it stands: a pass still open is not in it. -/
def finish (s : DropinEncoder) : CommandBufferRecording := s.recording

/-- The recording of a whole sequence of calls. -/
def record (label : Option String) (ops : List (EncoderOp Wrapped)) :
    Option CommandBufferRecording :=
  (Transition.run step (new label) ops).map finish

end DropinEncoder

/-! ## What the recorders offer -/

/-- The handle as the drop-in gets it. -/
def wrap (k : Kind) (h : Handle k) : Wrapped k := ⟨some h⟩

/-- The copy with its size spelled out. -/
def EncoderOp.with_size : EncoderOp Handle → EncoderOp Handle
  | .copy_buffer_to_buffer source source_offset destination destination_offset copy_size =>
      .copy_buffer_to_buffer source source_offset destination destination_offset
        (some (copy_size.getD (saturating_sub source.size source_offset)))
  | op => op

/-- The drop-in takes no zero-sized buffer ranges: their type excludes them. -/
def EncoderOp.sizes_non_zero : EncoderOp Handle → Prop
  | .render (.set_vertex_buffer _ _ _ size) => size ≠ some 0
  | .render (.set_index_buffer _ _ _ size) => size ≠ some 0
  | _ => True

/-- The facade has no indirect dispatch. -/
def EncoderOp.is_direct : EncoderOp Handle → Prop
  | .compute (.dispatch_workgroups_indirect _ _) => False
  | _ => True

end Encoder

end WgpuRemote.Client
