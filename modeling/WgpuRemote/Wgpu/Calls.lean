/-
The wgpu calls a recording stands for.

A recording nests the commands of a pass inside the pass. Flattened out it is a
sequence of calls on one wgpu encoder, over ids: what the client recorded and
what the server is to call are both read against this sequence.
-/
import WgpuRemote.Wgpu.Api

set_option autoImplicit false

namespace WgpuRemote

open Wgpu (EncoderCall ComputePassCall RenderPassCall)

section Calls

variable [WgpuTypes]

/-- The end of a buffer range given by offset and size. -/
def range_end (offset : BufferAddress) (size : Option BufferAddress) : Option BufferAddress :=
  size.map fun s => offset + s

def ComputeCommand.call : ComputeCommand → ComputePassCall Id
  | .SetPipeline p => .set_pipeline p
  | .SetBindGroup index group offsets => .set_bind_group index group offsets
  | .SetPushConstants offset data => .set_push_constants offset data
  | .DispatchWorkgroups x y z => .dispatch_workgroups x y z
  | .DispatchWorkgroupsIndirect buffer offset => .dispatch_workgroups_indirect buffer offset

def RenderCommand.call : RenderCommand → RenderPassCall Id
  | .SetPipeline p => .set_pipeline p
  | .SetBindGroup index group offsets => .set_bind_group index group offsets
  | .SetVertexBuffer slot buffer offset size =>
      .set_vertex_buffer slot ⟨buffer, offset, range_end offset size⟩
  | .SetIndexBuffer buffer format offset size =>
      .set_index_buffer ⟨buffer, offset, range_end offset size⟩ format
  | .Draw vertices instances => .draw vertices instances
  | .DrawIndexed indices base_vertex instances => .draw_indexed indices base_vertex instances

def ImageCopyBuffer.info (b : ImageCopyBuffer) : Wgpu.TexelCopyBufferInfo Id where
  buffer := b.buffer
  layout := b.layout

def ImageCopyTexture.info (x : ImageCopyTexture) : Wgpu.TexelCopyTextureInfo Id where
  texture := x.texture
  mip_level := x.mip_level
  origin := x.origin
  aspect := x.aspect

def RenderPassColorAttachment.info (a : RenderPassColorAttachment) :
    Wgpu.RenderPassColorAttachment Id where
  view := a.view
  depth_slice := a.depth_slice
  resolve_target := a.resolve_target
  ops := a.ops

def RenderPassDepthStencilAttachment.info (a : RenderPassDepthStencilAttachment) :
    Wgpu.RenderPassDepthStencilAttachment Id where
  view := a.view
  depth_ops := a.depth_ops
  stencil_ops := a.stencil_ops

/-- The descriptor of a recorded render pass. -/
def pass_info (label : Option String) (color : List (Option RenderPassColorAttachment))
    (depth : Option RenderPassDepthStencilAttachment) : Wgpu.RenderPassDescriptor Id where
  label := label
  color_attachments := color.map fun a => a.map RenderPassColorAttachment.info
  depth_stencil_attachment := depth.map RenderPassDepthStencilAttachment.info

/-- The calls of an encoder command, those of a nested pass between its ends. -/
def EncoderCommand.calls : EncoderCommand → List (EncoderCall Id)
  | .CopyBufferToBuffer source source_offset destination destination_offset size =>
      [.copy_buffer_to_buffer source source_offset destination destination_offset size]
  | .CopyBufferToTexture source destination copy_size =>
      [.copy_buffer_to_texture source.info destination.info copy_size]
  | .CopyTextureToBuffer source destination copy_size =>
      [.copy_texture_to_buffer source.info destination.info copy_size]
  | .ClearBuffer buffer offset size => [.clear_buffer buffer offset size]
  | .BeginComputePass label commands =>
      .begin_compute_pass label ::
        ((commands.map fun c => .compute c.call) ++ [.end_compute_pass])
  | .BeginRenderPass label color depth commands =>
      .begin_render_pass (pass_info label color depth) ::
        ((commands.map fun c => .render c.call) ++ [.end_render_pass])

def CommandBufferRecording.calls (r : CommandBufferRecording) : List (EncoderCall Id) :=
  r.commands.flatMap EncoderCommand.calls

end Calls

end WgpuRemote
