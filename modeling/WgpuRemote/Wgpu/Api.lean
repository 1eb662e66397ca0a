/-
The part of the `wgpu` API both ends talk to.

The client receives wgpu's descriptor types from the application and the server
passes the same types to the real wgpu; the only difference is what a reference
to a resource is. The types below are therefore generic in the reference type
`R : Kind → Type`: on the client a reference is a handle of the remote backend,
on the server it is an object of the real one (`Obj`).

What wgpu does with a call is not modelled. A call is recorded, and the object
it creates is named after the call (`Occ`), so that "exactly the object made by
this call" is a statement about names.
-/
import WgpuRemote.Protocol.Actions

set_option autoImplicit false

namespace WgpuRemote.Wgpu

open Bincode

/-- An occurrence of a wgpu call: the server dispatch that issued it, and how
many calls that dispatch had issued before. -/
structure Occ where
  dispatch : ℕ
  call : ℕ
deriving DecidableEq, Repr

/-- A wgpu object of one kind, named after the call that made it. Cloning a
wgpu handle gives the same object. -/
@[ext] structure Obj (k : Kind) where
  made : Occ
deriving DecidableEq, Repr

section Api

variable [WgpuTypes] (R : Kind → Type)

/-! ## Descriptors -/

structure TextureViewDescriptor where
  label : Option String
  format : Option TextureFormat
  dimension : Option TextureViewDimension
  usage : Option TextureUsages
  aspect : TextureAspect
  base_mip_level : UInt32
  mip_level_count : Option UInt32
  base_array_layer : UInt32
  array_layer_count : Option UInt32

structure BindGroupLayoutDescriptor where
  label : Option String
  entries : List BindGroupLayoutEntry

/-- `wgpu::ShaderSource` is non-exhaustive; only `Wgsl` is reachable with the
default features. -/
inductive ShaderSource where
  | Wgsl (source : String)
  | Other

structure ShaderModuleDescriptor where
  label : Option String
  source : ShaderSource

structure BufferBinding where
  buffer : R .Buffer
  offset : BufferAddress
  size : Option BufferSize

inductive BindingResource where
  | Buffer (binding : BufferBinding R)
  | BufferArray (bindings : List (BufferBinding R))
  | Sampler (sampler : R .Sampler)
  | SamplerArray (samplers : List (R .Sampler))
  | TextureView (view : R .TextureView)
  | TextureViewArray (views : List (R .TextureView))

structure BindGroupEntry where
  binding : UInt32
  resource : BindingResource R

structure BindGroupDescriptor where
  label : Option String
  layout : R .BindGroupLayout
  entries : List (BindGroupEntry R)

structure PipelineLayoutDescriptor where
  label : Option String
  bind_group_layouts : List (R .BindGroupLayout)
  push_constant_ranges : List PushConstantRange

structure PipelineCompilationOptions where
  constants : List (String × F64)
  zero_initialize_workgroup_memory : Bool
deriving DecidableEq

/-- `PipelineCompilationOptions::default()`. -/
def PipelineCompilationOptions.default : PipelineCompilationOptions where
  constants := []
  zero_initialize_workgroup_memory := true

structure VertexBufferLayout where
  array_stride : BufferAddress
  step_mode : VertexStepMode
  attributes : List VertexAttribute

structure VertexState where
  module : R .ShaderModule
  entry_point : Option String
  compilation_options : PipelineCompilationOptions
  buffers : List VertexBufferLayout

structure FragmentState where
  module : R .ShaderModule
  entry_point : Option String
  compilation_options : PipelineCompilationOptions
  targets : List (Option ColorTargetState)

/-- Without the pipeline cache: neither end can create one. -/
structure RenderPipelineDescriptor where
  label : Option String
  layout : Option (R .PipelineLayout)
  vertex : VertexState R
  primitive : PrimitiveState
  depth_stencil : Option DepthStencilState
  multisample : MultisampleState
  fragment : Option (FragmentState R)
  multiview : Option {n : UInt32 // n ≠ 0}

/-- Without the pipeline cache: neither end can create one. -/
structure ComputePipelineDescriptor where
  label : Option String
  layout : Option (R .PipelineLayout)
  module : R .ShaderModule
  entry_point : Option String
  compilation_options : PipelineCompilationOptions

/-! ## Commands -/

structure TexelCopyBufferInfo where
  buffer : R .Buffer
  layout : TexelCopyBufferLayout

structure TexelCopyTextureInfo where
  texture : R .Texture
  mip_level : UInt32
  origin : Origin3d
  aspect : TextureAspect

/-- `buffer.slice(start..stop)`, or `buffer.slice(start..)` without a stop. -/
structure BufferSlice where
  buffer : R .Buffer
  start : BufferAddress
  stop : Option BufferAddress

structure RenderPassColorAttachment where
  view : R .TextureView
  depth_slice : Option UInt32
  resolve_target : Option (R .TextureView)
  ops : ColorOperations

structure RenderPassDepthStencilAttachment where
  view : R .TextureView
  depth_ops : Option DepthOperations
  stencil_ops : Option StencilOperations

/-- Without timestamp writes and occlusion queries: query sets are not
supported on either end. -/
structure RenderPassDescriptor where
  label : Option String
  color_attachments : List (Option (RenderPassColorAttachment R))
  depth_stencil_attachment : Option (RenderPassDepthStencilAttachment R)

/-- Calls on a compute pass. -/
inductive ComputePassCall where
  | set_pipeline (pipeline : R .ComputePipeline)
  | set_bind_group (index : UInt32) (group : R .BindGroup) (offsets : List UInt32)
  | set_push_constants (offset : UInt32) (data : Bytes)
  | dispatch_workgroups (x y z : UInt32)
  | dispatch_workgroups_indirect (indirect_buffer : R .Buffer) (indirect_offset : BufferAddress)

/-- Calls on a render pass. -/
inductive RenderPassCall where
  | set_pipeline (pipeline : R .RenderPipeline)
  | set_bind_group (index : UInt32) (group : R .BindGroup) (offsets : List UInt32)
  | set_vertex_buffer (slot : UInt32) (slice : BufferSlice R)
  | set_index_buffer (slice : BufferSlice R) (format : IndexFormat)
  | draw (vertices instances : Range)
  | draw_indexed (indices : Range) (base_vertex : Int32) (instances : Range)

/-- Calls on a command encoder and its passes, as one flat sequence: a pass is
what lies between its `begin` and its `end`. -/
inductive EncoderCall where
  | copy_buffer_to_buffer (source : R .Buffer) (source_offset : BufferAddress)
      (destination : R .Buffer) (destination_offset : BufferAddress) (size : BufferAddress)
  | clear_buffer (buffer : R .Buffer) (offset : BufferAddress) (size : Option BufferAddress)
  | copy_buffer_to_texture (source : TexelCopyBufferInfo R) (destination : TexelCopyTextureInfo R)
      (copy_size : Extent3d)
  | copy_texture_to_buffer (source : TexelCopyTextureInfo R) (destination : TexelCopyBufferInfo R)
      (copy_size : Extent3d)
  | begin_compute_pass (label : Option String)
  | compute (call : ComputePassCall R)
  | end_compute_pass
  | begin_render_pass (desc : RenderPassDescriptor R)
  | render (call : RenderPassCall R)
  | end_render_pass

/-- The calls that create a resource, `Texture::create_view` among them. -/
inductive CreateCall where
  | create_buffer (desc : BufferDescriptor)
  | create_texture (desc : TextureDescriptor)
  | create_view (texture : R .Texture) (desc : TextureViewDescriptor)
  | create_sampler (desc : SamplerDescriptor)
  | create_shader_module (desc : ShaderModuleDescriptor)
  | create_bind_group_layout (desc : BindGroupLayoutDescriptor)
  | create_bind_group (desc : BindGroupDescriptor R)
  | create_pipeline_layout (desc : PipelineLayoutDescriptor R)
  | create_render_pipeline (desc : RenderPipelineDescriptor R)
  | create_compute_pipeline (desc : ComputePipelineDescriptor R)

end Api

/-! ## Replacing the references

The same descriptor or call over another kind of reference: every reference in
it replaced, everything else as it is. -/

section Map

variable [WgpuTypes] {R S : Kind → Type} (f : ∀ k, R k → S k)

def BufferBinding.map (b : BufferBinding R) : BufferBinding S where
  buffer := f _ b.buffer
  offset := b.offset
  size := b.size

def BindingResource.map : BindingResource R → BindingResource S
  | .Buffer b => .Buffer (b.map f)
  | .BufferArray bs => .BufferArray (bs.map fun b => b.map f)
  | .Sampler s => .Sampler (f _ s)
  | .SamplerArray ss => .SamplerArray (ss.map (f _))
  | .TextureView v => .TextureView (f _ v)
  | .TextureViewArray vs => .TextureViewArray (vs.map (f _))

def BindGroupEntry.map (e : BindGroupEntry R) : BindGroupEntry S where
  binding := e.binding
  resource := e.resource.map f

def BindGroupDescriptor.map (d : BindGroupDescriptor R) : BindGroupDescriptor S where
  label := d.label
  layout := f _ d.layout
  entries := d.entries.map fun e => e.map f

def PipelineLayoutDescriptor.map (d : PipelineLayoutDescriptor R) : PipelineLayoutDescriptor S where
  label := d.label
  bind_group_layouts := d.bind_group_layouts.map (f _)
  push_constant_ranges := d.push_constant_ranges

def VertexState.map (v : VertexState R) : VertexState S where
  module := f _ v.module
  entry_point := v.entry_point
  compilation_options := v.compilation_options
  buffers := v.buffers

def FragmentState.map (d : FragmentState R) : FragmentState S where
  module := f _ d.module
  entry_point := d.entry_point
  compilation_options := d.compilation_options
  targets := d.targets

def RenderPipelineDescriptor.map (d : RenderPipelineDescriptor R) : RenderPipelineDescriptor S where
  label := d.label
  layout := d.layout.map (f _)
  vertex := d.vertex.map f
  primitive := d.primitive
  depth_stencil := d.depth_stencil
  multisample := d.multisample
  fragment := d.fragment.map fun s => s.map f
  multiview := d.multiview

def ComputePipelineDescriptor.map (d : ComputePipelineDescriptor R) :
    ComputePipelineDescriptor S where
  label := d.label
  layout := d.layout.map (f _)
  module := f _ d.module
  entry_point := d.entry_point
  compilation_options := d.compilation_options

def CreateCall.map : CreateCall R → CreateCall S
  | .create_buffer desc => .create_buffer desc
  | .create_texture desc => .create_texture desc
  | .create_view texture desc => .create_view (f _ texture) desc
  | .create_sampler desc => .create_sampler desc
  | .create_shader_module desc => .create_shader_module desc
  | .create_bind_group_layout desc => .create_bind_group_layout desc
  | .create_bind_group desc => .create_bind_group (desc.map f)
  | .create_pipeline_layout desc => .create_pipeline_layout (desc.map f)
  | .create_render_pipeline desc => .create_render_pipeline (desc.map f)
  | .create_compute_pipeline desc => .create_compute_pipeline (desc.map f)

/-- The compilation options of the stages of a pipeline. -/
def CreateCall.compilation_options : CreateCall R → List PipelineCompilationOptions
  | .create_compute_pipeline desc => [desc.compilation_options]
  | .create_render_pipeline desc =>
      desc.vertex.compilation_options :: (desc.fragment.map fun s => s.compilation_options).toList
  | _ => []

/-- Replacing the references leaves the compilation options alone. -/
theorem CreateCall.compilation_options_map (c : CreateCall R) :
    (c.map f).compilation_options = c.compilation_options := by
  cases c with
  | create_render_pipeline desc =>
      change desc.vertex.compilation_options ::
        (Option.map _ (Option.map _ desc.fragment)).toList = _
      rw [Option.map_map]
      rfl
  | _ => rfl

def TexelCopyBufferInfo.map (b : TexelCopyBufferInfo R) : TexelCopyBufferInfo S where
  buffer := f _ b.buffer
  layout := b.layout

def TexelCopyTextureInfo.map (x : TexelCopyTextureInfo R) : TexelCopyTextureInfo S where
  texture := f _ x.texture
  mip_level := x.mip_level
  origin := x.origin
  aspect := x.aspect

def BufferSlice.map (b : BufferSlice R) : BufferSlice S where
  buffer := f _ b.buffer
  start := b.start
  stop := b.stop

def RenderPassColorAttachment.map (a : RenderPassColorAttachment R) :
    RenderPassColorAttachment S where
  view := f _ a.view
  depth_slice := a.depth_slice
  resolve_target := a.resolve_target.map (f _)
  ops := a.ops

def RenderPassDepthStencilAttachment.map (a : RenderPassDepthStencilAttachment R) :
    RenderPassDepthStencilAttachment S where
  view := f _ a.view
  depth_ops := a.depth_ops
  stencil_ops := a.stencil_ops

def RenderPassDescriptor.map (d : RenderPassDescriptor R) : RenderPassDescriptor S where
  label := d.label
  color_attachments := d.color_attachments.map fun a => a.map fun a => a.map f
  depth_stencil_attachment := d.depth_stencil_attachment.map fun a => a.map f

def ComputePassCall.map : ComputePassCall R → ComputePassCall S
  | .set_pipeline pipeline => .set_pipeline (f _ pipeline)
  | .set_bind_group index group offsets => .set_bind_group index (f _ group) offsets
  | .set_push_constants offset data => .set_push_constants offset data
  | .dispatch_workgroups x y z => .dispatch_workgroups x y z
  | .dispatch_workgroups_indirect indirect_buffer indirect_offset =>
      .dispatch_workgroups_indirect (f _ indirect_buffer) indirect_offset

def RenderPassCall.map : RenderPassCall R → RenderPassCall S
  | .set_pipeline pipeline => .set_pipeline (f _ pipeline)
  | .set_bind_group index group offsets => .set_bind_group index (f _ group) offsets
  | .set_vertex_buffer slot slice => .set_vertex_buffer slot (slice.map f)
  | .set_index_buffer slice format => .set_index_buffer (slice.map f) format
  | .draw vertices instances => .draw vertices instances
  | .draw_indexed indices base_vertex instances => .draw_indexed indices base_vertex instances

def EncoderCall.map : EncoderCall R → EncoderCall S
  | .copy_buffer_to_buffer source source_offset destination destination_offset size =>
      .copy_buffer_to_buffer (f _ source) source_offset (f _ destination) destination_offset size
  | .clear_buffer buffer offset size => .clear_buffer (f _ buffer) offset size
  | .copy_buffer_to_texture source destination copy_size =>
      .copy_buffer_to_texture (source.map f) (destination.map f) copy_size
  | .copy_texture_to_buffer source destination copy_size =>
      .copy_texture_to_buffer (source.map f) (destination.map f) copy_size
  | .begin_compute_pass label => .begin_compute_pass label
  | .compute call => .compute (call.map f)
  | .end_compute_pass => .end_compute_pass
  | .begin_render_pass desc => .begin_render_pass (desc.map f)
  | .render call => .render (call.map f)
  | .end_render_pass => .end_render_pass

end Map

/-- What `CommandEncoder::finish` returns, named after that call. -/
structure CommandBuffer where
  made : Occ
deriving DecidableEq, Repr

/-! ## Calls the server makes -/

section Calls

variable [WgpuTypes]

/-- A call on the server's device, queue or one of its objects. -/
inductive Call where
  | create_buffer (desc : BufferDescriptor)
  | create_texture (desc : TextureDescriptor)
  | create_view (texture : Obj .Texture) (desc : TextureViewDescriptor)
  | create_sampler (desc : SamplerDescriptor)
  | create_shader_module (desc : ShaderModuleDescriptor)
  | create_bind_group_layout (desc : BindGroupLayoutDescriptor)
  | create_bind_group (desc : BindGroupDescriptor Obj)
  | create_pipeline_layout (desc : PipelineLayoutDescriptor Obj)
  | create_render_pipeline (desc : RenderPipelineDescriptor Obj)
  | create_compute_pipeline (desc : ComputePipelineDescriptor Obj)
  | render_get_bind_group_layout (pipeline : Obj .RenderPipeline) (index : UInt32)
  | compute_get_bind_group_layout (pipeline : Obj .ComputePipeline) (index : UInt32)
  | write_buffer (buffer : Obj .Buffer) (offset : BufferAddress) (data : Bytes)
  | write_texture (texture : TexelCopyTextureInfo Obj) (data : Bytes)
      (data_layout : TexelCopyBufferLayout) (size : Extent3d)
  | submit (command_buffers : List CommandBuffer)
  | create_command_encoder (label : Option String)
  | encode (encoder : Occ) (call : EncoderCall Obj)
  | finish (encoder : Occ)
  | map_async (slice : BufferSlice Obj)
  | get_mapped_range (slice : BufferSlice Obj)
  | unmap (buffer : Obj .Buffer)

/-- One entry of the server's call log. -/
structure Event where
  occ : Occ
  call : Call

/-- The outcome of `map_async`, as the awaiting side sees it. -/
inductive MapResult where
  | Ok
  /-- The callback got a `BufferAsyncError`. -/
  | Err
  /-- The callback was dropped without being called. -/
  | Dropped
deriving DecidableEq

/-- What the GPU answers: how a `map_async` ends, and the bytes a
`get_mapped_range` shows, given the calls of all earlier dispatches. -/
structure Gpu where
  map_result : List Event → Occ → BufferSlice Obj → MapResult
  mapped_bytes : List Event → Occ → BufferSlice Obj → Bytes

/-- The call the server makes for a create call. -/
def CreateCall.issued : CreateCall Obj → Call
  | .create_buffer desc => .create_buffer desc
  | .create_texture desc => .create_texture desc
  | .create_view texture desc => .create_view texture desc
  | .create_sampler desc => .create_sampler desc
  | .create_shader_module desc => .create_shader_module desc
  | .create_bind_group_layout desc => .create_bind_group_layout desc
  | .create_bind_group desc => .create_bind_group desc
  | .create_pipeline_layout desc => .create_pipeline_layout desc
  | .create_render_pipeline desc => .create_render_pipeline desc
  | .create_compute_pipeline desc => .create_compute_pipeline desc

end Calls

end WgpuRemote.Wgpu
