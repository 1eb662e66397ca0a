/-
`translate`: from wgpu's descriptors to the wire's.

A descriptor keeps its fields; labels and slices become owned, and a reference
becomes the id of the handle behind it. Of the compilation options of a stage
only the constants have a place on the wire. The drop-in's `create_*` methods
translate and hand the result to the facade; what they cannot translate they
panic on, so that no action is sent.
-/
import WgpuRemote.Client.Handles
import WgpuRemote.Wgpu.Api

set_option autoImplicit false

namespace WgpuRemote.Client

section Translate

variable [WgpuTypes]

/-- The reference was not made by this backend. -/
inductive TranslateError where
  | ForeignResource (kind : String)

/-- `own_label`: a borrowed label, owned. -/
def own_label (label : Option String) : Option String := label

/-! ## Ids -/

/-- `handle.as_custom::<T>().map(|h| h.id()).ok_or(ForeignResource(kind))`. -/
def custom_id (kind : String) {k : Kind} (h : Wrapped k) : Except TranslateError (Id k) :=
  match h.as_custom with
  | some h => .ok h.id
  | none => .error (.ForeignResource kind)

def buffer_id (h : Wrapped .Buffer) : Except TranslateError BufferId := custom_id "buffer" h
def sampler_id (h : Wrapped .Sampler) : Except TranslateError SamplerId := custom_id "sampler" h
def texture_view_id (h : Wrapped .TextureView) : Except TranslateError TextureViewId :=
  custom_id "texture view" h
def shader_module_id (h : Wrapped .ShaderModule) : Except TranslateError ShaderModuleId :=
  custom_id "shader module" h
def bind_group_layout_id (h : Wrapped .BindGroupLayout) :
    Except TranslateError BindGroupLayoutId :=
  custom_id "bind group layout" h
def pipeline_layout_id (h : Wrapped .PipelineLayout) : Except TranslateError PipelineLayoutId :=
  custom_id "pipeline layout" h

/-! ## Descriptors without references -/

def buffer_descriptor (desc : BufferDescriptor) : BufferDescriptor :=
  { desc with label := own_label desc.label }

def texture_descriptor (desc : TextureDescriptor) : TextureDescriptor :=
  { desc with label := own_label desc.label }

def sampler_descriptor (desc : SamplerDescriptor) : SamplerDescriptor where
  label := own_label desc.label
  address_mode_u := desc.address_mode_u
  address_mode_v := desc.address_mode_v
  address_mode_w := desc.address_mode_w
  mag_filter := desc.mag_filter
  min_filter := desc.min_filter
  mipmap_filter := desc.mipmap_filter
  lod_min_clamp := desc.lod_min_clamp
  lod_max_clamp := desc.lod_max_clamp
  compare := desc.compare
  anisotropy_clamp := desc.anisotropy_clamp
  border_color := desc.border_color

def texture_view_descriptor (desc : Wgpu.TextureViewDescriptor) : TextureViewDescriptor where
  label := own_label desc.label
  format := desc.format
  dimension := desc.dimension
  usage := desc.usage
  aspect := desc.aspect
  base_mip_level := desc.base_mip_level
  mip_level_count := desc.mip_level_count
  base_array_layer := desc.base_array_layer
  array_layer_count := desc.array_layer_count

def bind_group_layout_descriptor (desc : Wgpu.BindGroupLayoutDescriptor) :
    BindGroupLayoutDescriptor where
  label := own_label desc.label
  entries := desc.entries

/-- Panics (`none`) on any source but WGSL. -/
def shader_module_descriptor (desc : Wgpu.ShaderModuleDescriptor) : Option ShaderModuleDescriptor :=
  match desc.source with
  | .Wgsl s => some { label := own_label desc.label, source := .Wgsl s }
  | .Other => none

/-! ## Descriptors with references -/

def buffer_binding (b : Wgpu.BufferBinding Wrapped) : Except TranslateError BufferBinding := do
  let buffer ← buffer_id b.buffer
  return { buffer, offset := b.offset, size := b.size }

def binding_resource : Wgpu.BindingResource Wrapped → Except TranslateError BindingResource
  | .Buffer b => do
      let buffer ← buffer_id b.buffer
      return .Buffer buffer b.offset b.size
  | .BufferArray arr => do
      let bs ← arr.mapM buffer_binding
      return .BufferArray bs
  | .Sampler s => do
      let id ← sampler_id s
      return .Sampler id
  | .SamplerArray arr => do
      let ids ← arr.mapM sampler_id
      return .SamplerArray ids
  | .TextureView v => do
      let id ← texture_view_id v
      return .TextureView id
  | .TextureViewArray arr => do
      let ids ← arr.mapM texture_view_id
      return .TextureViewArray ids

def bind_group_entry (e : Wgpu.BindGroupEntry Wrapped) : Except TranslateError BindGroupEntry := do
  let resource ← binding_resource e.resource
  return { binding := e.binding, resource }

def bind_group_descriptor (desc : Wgpu.BindGroupDescriptor Wrapped) :
    Except TranslateError BindGroupDescriptor := do
  let layout ← bind_group_layout_id desc.layout
  let entries ← desc.entries.mapM bind_group_entry
  return { label := own_label desc.label, layout, entries }

def pipeline_layout_descriptor (desc : Wgpu.PipelineLayoutDescriptor Wrapped) :
    Except TranslateError PipelineLayoutDescriptor := do
  let bind_group_layouts ← desc.bind_group_layouts.mapM bind_group_layout_id
  return { label := own_label desc.label, bind_group_layouts
           push_constant_ranges := desc.push_constant_ranges }

/-- `match desc.layout { Some(l) => Some(pipeline_layout_id(l)?), None => None }` -/
def optional_layout : Option (Wrapped .PipelineLayout) →
    Except TranslateError (Option PipelineLayoutId)
  | none => .ok none
  | some l => do
      let id ← pipeline_layout_id l
      return some id

def vertex_state (v : Wgpu.VertexState Wrapped) : Except TranslateError VertexState := do
  let module ← shader_module_id v.module
  return { module, entry_point := v.entry_point, constants := v.compilation_options.constants
           buffers := v.buffers.map fun b =>
             { array_stride := b.array_stride, step_mode := b.step_mode
               attributes := b.attributes } }

def fragment_state (f : Wgpu.FragmentState Wrapped) : Except TranslateError FragmentState := do
  let module ← shader_module_id f.module
  return { module, entry_point := f.entry_point, constants := f.compilation_options.constants
           targets := f.targets }

def optional_fragment : Option (Wgpu.FragmentState Wrapped) →
    Except TranslateError (Option FragmentState)
  | none => .ok none
  | some f => do
      let f ← fragment_state f
      return some f

def render_pipeline_descriptor (desc : Wgpu.RenderPipelineDescriptor Wrapped) :
    Except TranslateError RenderPipelineDescriptor := do
  let layout ← optional_layout desc.layout
  let vertex ← vertex_state desc.vertex
  let fragment ← optional_fragment desc.fragment
  return { label := own_label desc.label, layout, vertex, primitive := desc.primitive
           depth_stencil := desc.depth_stencil, multisample := desc.multisample, fragment
           multiview := desc.multiview.map fun n => n.val }

def compute_pipeline_descriptor (desc : Wgpu.ComputePipelineDescriptor Wrapped) :
    Except TranslateError ComputePipelineDescriptor := do
  let layout ← optional_layout desc.layout
  let module ← shader_module_id desc.module
  return { label := own_label desc.label, layout, module, entry_point := desc.entry_point
           constants := desc.compilation_options.constants }

/-! ## The drop-in's create methods -/

/-- The descriptor `create_buffer` ships. A buffer mapped at creation is made
writable instead, and filled by a later write. -/
def shipped_buffer_descriptor (desc : BufferDescriptor) : BufferDescriptor :=
  let proto := buffer_descriptor desc
  if desc.mapped_at_creation then
    { proto with usage := WgpuTypes.with_copy_dst proto.usage, mapped_at_creation := false }
  else proto

/-- The action a create method of the drop-in sends, the id it mints being
`raw`; `none` if the method panics. -/
def create_action (raw : UInt64) : Wgpu.CreateCall Wrapped → Option Action
  | .create_buffer desc => some (.CreateBuffer ⟨raw⟩ (shipped_buffer_descriptor desc))
  | .create_texture desc => some (.CreateTexture ⟨raw⟩ (texture_descriptor desc))
  | .create_view texture desc =>
      texture.as_custom.map fun h =>
        .CreateTextureView ⟨raw⟩ h.id (texture_view_descriptor desc)
  | .create_sampler desc => some (.CreateSampler ⟨raw⟩ (sampler_descriptor desc))
  | .create_shader_module desc =>
      (shader_module_descriptor desc).map (.CreateShaderModule ⟨raw⟩)
  | .create_bind_group_layout desc =>
      some (.CreateBindGroupLayout ⟨raw⟩ (bind_group_layout_descriptor desc))
  | .create_bind_group desc =>
      (bind_group_descriptor desc).toOption.map (.CreateBindGroup ⟨raw⟩)
  | .create_pipeline_layout desc =>
      (pipeline_layout_descriptor desc).toOption.map (.CreatePipelineLayout ⟨raw⟩)
  | .create_render_pipeline desc =>
      (render_pipeline_descriptor desc).toOption.map (.CreateRenderPipeline ⟨raw⟩)
  | .create_compute_pipeline desc =>
      (compute_pipeline_descriptor desc).toOption.map (.CreateComputePipeline ⟨raw⟩)

end Translate

end WgpuRemote.Client
