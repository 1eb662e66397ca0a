/-
`protocol::descriptors`: the owned, serializable descriptor types.

The leaf types come from the `wgpu_types` crate. What this repository relies on
is only that each of them is serialized in a self-delimiting way and read back
unchanged, so the model takes them as a parameter: `WgpuTypes` is a choice of a
type and a codec for each, together with the text `bincode` prints for an error. Every struct and enum the repository itself declares
(or instantiates at `Option<String>` labels) is defined here, with its fields
in declaration order, which is the order serde writes them in.
-/
import WgpuRemote.Protocol.Ids

set_option autoImplicit false

namespace WgpuRemote

open Bincode

/-! ## Leaf types -/

/-- A type of `wgpu_types` with its serialized form. -/
structure Leaf where
  carrier : Type
  codec : Codec carrier

instance : CoeSort Leaf Type := ⟨Leaf.carrier⟩

/-- The `wgpu_types` and `bincode` builds both ends are compiled against. -/
class WgpuTypes where
  BufferUsages : Leaf
  TextureUsages : Leaf
  ShaderStages : Leaf
  Extent3d : Leaf
  Origin3d : Leaf
  TexelCopyBufferLayout : Leaf
  TextureDimension : Leaf
  TextureFormat : Leaf
  TextureViewDimension : Leaf
  TextureAspect : Leaf
  AddressMode : Leaf
  FilterMode : Leaf
  CompareFunction : Leaf
  SamplerBorderColor : Leaf
  BindGroupLayoutEntry : Leaf
  PushConstantRange : Leaf
  VertexStepMode : Leaf
  VertexAttribute : Leaf
  ColorTargetState : Leaf
  PrimitiveState : Leaf
  DepthStencilState : Leaf
  MultisampleState : Leaf
  IndexFormat : Leaf
  /-- `Operations<Color>` -/
  ColorOperations : Leaf
  /-- `Operations<f32>` -/
  DepthOperations : Leaf
  /-- `Operations<u32>` -/
  StencilOperations : Leaf
  /-- `usage | BufferUsages::COPY_DST` -/
  with_copy_dst : BufferUsages → BufferUsages
  /-- `impl Display for DecodeError` -/
  decode_error_text : DecodeError → String

export WgpuTypes (BufferUsages TextureUsages ShaderStages Extent3d Origin3d TexelCopyBufferLayout
  TextureDimension TextureFormat TextureViewDimension TextureAspect AddressMode FilterMode
  CompareFunction SamplerBorderColor BindGroupLayoutEntry PushConstantRange VertexStepMode
  VertexAttribute ColorTargetState PrimitiveState DepthStencilState MultisampleState IndexFormat
  ColorOperations DepthOperations StencilOperations)

/-- A build in which every leaf is a number, which is how bitflags and enum
variants travel. For evaluating the model on concrete inputs. -/
@[reducible] def WgpuTypes.numeric : WgpuTypes :=
  let n : Leaf := ⟨UInt32, Codec.u32⟩
  { BufferUsages := n, TextureUsages := n, ShaderStages := n, Extent3d := n, Origin3d := n
    TexelCopyBufferLayout := n, TextureDimension := n, TextureFormat := n
    TextureViewDimension := n, TextureAspect := n, AddressMode := n, FilterMode := n
    CompareFunction := n, SamplerBorderColor := n, BindGroupLayoutEntry := n
    PushConstantRange := n, VertexStepMode := n, VertexAttribute := n, ColorTargetState := n
    PrimitiveState := n, DepthStencilState := n, MultisampleState := n, IndexFormat := n
    ColorOperations := n, DepthOperations := n, StencilOperations := n
    with_copy_dst := fun usage : UInt32 => usage ||| 8
    decode_error_text := fun _ => "decode error" }

/-- `BufferAddress` is a `u64`. -/
abbrev BufferAddress := UInt64

/-- `BufferSize` is a `NonZeroU64`. -/
abbrev BufferSize := {x : UInt64 // x ≠ 0}

/-- An `f32` or `f64`, by its bits. -/
abbrev F32 := UInt32
abbrev F64 := UInt64

section Descriptors

variable [WgpuTypes]

/-! ## Descriptors reused from `wgpu_types` -/

structure BufferDescriptor where
  label : Option String
  size : BufferAddress
  usage : BufferUsages
  mapped_at_creation : Bool

structure TextureDescriptor where
  label : Option String
  size : Extent3d
  mip_level_count : UInt32
  sample_count : UInt32
  dimension : TextureDimension
  format : TextureFormat
  usage : TextureUsages
  view_formats : List TextureFormat

structure SamplerDescriptor where
  label : Option String
  address_mode_u : AddressMode
  address_mode_v : AddressMode
  address_mode_w : AddressMode
  mag_filter : FilterMode
  min_filter : FilterMode
  mipmap_filter : FilterMode
  lod_min_clamp : F32
  lod_max_clamp : F32
  compare : Option CompareFunction
  anisotropy_clamp : UInt16
  border_color : Option SamplerBorderColor

structure CommandEncoderDescriptor where
  label : Option String

/-! ## Hand-mirrored descriptors -/

structure TextureViewDescriptor where
  label : Option String
  format : Option TextureFormat
  dimension : Option TextureViewDimension
  usage : Option TextureUsages
  aspect : TextureAspect
  base_mip_level : UInt32
  mip_level_count : Option UInt32
  base_array_layer : UInt32
  array_layer_count : Option UInt32

structure BindGroupLayoutDescriptor where
  label : Option String
  entries : List BindGroupLayoutEntry

structure BufferBinding where
  buffer : BufferId
  offset : BufferAddress
  size : Option BufferSize

/-- Mirror of `wgpu::BindingResource` with ids in place of references. -/
inductive BindingResource where
  | Buffer (buffer : BufferId) (offset : BufferAddress) (size : Option BufferSize)
  | BufferArray (bindings : List BufferBinding)
  | Sampler (id : SamplerId)
  | SamplerArray (ids : List SamplerId)
  | TextureView (id : TextureViewId)
  | TextureViewArray (ids : List TextureViewId)

structure BindGroupEntry where
  binding : UInt32
  resource : BindingResource

structure BindGroupDescriptor where
  label : Option String
  layout : BindGroupLayoutId
  entries : List BindGroupEntry

/-- `push_constant_ranges` exists in the wgpu 27 build only, which is the one
modelled. -/
structure PipelineLayoutDescriptor where
  label : Option String
  bind_group_layouts : List BindGroupLayoutId
  push_constant_ranges : List PushConstantRange

inductive ShaderSource where
  | Wgsl (source : String)
  | SpirV (words : List UInt32)
  | Glsl (shader : String) (stage : ShaderStages) (defines : List (String × String))

structure ShaderModuleDescriptor where
  label : Option String
  source : ShaderSource

structure VertexBufferLayout where
  array_stride : BufferAddress
  step_mode : VertexStepMode
  attributes : List VertexAttribute

structure VertexState where
  module : ShaderModuleId
  entry_point : Option String
  constants : List (String × F64)
  buffers : List VertexBufferLayout

structure FragmentState where
  module : ShaderModuleId
  entry_point : Option String
  constants : List (String × F64)
  targets : List (Option ColorTargetState)

structure RenderPipelineDescriptor where
  label : Option String
  layout : Option PipelineLayoutId
  vertex : VertexState
  primitive : PrimitiveState
  depth_stencil : Option DepthStencilState
  multisample : MultisampleState
  fragment : Option FragmentState
  multiview : Option UInt32

structure ComputePipelineDescriptor where
  label : Option String
  layout : Option PipelineLayoutId
  module : ShaderModuleId
  entry_point : Option String
  constants : List (String × F64)

/-! ## Wire format -/

namespace Wire

def label : Codec (Option String) := Codec.string.option

def constants : Codec (List (String × F64)) := (Codec.string.seq Codec.f64).list

def buffer_descriptor : Codec BufferDescriptor :=
  (label.seq <| Codec.u64.seq <| BufferUsages.codec.seq Codec.bool).map
    (fun ⟨a, b, c, d⟩ => ⟨a, b, c, d⟩)
    (fun d => (d.label, d.size, d.usage, d.mapped_at_creation))
    (fun _ => rfl)

def texture_descriptor : Codec TextureDescriptor :=
  (label.seq <| Extent3d.codec.seq <| Codec.u32.seq <| Codec.u32.seq <|
    TextureDimension.codec.seq <| TextureFormat.codec.seq <| TextureUsages.codec.seq
    TextureFormat.codec.list).map
    (fun ⟨a, b, c, d, e, f, g, h⟩ => ⟨a, b, c, d, e, f, g, h⟩)
    (fun d => (d.label, d.size, d.mip_level_count, d.sample_count, d.dimension, d.format, d.usage,
      d.view_formats))
    (fun _ => rfl)

def sampler_descriptor : Codec SamplerDescriptor :=
  (label.seq <| AddressMode.codec.seq <| AddressMode.codec.seq <| AddressMode.codec.seq <|
    FilterMode.codec.seq <| FilterMode.codec.seq <| FilterMode.codec.seq <| Codec.f32.seq <|
    Codec.f32.seq <| CompareFunction.codec.option.seq <| Codec.u16.seq
    SamplerBorderColor.codec.option).map
    (fun ⟨a, b, c, d, e, f, g, h, i, j, k, l⟩ => ⟨a, b, c, d, e, f, g, h, i, j, k, l⟩)
    (fun d => (d.label, d.address_mode_u, d.address_mode_v, d.address_mode_w, d.mag_filter,
      d.min_filter, d.mipmap_filter, d.lod_min_clamp, d.lod_max_clamp, d.compare,
      d.anisotropy_clamp, d.border_color))
    (fun _ => rfl)

def command_encoder_descriptor : Codec CommandEncoderDescriptor :=
  label.map (fun l => ⟨l⟩) (fun d => d.label) (fun _ => rfl)

def texture_view_descriptor : Codec TextureViewDescriptor :=
  (label.seq <| TextureFormat.codec.option.seq <| TextureViewDimension.codec.option.seq <|
    TextureUsages.codec.option.seq <| TextureAspect.codec.seq <| Codec.u32.seq <|
    Codec.u32.option.seq <| Codec.u32.seq Codec.u32.option).map
    (fun ⟨a, b, c, d, e, f, g, h, i⟩ => ⟨a, b, c, d, e, f, g, h, i⟩)
    (fun d => (d.label, d.format, d.dimension, d.usage, d.aspect, d.base_mip_level,
      d.mip_level_count, d.base_array_layer, d.array_layer_count))
    (fun _ => rfl)

def bind_group_layout_descriptor : Codec BindGroupLayoutDescriptor :=
  (label.seq BindGroupLayoutEntry.codec.list).map
    (fun ⟨a, b⟩ => ⟨a, b⟩) (fun d => (d.label, d.entries)) (fun _ => rfl)

def buffer_binding : Codec BufferBinding :=
  ((id .Buffer).seq <| Codec.u64.seq Codec.nonzero.option).map
    (fun ⟨a, b, c⟩ => ⟨a, b, c⟩) (fun d => (d.buffer, d.offset, d.size)) (fun _ => rfl)

def binding_resource : Codec BindingResource :=
  Codec.variants
    [ { fields := (id .Buffer).seq <| Codec.u64.seq Codec.nonzero.option
        make := fun ⟨b, o, s⟩ => .Buffer b o s
        view := fun | .Buffer b o s => some (b, o, s) | _ => none },
      { fields := buffer_binding.list, make := .BufferArray
        view := fun | .BufferArray bs => some bs | _ => none },
      { fields := id .Sampler, make := .Sampler
        view := fun | .Sampler s => some s | _ => none },
      { fields := (id .Sampler).list, make := .SamplerArray
        view := fun | .SamplerArray s => some s | _ => none },
      { fields := id .TextureView, make := .TextureView
        view := fun | .TextureView v => some v | _ => none },
      { fields := (id .TextureView).list, make := .TextureViewArray
        view := fun | .TextureViewArray v => some v | _ => none } ]
    (by simp)

def bind_group_entry : Codec BindGroupEntry :=
  (Codec.u32.seq binding_resource).map
    (fun ⟨a, b⟩ => ⟨a, b⟩) (fun d => (d.binding, d.resource)) (fun _ => rfl)

def bind_group_descriptor : Codec BindGroupDescriptor :=
  (label.seq <| (id .BindGroupLayout).seq bind_group_entry.list).map
    (fun ⟨a, b, c⟩ => ⟨a, b, c⟩) (fun d => (d.label, d.layout, d.entries)) (fun _ => rfl)

def pipeline_layout_descriptor : Codec PipelineLayoutDescriptor :=
  (label.seq <| (id .BindGroupLayout).list.seq PushConstantRange.codec.list).map
    (fun ⟨a, b, c⟩ => ⟨a, b, c⟩)
    (fun d => (d.label, d.bind_group_layouts, d.push_constant_ranges)) (fun _ => rfl)

def shader_source : Codec ShaderSource :=
  Codec.variants
    [ { fields := Codec.string, make := .Wgsl
        view := fun | .Wgsl s => some s | _ => none },
      { fields := Codec.u32.list, make := .SpirV
        view := fun | .SpirV w => some w | _ => none },
      { fields := Codec.string.seq <| ShaderStages.codec.seq (Codec.string.seq Codec.string).list
        make := fun ⟨s, t, d⟩ => .Glsl s t d
        view := fun | .Glsl s t d => some (s, t, d) | _ => none } ]
    (by simp)

def shader_module_descriptor : Codec ShaderModuleDescriptor :=
  (label.seq shader_source).map
    (fun ⟨a, b⟩ => ⟨a, b⟩) (fun d => (d.label, d.source)) (fun _ => rfl)

def vertex_buffer_layout : Codec VertexBufferLayout :=
  (Codec.u64.seq <| VertexStepMode.codec.seq VertexAttribute.codec.list).map
    (fun ⟨a, b, c⟩ => ⟨a, b, c⟩) (fun d => (d.array_stride, d.step_mode, d.attributes))
    (fun _ => rfl)

def vertex_state : Codec VertexState :=
  ((id .ShaderModule).seq <| label.seq <| constants.seq vertex_buffer_layout.list).map
    (fun ⟨a, b, c, d⟩ => ⟨a, b, c, d⟩)
    (fun d => (d.module, d.entry_point, d.constants, d.buffers)) (fun _ => rfl)

def fragment_state : Codec FragmentState :=
  ((id .ShaderModule).seq <| label.seq <| constants.seq
    ColorTargetState.codec.option.list).map
    (fun ⟨a, b, c, d⟩ => ⟨a, b, c, d⟩)
    (fun d => (d.module, d.entry_point, d.constants, d.targets)) (fun _ => rfl)

def render_pipeline_descriptor : Codec RenderPipelineDescriptor :=
  (label.seq <| (id .PipelineLayout).option.seq <| vertex_state.seq <|
    PrimitiveState.codec.seq <| DepthStencilState.codec.option.seq <|
    MultisampleState.codec.seq <| fragment_state.option.seq Codec.u32.option).map
    (fun ⟨a, b, c, d, e, f, g, h⟩ => ⟨a, b, c, d, e, f, g, h⟩)
    (fun d => (d.label, d.layout, d.vertex, d.primitive, d.depth_stencil, d.multisample,
      d.fragment, d.multiview))
    (fun _ => rfl)

def compute_pipeline_descriptor : Codec ComputePipelineDescriptor :=
  (label.seq <| (id .PipelineLayout).option.seq <| (id .ShaderModule).seq <|
    label.seq constants).map
    (fun ⟨a, b, c, d, e⟩ => ⟨a, b, c, d, e⟩)
    (fun d => (d.label, d.layout, d.module, d.entry_point, d.constants))
    (fun _ => rfl)

end Wire

end Descriptors

end WgpuRemote
