/-
`server::engine`: one action at a time.

`handle` is the engine's match over `Action`, with each `create_*` function in
its place, as the wgpu 27 build has them. A create action resolves the ids of
its descriptor, calls wgpu once and inserts what it got; the functions that
resolve something keep the tables locked until wgpu has been called, and all of
them lock the tables anew for the insertion.

`Engine` is the engine between two actions: its tables, and the log of the wgpu
calls made so far. `Engine.dispatch` runs one action to its end on it.
-/
import WgpuRemote.Server.Replay

set_option autoImplicit false

namespace WgpuRemote.Server

open Bincode
open Wgpu (Occ Obj Call Event Gpu)
open Dispatch (attempt issue make add store with_tables insert respond)

section Engine

variable [WgpuTypes]

/-! ## Actions that create -/

/-- `create_buffer`, in `handle`. -/
def create_buffer (id : BufferId) (desc : BufferDescriptor) : Dispatch Response := do
  let buffer ← make .Buffer (.create_buffer desc)
  insert id buffer
  return .Ok

/-- The source `create_shader_module` passes on. -/
def shader_source : ShaderSource → Except Response Wgpu.ShaderSource
  | .Wgsl src => .ok (.Wgsl src)
  | .SpirV _ | .Glsl _ _ _ =>
      .error (.Error .InvalidArgument "only WGSL shader sources are supported in v1")

/-- `create_shader_module`. -/
def create_shader_module (id : ShaderModuleId) (desc : ShaderModuleDescriptor) :
    Dispatch Response := do
  let source ← attempt (shader_source desc.source)
  let module ← make .ShaderModule (.create_shader_module { label := desc.label, source })
  insert id module
  return .Ok

/-- `create_bind_group_layout`. -/
def create_bind_group_layout (id : BindGroupLayoutId) (desc : BindGroupLayoutDescriptor) :
    Dispatch Response := do
  let bgl ← make .BindGroupLayout
    (.create_bind_group_layout { label := desc.label, entries := desc.entries })
  insert id bgl
  return .Ok

/-- `{:?}` of an id. -/
def debug_id {k : Kind} (id : Id k) : String := s!"{k.id_name}({id.raw})"

/-- `{:?}` of a list, given the texts of its elements. -/
def debug_list (items : List String) : String := "[" ++ ", ".intercalate items ++ "]"

/-- `{:?}` of the fields of a buffer binding. -/
def debug_buffer_binding (buffer : BufferId) (offset : BufferAddress) (size : Option BufferSize) :
    String :=
  let size := match size with
    | some n => s!"Some({n.val})"
    | none => "None"
  "\x7b buffer: " ++ debug_id buffer ++ s!", offset: {offset}, size: " ++ size ++ " \x7d"

/-- `{:?}` of a binding resource. -/
def debug_binding_resource : BindingResource → String
  | .Buffer buffer offset size => "Buffer " ++ debug_buffer_binding buffer offset size
  | .BufferArray bindings =>
      "BufferArray(" ++ debug_list (bindings.map fun b =>
        "BufferBinding " ++ debug_buffer_binding b.buffer b.offset b.size) ++ ")"
  | .Sampler id => "Sampler(" ++ debug_id id ++ ")"
  | .SamplerArray ids => "SamplerArray(" ++ debug_list (ids.map debug_id) ++ ")"
  | .TextureView id => "TextureView(" ++ debug_id id ++ ")"
  | .TextureViewArray ids => "TextureViewArray(" ++ debug_list (ids.map debug_id) ++ ")"

/-- One binding of a bind group. The array variants are not supported. -/
def bind_group_resource (t : ResourceTables) :
    BindingResource → Except Response (Wgpu.BindingResource Obj)
  | .Buffer buffer offset size => do
      let b ← lookup t buffer
      return .Buffer { buffer := b, offset, size }
  | .Sampler id => do
      let s ← lookup t id
      return .Sampler s
  | .TextureView id => do
      let v ← lookup t id
      return .TextureView v
  | other =>
      .error (.Error .InvalidArgument
        ("BindingResource variant not yet supported: " ++ debug_binding_resource other))

def bind_group_entry (t : ResourceTables) (e : BindGroupEntry) :
    Except Response (Wgpu.BindGroupEntry Obj) := do
  let resource ← bind_group_resource t e.resource
  return { binding := e.binding, resource }

/-- The view descriptor `create_texture_view` builds. -/
def texture_view_descriptor (desc : TextureViewDescriptor) : Wgpu.TextureViewDescriptor where
  label := desc.label
  format := desc.format
  dimension := desc.dimension
  usage := desc.usage
  aspect := desc.aspect
  base_mip_level := desc.base_mip_level
  mip_level_count := desc.mip_level_count
  base_array_layer := desc.base_array_layer
  array_layer_count := desc.array_layer_count

/-- The descriptor `create_bind_group` builds. -/
def bind_group_descriptor (t : ResourceTables) (desc : BindGroupDescriptor) :
    Except Response (Wgpu.BindGroupDescriptor Obj) := do
  let layout ← lookup t desc.layout
  let entries ← desc.entries.mapM (bind_group_entry t)
  return { label := desc.label, layout, entries }

/-- `create_bind_group`. -/
def create_bind_group (id : BindGroupId) (desc : BindGroupDescriptor) : Dispatch Response := do
  let bg ← with_tables fun t => do
    let desc ← attempt (bind_group_descriptor t desc)
    make .BindGroup (.create_bind_group desc)
  insert id bg
  return .Ok

/-- The descriptor `create_pipeline_layout` builds. -/
def pipeline_layout_descriptor (t : ResourceTables) (desc : PipelineLayoutDescriptor) :
    Except Response (Wgpu.PipelineLayoutDescriptor Obj) := do
  let bgls ← desc.bind_group_layouts.mapM (lookup t)
  return { label := desc.label, bind_group_layouts := bgls
           push_constant_ranges := desc.push_constant_ranges }

/-- `create_pipeline_layout`. -/
def create_pipeline_layout (id : PipelineLayoutId) (desc : PipelineLayoutDescriptor) :
    Dispatch Response := do
  let layout ← with_tables fun t => do
    let desc ← attempt (pipeline_layout_descriptor t desc)
    make .PipelineLayout (.create_pipeline_layout desc)
  insert id layout
  return .Ok

/-- The descriptor `create_compute_pipeline` builds. Its compilation options
are wgpu's defaults, whatever `desc.constants` says. -/
def compute_pipeline_descriptor (t : ResourceTables) (desc : ComputePipelineDescriptor) :
    Except Response (Wgpu.ComputePipelineDescriptor Obj) := do
  let module ← lookup t desc.module
  let layout ← lookup_option t desc.layout
  return { label := desc.label, layout, module, entry_point := desc.entry_point
           compilation_options := .default }

/-- `create_compute_pipeline`. -/
def create_compute_pipeline (id : ComputePipelineId) (desc : ComputePipelineDescriptor) :
    Dispatch Response := do
  let pipeline ← with_tables fun t => do
    let desc ← attempt (compute_pipeline_descriptor t desc)
    make .ComputePipeline (.create_compute_pipeline desc)
  insert id pipeline
  return .Ok

/-- `create_texture`. -/
def create_texture (id : TextureId) (desc : TextureDescriptor) : Dispatch Response := do
  let texture ← make .Texture (.create_texture desc)
  insert id texture
  return .Ok

/-- `create_texture_view`. -/
def create_texture_view (id : TextureViewId) (texture : TextureId) (desc : TextureViewDescriptor) :
    Dispatch Response := do
  let view ← with_tables fun t => do
    let tex ← attempt (lookup t texture)
    make .TextureView (.create_view tex (texture_view_descriptor desc))
  insert id view
  return .Ok

/-- `create_sampler`. -/
def create_sampler (id : SamplerId) (desc : SamplerDescriptor) : Dispatch Response := do
  let sampler ← make .Sampler (.create_sampler desc)
  insert id sampler
  return .Ok

/-- `NonZeroU32::new`. -/
def non_zero_u32 (n : UInt32) : Option {n : UInt32 // n ≠ 0} :=
  if h : n ≠ 0 then some ⟨n, h⟩ else none

/-- The module of an optional fragment stage. -/
def lookup_fragment (t : ResourceTables) :
    Option FragmentState → Except Response (Option (Wgpu.FragmentState Obj))
  | none => .ok none
  | some f => do
      let module ← lookup_as "fragment ShaderModuleId" t f.module
      return some
        { module, entry_point := f.entry_point, compilation_options := .default
          targets := f.targets }

/-- The descriptor `create_render_pipeline` builds. The compilation options of
both stages are wgpu's defaults, whatever the stages' `constants` say. -/
def render_pipeline_descriptor (t : ResourceTables) (desc : RenderPipelineDescriptor) :
    Except Response (Wgpu.RenderPipelineDescriptor Obj) := do
  let layout ← lookup_option t desc.layout
  let vertex_module ← lookup_as "vertex ShaderModuleId" t desc.vertex.module
  let fragment ← lookup_fragment t desc.fragment
  let vertex_buffers := desc.vertex.buffers.map fun vbl =>
    { array_stride := vbl.array_stride, step_mode := vbl.step_mode, attributes := vbl.attributes }
  return { label := desc.label, layout
           vertex :=
             { module := vertex_module, entry_point := desc.vertex.entry_point
               compilation_options := .default, buffers := vertex_buffers }
           primitive := desc.primitive, depth_stencil := desc.depth_stencil
           multisample := desc.multisample, fragment
           multiview := desc.multiview.bind non_zero_u32 }

/-- `create_render_pipeline`. -/
def create_render_pipeline (id : RenderPipelineId) (desc : RenderPipelineDescriptor) :
    Dispatch Response := do
  let pipeline ← with_tables fun t => do
    let desc ← attempt (render_pipeline_descriptor t desc)
    make .RenderPipeline (.create_render_pipeline desc)
  insert id pipeline
  return .Ok

/-- The two `Derive*PipelineBindGroupLayout` arms, which lock the tables once. -/
def derive_bind_group_layout {k : Kind} (pipeline : Id k) (get_bind_group_layout : Obj k → Call)
    (id : BindGroupLayoutId) : Dispatch Response :=
  with_tables fun t => do
    let p ← attempt (lookup t pipeline)
    let bgl ← make .BindGroupLayout (get_bind_group_layout p)
    store (t.insert id bgl)
    return .Ok

/-! ## Actions on a buffer or a texture -/

/-- `with_buffer`. -/
def with_buffer {α : Type} (id : BufferId) (f : Obj .Buffer → Dispatch α) : Dispatch α :=
  with_tables fun t => do
    let b ← attempt (lookup t id)
    f b

/-- The `WriteBuffer` arm. The empty submission is made after the tables are
released. -/
def write_buffer (buffer : BufferId) (offset : BufferAddress) (data : Bytes) :
    Dispatch Response := do
  with_buffer buffer fun b => do
    let _ ← issue (.write_buffer b offset data)
    return ()
  let _ ← issue (.submit [])
  return .Ok

/-- The `WriteTexture` arm, with the tables locked throughout. -/
def write_texture (texture : TextureId) (mip_level : UInt32) (origin : Origin3d)
    (aspect : TextureAspect) (data : Bytes) (data_layout : TexelCopyBufferLayout)
    (size : Extent3d) : Dispatch Response :=
  with_tables fun t => do
    let tex ← attempt (lookup t texture)
    let _ ← issue (.write_texture { texture := tex, mip_level, origin, aspect }
      data data_layout size)
    let _ ← issue (.submit [])
    return .Ok

/-- `read_buffer`. Both slices are checked at the calls made on them (`slice_of`).
`device.poll` is not among the calls: on a thread of its own it drives the pending
map to its end, which is part of what a `map_async` answers. -/
def read_buffer (id : BufferId) (offset size : BufferAddress) : Dispatch Response := do
  let buffer ← with_tables fun t => attempt (lookup t id)
  let stop ← add offset size
  let map ← issue (.map_async ⟨buffer, offset, some stop⟩)
  match map.map_result with
  | .Ok => do
      let stop ← add offset size
      let view ← issue (.get_mapped_range ⟨buffer, offset, some stop⟩)
      let _ ← issue (.unmap buffer)
      return .BufferData view.bytes
  | .Err =>
      return .Error .Internal "buffer map_async failed: BufferAsyncError"
  | .Dropped =>
      return .Error .Internal "map callback channel dropped"

/-! ## One action -/

/-- `Destroy` of a buffer. -/
def destroy_buffer (id : BufferId) : Dispatch Response := do
  with_tables fun t => store (t.remove id)
  return .Ok

/-- The `Hello` arm. -/
def hello (protocol_version : UInt32) : Response :=
  if protocol_version ≠ PROTOCOL_VERSION then
    .Error .ProtocolVersionMismatch s!"client v{protocol_version}, server v{PROTOCOL_VERSION}"
  else
    .HelloAck PROTOCOL_VERSION

/-- The arms of `Engine::handle`. The last one also takes the `Destroy` of
every kind that has no arm of its own. -/
def handle_arm : Action → Dispatch Response
  | .Hello protocol_version => return hello protocol_version
  | .RequestAdapter | .RequestDevice _ => return .Ok
  | .CreateBuffer id desc => create_buffer id desc
  | .Destroy (.Buffer id) => destroy_buffer id
  | .WriteBuffer buffer offset data => write_buffer buffer offset data
  | .WriteTexture texture mip_level origin aspect data data_layout size =>
      write_texture texture mip_level origin aspect data data_layout size
  | .MapBufferForRead buffer offset size => read_buffer buffer offset size
  | .DeriveRenderPipelineBindGroupLayout pipeline index id =>
      derive_bind_group_layout pipeline (fun rp => .render_get_bind_group_layout rp index) id
  | .DeriveComputePipelineBindGroupLayout pipeline index id =>
      derive_bind_group_layout pipeline (fun cp => .compute_get_bind_group_layout cp index) id
  | .CreateShaderModule id desc => create_shader_module id desc
  | .CreateBindGroupLayout id desc => create_bind_group_layout id desc
  | .CreateBindGroup id desc => create_bind_group id desc
  | .CreatePipelineLayout id desc => create_pipeline_layout id desc
  | .CreateComputePipeline id desc => create_compute_pipeline id desc
  | .Submit recordings => submit recordings
  | .CreateTexture id desc => create_texture id desc
  | .CreateTextureView id texture desc => create_texture_view id texture desc
  | .CreateSampler id desc => create_sampler id desc
  | .CreateRenderPipeline id desc => create_render_pipeline id desc
  | .CreateCommandEncoder _ _ | .Destroy _ => return .Ok

/-- `Engine::handle`. Every arm answers. -/
def handle (action : Action) : Prog (Option Response) := do
  let response ← respond (handle_arm action)
  return some response

/-- `Engine::dispatch`: a response is returned if the frame has a request id. -/
def dispatch (frame : Frame) : Prog (Option ResponseFrame) := do
  let response ← handle frame.action
  match frame.request_id, response with
  | some rid, some resp => return some ⟨rid, resp⟩
  | none, _ => return none
  | some _, none => return none

/-! ## The engine between two actions -/

/-- The engine: the tables, the wgpu calls of all finished dispatches, and how
many there were. -/
structure Engine where
  tables : ResourceTables
  log : List Event
  dispatched : ℕ

/-- `Engine::new`. -/
def Engine.new : Engine where
  tables := ResourceTables.empty
  log := []
  dispatched := 0

/-- What wgpu answers to a call of the next dispatch. An object is named after
the call that makes it. -/
def Engine.reply (gpu : Gpu) (e : Engine) (occ : Occ) (c : Call) : Answer where
  made := occ
  map_result := match c with
    | .map_async s => gpu.map_result e.log occ s
    | _ => .Ok
  bytes := match c with
    | .get_mapped_range s => gpu.mapped_bytes e.log occ s
    | _ => []

/-- Run the code of one dispatch to its end. -/
def Engine.exec (gpu : Gpu) (e : Engine) {α : Type} (p : Prog α) : α × Engine :=
  let (a, m) := p.run (e.reply gpu) e.dispatched ⟨e.tables, []⟩
  (a, { tables := m.tables, log := e.log ++ m.events, dispatched := e.dispatched + 1 })

/-- `handle`, run to its end. -/
def Engine.handle (gpu : Gpu) (e : Engine) (action : Action) : Option Response × Engine :=
  e.exec gpu (Server.handle action)

/-- `dispatch`, run to its end. -/
def Engine.dispatch (gpu : Gpu) (e : Engine) (frame : Frame) : Option ResponseFrame × Engine :=
  e.exec gpu (Server.dispatch frame)

/-- A GPU on which every map succeeds and every buffer reads as empty. For
evaluating the model on concrete inputs. -/
def idle_gpu : Gpu := ⟨fun _ _ _ => .Ok, fun _ _ _ => []⟩

end Engine

end WgpuRemote.Server
