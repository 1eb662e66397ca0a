/-
`protocol::actions` and `protocol::responses`: the two message types.
-/
import WgpuRemote.Protocol.Commands

set_option autoImplicit false

namespace WgpuRemote

open Bincode

/-- `protocol::version`. -/
def PROTOCOL_VERSION : UInt32 := 1

/-- Correlates a request with its response. -/
structure RequestId where
  raw : UInt64
deriving DecidableEq, Repr

inductive ErrorCode where
  | ProtocolVersionMismatch
  | UnknownResource
  | InvalidArgument
  | OutOfMemory
  | DeviceLost
  | Internal
deriving DecidableEq, Repr

/-- Server to client. -/
inductive Response where
  | HelloAck (protocol_version : UInt32)
  | Ok
  | BufferData (data : Bytes)
  | SubmissionComplete (fence_value : UInt64)
  | Error (code : ErrorCode) (message : String)
deriving DecidableEq

structure ResponseFrame where
  request_id : RequestId
  response : Response
deriving DecidableEq

section Actions

variable [WgpuTypes]

/-- Client to server. -/
inductive Action where
  | Hello (protocol_version : UInt32)
  | RequestAdapter
  | RequestDevice (label : Option String)
  | CreateBuffer (id : BufferId) (desc : BufferDescriptor)
  | CreateTexture (id : TextureId) (desc : TextureDescriptor)
  | CreateTextureView (id : TextureViewId) (texture : TextureId) (desc : TextureViewDescriptor)
  | CreateSampler (id : SamplerId) (desc : SamplerDescriptor)
  | CreateShaderModule (id : ShaderModuleId) (desc : ShaderModuleDescriptor)
  | CreateBindGroupLayout (id : BindGroupLayoutId) (desc : BindGroupLayoutDescriptor)
  | CreateBindGroup (id : BindGroupId) (desc : BindGroupDescriptor)
  | CreatePipelineLayout (id : PipelineLayoutId) (desc : PipelineLayoutDescriptor)
  | CreateRenderPipeline (id : RenderPipelineId) (desc : RenderPipelineDescriptor)
  | CreateComputePipeline (id : ComputePipelineId) (desc : ComputePipelineDescriptor)
  | CreateCommandEncoder (id : CommandBufferId) (desc : CommandEncoderDescriptor)
  | Destroy (resource : ResourceId)
  | WriteBuffer (buffer : BufferId) (offset : BufferAddress) (data : Bytes)
  | WriteTexture (texture : TextureId) (mip_level : UInt32) (origin : Origin3d)
      (aspect : TextureAspect) (data : Bytes) (data_layout : TexelCopyBufferLayout)
      (size : Extent3d)
  | DeriveRenderPipelineBindGroupLayout (pipeline : RenderPipelineId) (index : UInt32)
      (id : BindGroupLayoutId)
  | DeriveComputePipelineBindGroupLayout (pipeline : ComputePipelineId) (index : UInt32)
      (id : BindGroupLayoutId)
  | Submit (recordings : List Bytes)
  | MapBufferForRead (buffer : BufferId) (offset : BufferAddress) (size : BufferAddress)

structure Frame where
  request_id : Option RequestId
  action : Action

/-! ## What an action mentions -/

/-- The ids a binding names. -/
def BindingResource.refs : BindingResource → List Ref
  | .Buffer b _ _ => [b.ref]
  | .BufferArray bs => bs.map fun b => b.buffer.ref
  | .Sampler s => [s.ref]
  | .SamplerArray ss => ss.map Id.ref
  | .TextureView v => [v.ref]
  | .TextureViewArray vs => vs.map Id.ref

/-- The array variants, which the server does not support. -/
def BindingResource.is_array : BindingResource → Bool
  | .BufferArray _ | .SamplerArray _ | .TextureViewArray _ => true
  | .Buffer _ _ _ | .Sampler _ | .TextureView _ => false

/-- The ids the recording in a `Submit` payload mentions. -/
def payload_refs (raw : Bytes) : List Ref :=
  match CommandBufferRecording.decode raw with
  | .ok recording => recording.refs
  | .error _ => []

/-- The ids an action reads. -/
def Action.reads : Action → List Ref
  | .Hello _ | .RequestAdapter | .RequestDevice _ => []
  | .CreateBuffer _ _ | .CreateTexture _ _ | .CreateSampler _ _ | .CreateShaderModule _ _
  | .CreateBindGroupLayout _ _ | .CreateCommandEncoder _ _ => []
  | .CreateTextureView _ texture _ => [texture.ref]
  | .CreateBindGroup _ desc =>
      desc.layout.ref :: desc.entries.flatMap fun e => e.resource.refs
  | .CreatePipelineLayout _ desc => desc.bind_group_layouts.map Id.ref
  | .CreateRenderPipeline _ desc =>
      (desc.layout.map Id.ref).toList ++
        desc.vertex.module.ref :: (desc.fragment.map fun f => f.module.ref).toList
  | .CreateComputePipeline _ desc => desc.module.ref :: (desc.layout.map Id.ref).toList
  | .Destroy _ => []
  | .WriteBuffer buffer _ _ => [buffer.ref]
  | .WriteTexture texture _ _ _ _ _ _ => [texture.ref]
  | .DeriveRenderPipelineBindGroupLayout pipeline _ _ => [pipeline.ref]
  | .DeriveComputePipelineBindGroupLayout pipeline _ _ => [pipeline.ref]
  | .Submit recordings => recordings.flatMap payload_refs
  | .MapBufferForRead buffer _ _ => [buffer.ref]

/-- The action has no defect of its own: its shader source is WGSL, its bind
group has no array resource, each of its recordings decodes. -/
def Action.supported : Action → Prop
  | .CreateShaderModule _ desc => ∃ src, desc.source = .Wgsl src
  | .CreateBindGroup _ desc => ∀ e ∈ desc.entries, e.resource.is_array = false
  | .Submit recordings =>
      ∀ raw ∈ recordings, ∃ recording, CommandBufferRecording.decode raw = .ok recording
  | _ => True

/-- The id a create or derive action makes. -/
def Action.creates : Action → Option Ref
  | .CreateBuffer id _ => some id.ref
  | .CreateTexture id _ => some id.ref
  | .CreateTextureView id _ _ => some id.ref
  | .CreateSampler id _ => some id.ref
  | .CreateShaderModule id _ => some id.ref
  | .CreateBindGroupLayout id _ => some id.ref
  | .CreateBindGroup id _ => some id.ref
  | .CreatePipelineLayout id _ => some id.ref
  | .CreateRenderPipeline id _ => some id.ref
  | .CreateComputePipeline id _ => some id.ref
  | .DeriveRenderPipelineBindGroupLayout _ _ id => some id.ref
  | .DeriveComputePipelineBindGroupLayout _ _ id => some id.ref
  | _ => none

/-- The id a `Destroy` names, if its kind has a table. -/
def Action.destroys : Action → Option Ref
  | .Destroy resource => resource.ref
  | _ => none

/-- No action does both. -/
theorem Action.creates_of_destroys {a : Action} {r : Ref} (h : a.destroys = some r) :
    a.creates = none := by
  cases a with
  | Destroy resource => rfl
  | _ => cases h

/-- Only `CreateBuffer` makes a buffer. -/
theorem Action.eq_create_buffer {a : Action} {r : Ref} (h : a.creates = some r)
    (hk : r.kind = .Buffer) : ∃ id desc, a = .CreateBuffer id desc := by
  rcases a
  case CreateBuffer id desc => exact ⟨id, desc, rfl⟩
  all_goals first | (cases h; done) | (rw [← Option.some.inj h] at hk; exact absurd hk nofun)

/-! ## Wire format -/

namespace Wire

def request_id : Codec RequestId :=
  Codec.u64.map (fun n => ⟨n⟩) (fun i => i.raw) (fun _ => rfl)

/-- The variant that is not the same in every build; this is the wgpu 27 one. -/
def create_pipeline_layout : Codec.Variant Action where
  fields := (id .PipelineLayout).seq pipeline_layout_descriptor
  make := fun ⟨i, d⟩ => .CreatePipelineLayout i d
  view := fun | .CreatePipelineLayout i d => some (i, d) | _ => none

/-- The variants of `Action`. -/
def action_variants (create_pipeline_layout : Codec.Variant Action) : List (Codec.Variant Action) :=
  [ { fields := Codec.u32, make := .Hello
      view := fun | .Hello v => some v | _ => none },
    { fields := Codec.unit, make := fun _ => .RequestAdapter
      view := fun | .RequestAdapter => some () | _ => none },
    { fields := label, make := .RequestDevice
      view := fun | .RequestDevice l => some l | _ => none },
    { fields := (id .Buffer).seq buffer_descriptor, make := fun ⟨i, d⟩ => .CreateBuffer i d
      view := fun | .CreateBuffer i d => some (i, d) | _ => none },
    { fields := (id .Texture).seq texture_descriptor, make := fun ⟨i, d⟩ => .CreateTexture i d
      view := fun | .CreateTexture i d => some (i, d) | _ => none },
    { fields := (id .TextureView).seq <| (id .Texture).seq texture_view_descriptor
      make := fun ⟨i, t, d⟩ => .CreateTextureView i t d
      view := fun | .CreateTextureView i t d => some (i, t, d) | _ => none },
    { fields := (id .Sampler).seq sampler_descriptor, make := fun ⟨i, d⟩ => .CreateSampler i d
      view := fun | .CreateSampler i d => some (i, d) | _ => none },
    { fields := (id .ShaderModule).seq shader_module_descriptor
      make := fun ⟨i, d⟩ => .CreateShaderModule i d
      view := fun | .CreateShaderModule i d => some (i, d) | _ => none },
    { fields := (id .BindGroupLayout).seq bind_group_layout_descriptor
      make := fun ⟨i, d⟩ => .CreateBindGroupLayout i d
      view := fun | .CreateBindGroupLayout i d => some (i, d) | _ => none },
    { fields := (id .BindGroup).seq bind_group_descriptor
      make := fun ⟨i, d⟩ => .CreateBindGroup i d
      view := fun | .CreateBindGroup i d => some (i, d) | _ => none },
    create_pipeline_layout,
    { fields := (id .RenderPipeline).seq render_pipeline_descriptor
      make := fun ⟨i, d⟩ => .CreateRenderPipeline i d
      view := fun | .CreateRenderPipeline i d => some (i, d) | _ => none },
    { fields := (id .ComputePipeline).seq compute_pipeline_descriptor
      make := fun ⟨i, d⟩ => .CreateComputePipeline i d
      view := fun | .CreateComputePipeline i d => some (i, d) | _ => none },
    { fields := command_buffer_id.seq command_encoder_descriptor
      make := fun ⟨i, d⟩ => .CreateCommandEncoder i d
      view := fun | .CreateCommandEncoder i d => some (i, d) | _ => none },
    { fields := resource_id, make := .Destroy
      view := fun | .Destroy r => some r | _ => none },
    { fields := (id .Buffer).seq <| Codec.u64.seq Codec.bytes
      make := fun ⟨b, o, d⟩ => .WriteBuffer b o d
      view := fun | .WriteBuffer b o d => some (b, o, d) | _ => none },
    { fields := (id .Texture).seq <| Codec.u32.seq <| Origin3d.codec.seq <|
        TextureAspect.codec.seq <| Codec.bytes.seq <| TexelCopyBufferLayout.codec.seq
        Extent3d.codec
      make := fun ⟨t, m, o, a, d, l, s⟩ => .WriteTexture t m o a d l s
      view := fun | .WriteTexture t m o a d l s => some (t, m, o, a, d, l, s) | _ => none },
    { fields := (id .RenderPipeline).seq <| Codec.u32.seq (id .BindGroupLayout)
      make := fun ⟨p, n, i⟩ => .DeriveRenderPipelineBindGroupLayout p n i
      view := fun | .DeriveRenderPipelineBindGroupLayout p n i => some (p, n, i) | _ => none },
    { fields := (id .ComputePipeline).seq <| Codec.u32.seq (id .BindGroupLayout)
      make := fun ⟨p, n, i⟩ => .DeriveComputePipelineBindGroupLayout p n i
      view := fun | .DeriveComputePipelineBindGroupLayout p n i => some (p, n, i) | _ => none },
    { fields := Codec.bytes.list, make := .Submit
      view := fun | .Submit r => some r | _ => none },
    { fields := (id .Buffer).seq <| Codec.u64.seq Codec.u64
      make := fun ⟨b, o, s⟩ => .MapBufferForRead b o s
      view := fun | .MapBufferForRead b o s => some (b, o, s) | _ => none } ]

def action : Codec Action :=
  Codec.variants (action_variants create_pipeline_layout) (by simp [action_variants])

def frame : Codec Frame :=
  (request_id.option.seq action).map
    (fun ⟨a, b⟩ => ⟨a, b⟩) (fun f => (f.request_id, f.action)) (fun _ => rfl)

end Wire

end Actions

namespace Wire

def error_code : Codec ErrorCode :=
  Codec.variants
    [ { fields := Codec.unit, make := fun _ => .ProtocolVersionMismatch
        view := fun | .ProtocolVersionMismatch => some () | _ => none },
      { fields := Codec.unit, make := fun _ => .UnknownResource
        view := fun | .UnknownResource => some () | _ => none },
      { fields := Codec.unit, make := fun _ => .InvalidArgument
        view := fun | .InvalidArgument => some () | _ => none },
      { fields := Codec.unit, make := fun _ => .OutOfMemory
        view := fun | .OutOfMemory => some () | _ => none },
      { fields := Codec.unit, make := fun _ => .DeviceLost
        view := fun | .DeviceLost => some () | _ => none },
      { fields := Codec.unit, make := fun _ => .Internal
        view := fun | .Internal => some () | _ => none } ]
    (by simp)

def response : Codec Response :=
  Codec.variants
    [ { fields := Codec.u32, make := .HelloAck
        view := fun | .HelloAck v => some v | _ => none },
      { fields := Codec.unit, make := fun _ => .Ok
        view := fun | .Ok => some () | _ => none },
      { fields := Codec.bytes, make := .BufferData
        view := fun | .BufferData d => some d | _ => none },
      { fields := Codec.u64, make := .SubmissionComplete
        view := fun | .SubmissionComplete n => some n | _ => none },
      { fields := error_code.seq Codec.string, make := fun ⟨c, m⟩ => .Error c m
        view := fun | .Error c m => some (c, m) | _ => none } ]
    (by simp)

def response_frame : Codec ResponseFrame :=
  (request_id.seq response).map
    (fun ⟨a, b⟩ => ⟨a, b⟩) (fun f => (f.request_id, f.response)) (fun _ => rfl)

end Wire

end WgpuRemote
