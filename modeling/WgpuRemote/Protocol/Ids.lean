/-
`protocol::ids`: typed resource handles.

The client mints monotonic `u64`s and the server keeps one table per resource
type. In the source each kind is a newtype of its own (`id_type!`); here the
newtype is `Id`, indexed by the kind, and the source's names are the instances
of it. The three kinds without a table (`DeviceId`, `QueueId`,
`CommandBufferId`) only ever occur inside a `ResourceId`.
-/
import Mathlib.Tactic.Common
import WgpuRemote.Lib.Bincode

set_option autoImplicit false

namespace WgpuRemote

open Bincode

/-- The resource kinds the server keeps a table for. -/
inductive Kind where
  | Buffer
  | Texture
  | TextureView
  | Sampler
  | ShaderModule
  | BindGroupLayout
  | BindGroup
  | PipelineLayout
  | RenderPipeline
  | ComputePipeline
deriving DecidableEq, Repr

/-- The name of the kind's id type, as it stands in error texts. -/
def Kind.id_name : Kind → String
  | .Buffer => "BufferId"
  | .Texture => "TextureId"
  | .TextureView => "TextureViewId"
  | .Sampler => "SamplerId"
  | .ShaderModule => "ShaderModuleId"
  | .BindGroupLayout => "BindGroupLayoutId"
  | .BindGroup => "BindGroupId"
  | .PipelineLayout => "PipelineLayoutId"
  | .RenderPipeline => "RenderPipelineId"
  | .ComputePipeline => "ComputePipelineId"

/-- `id_type!`: a newtype of `u64`, one for each kind. -/
@[ext] structure Id (k : Kind) where
  raw : UInt64
deriving DecidableEq, Repr

abbrev BufferId := Id .Buffer
abbrev TextureId := Id .Texture
abbrev TextureViewId := Id .TextureView
abbrev SamplerId := Id .Sampler
abbrev ShaderModuleId := Id .ShaderModule
abbrev BindGroupLayoutId := Id .BindGroupLayout
abbrev BindGroupId := Id .BindGroup
abbrev PipelineLayoutId := Id .PipelineLayout
abbrev RenderPipelineId := Id .RenderPipeline
abbrev ComputePipelineId := Id .ComputePipeline

structure DeviceId where
  raw : UInt64
deriving DecidableEq, Repr

structure QueueId where
  raw : UInt64
deriving DecidableEq, Repr

structure CommandBufferId where
  raw : UInt64
deriving DecidableEq, Repr

/-- An id together with its kind: what names one entry of one table. -/
structure Ref where
  kind : Kind
  id : Id kind
deriving DecidableEq

/-- The reference of an id. -/
def Id.ref {k : Kind} (id : Id k) : Ref := ⟨k, id⟩

@[simp] theorem Id.ref_kind {k : Kind} (id : Id k) : id.ref.kind = k := rfl

@[simp] theorem Id.ref_id {k : Kind} (id : Id k) : id.ref.id = id := rfl

/-- Ids of one kind are the same entry only if they are the same id. -/
theorem Id.ref_inj {k : Kind} {a b : Id k} : a.ref = b.ref ↔ a = b := by
  constructor
  · intro h
    cases h
    rfl
  · rintro rfl
    rfl

/-- Tagged union over every resource id, the argument of `Action::Destroy`. -/
inductive ResourceId where
  | Device (id : DeviceId)
  | Queue (id : QueueId)
  | Buffer (id : BufferId)
  | Texture (id : TextureId)
  | TextureView (id : TextureViewId)
  | Sampler (id : SamplerId)
  | ShaderModule (id : ShaderModuleId)
  | BindGroupLayout (id : BindGroupLayoutId)
  | BindGroup (id : BindGroupId)
  | PipelineLayout (id : PipelineLayoutId)
  | RenderPipeline (id : RenderPipelineId)
  | ComputePipeline (id : ComputePipelineId)
  | CommandBuffer (id : CommandBufferId)
deriving DecidableEq, Repr

/-- The table entry a `ResourceId` names, if its kind has a table. -/
def ResourceId.ref : ResourceId → Option Ref
  | .Device _ | .Queue _ | .CommandBuffer _ => none
  | .Buffer id => some id.ref
  | .Texture id => some id.ref
  | .TextureView id => some id.ref
  | .Sampler id => some id.ref
  | .ShaderModule id => some id.ref
  | .BindGroupLayout id => some id.ref
  | .BindGroup id => some id.ref
  | .PipelineLayout id => some id.ref
  | .RenderPipeline id => some id.ref
  | .ComputePipeline id => some id.ref

/-- The `ResourceId` a handle of this kind ships on `Drop`. -/
def ResourceId.of : (k : Kind) → Id k → ResourceId
  | .Buffer, id => .Buffer id
  | .Texture, id => .Texture id
  | .TextureView, id => .TextureView id
  | .Sampler, id => .Sampler id
  | .ShaderModule, id => .ShaderModule id
  | .BindGroupLayout, id => .BindGroupLayout id
  | .BindGroup, id => .BindGroup id
  | .PipelineLayout, id => .PipelineLayout id
  | .RenderPipeline, id => .RenderPipeline id
  | .ComputePipeline, id => .ComputePipeline id

/-- A resource id refers to the entry of the id it carries. -/
@[simp] theorem ResourceId.ref_of (k : Kind) (id : Id k) : (ResourceId.of k id).ref = some id.ref := by
  cases k <;> rfl

/-! ## Wire format -/

namespace Wire

/-- A newtype is serialized as its contents. -/
def id (k : Kind) : Codec (Id k) :=
  Codec.u64.map (fun n => ⟨n⟩) (fun i => i.raw) (fun _ => rfl)

def device_id : Codec DeviceId :=
  Codec.u64.map (fun n => ⟨n⟩) (fun i => i.raw) (fun _ => rfl)

def queue_id : Codec QueueId :=
  Codec.u64.map (fun n => ⟨n⟩) (fun i => i.raw) (fun _ => rfl)

def command_buffer_id : Codec CommandBufferId :=
  Codec.u64.map (fun n => ⟨n⟩) (fun i => i.raw) (fun _ => rfl)

def resource_id : Codec ResourceId :=
  Codec.variants
    [ { fields := device_id, make := .Device
        view := fun | .Device id => some id | _ => none },
      { fields := queue_id, make := .Queue
        view := fun | .Queue id => some id | _ => none },
      { fields := id .Buffer, make := .Buffer
        view := fun | .Buffer id => some id | _ => none },
      { fields := id .Texture, make := .Texture
        view := fun | .Texture id => some id | _ => none },
      { fields := id .TextureView, make := .TextureView
        view := fun | .TextureView id => some id | _ => none },
      { fields := id .Sampler, make := .Sampler
        view := fun | .Sampler id => some id | _ => none },
      { fields := id .ShaderModule, make := .ShaderModule
        view := fun | .ShaderModule id => some id | _ => none },
      { fields := id .BindGroupLayout, make := .BindGroupLayout
        view := fun | .BindGroupLayout id => some id | _ => none },
      { fields := id .BindGroup, make := .BindGroup
        view := fun | .BindGroup id => some id | _ => none },
      { fields := id .PipelineLayout, make := .PipelineLayout
        view := fun | .PipelineLayout id => some id | _ => none },
      { fields := id .RenderPipeline, make := .RenderPipeline
        view := fun | .RenderPipeline id => some id | _ => none },
      { fields := id .ComputePipeline, make := .ComputePipeline
        view := fun | .ComputePipeline id => some id | _ => none },
      { fields := command_buffer_id, make := .CommandBuffer
        view := fun | .CommandBuffer id => some id | _ => none } ]
    (by decide)

end Wire

end WgpuRemote
