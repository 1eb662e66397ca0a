/-
The engine's arms that create.

Every create and derive arm resolves the ids of its descriptor, makes one wgpu
call and inserts what it got; `creation` gives the reference and the resolved
call, and `exec_creation` that this is all the arm does. The resolving is
described by its footprint (`creation_resolves`): it succeeds exactly when the
action is supported and finds all it reads.
-/
import WgpuRemote.Lib.Footprint
import WgpuRemote.Server.Engine

set_option autoImplicit false

namespace WgpuRemote.Server

open Bincode Footprint
open Wgpu (Occ Obj Call Event Gpu)
open Dispatch (attempt issue make add store with_tables insert respond exec)
open Prog (Mem)

section Creation

variable [WgpuTypes]

/-! ## Footprints of the lookups -/

/-- The error about an id the tables do not hold. -/
def IsUnknown (r : Response) : Prop := ∃ what raw, r = unknown what raw

/-- The error about an action the server does not support. -/
def IsInvalid (r : Response) : Prop := ∃ message, r = .Error .InvalidArgument message

omit [WgpuTypes] in
/-- An empty entry is reported under the name the lookup was given. -/
theorem lookup_as_none (what : String) {t : ResourceTables} {k : Kind} {id : Id k}
    (h : t id.ref = none) : lookup_as what t id = .error (unknown what id.raw) := by
  unfold lookup_as
  rw [ResourceTables.get_eq_none.mpr h]

omit [WgpuTypes] in
/-- An entry that is held is handed out as the object it records. -/
theorem lookup_as_some (what : String) {t : ResourceTables} {k : Kind} {id : Id k} {o : Occ}
    (h : t id.ref = some o) : lookup_as what t id = .ok ⟨o⟩ := by
  have hget : t.get id = some ⟨o⟩ := ResourceTables.get_eq_some.mpr h
  unfold lookup_as
  rw [hget]

omit [WgpuTypes] in
/-- A lookup reads one entry and fails exactly when that entry is empty. -/
theorem resolves_lookup_as (what : String) {k : Kind} (id : Id k) :
    Resolves IsUnknown IsInvalid (fun t => lookup_as what t id) True [id.ref] := by
  exact Resolves.lookup (f := Obj.mk) ⟨what, id.raw, rfl⟩ (fun _ h => lookup_as_none what h)
    (fun _ _ h => lookup_as_some what h)

omit [WgpuTypes] in
/-- The same under the kind's own name. -/
theorem resolves_lookup {k : Kind} (id : Id k) :
    Resolves IsUnknown IsInvalid (fun t => lookup t id) True [id.ref] :=
  resolves_lookup_as k.id_name id

omit [WgpuTypes] in
/-- An optional id reads no entry when it is absent. -/
theorem resolves_lookup_option {k : Kind} (id : Option (Id k)) :
    Resolves IsUnknown IsInvalid (fun t => lookup_option t id) True (id.map Id.ref).toList := by
  cases id with
  | none => exact Resolves.pure none
  | some id => exact (resolves_lookup id).map some

/-- A buffer side of a copy reads its buffer only. -/
theorem resolves_image_copy_buffer (src : ImageCopyBuffer) :
    Resolves IsUnknown IsInvalid (fun t => lookup_image_copy_buffer t src) True [src.buffer.ref] :=
  (resolves_lookup src.buffer).bind_pure _

/-- A texture side of a copy reads its texture only. -/
theorem resolves_image_copy_texture (src : ImageCopyTexture) :
    Resolves IsUnknown IsInvalid (fun t => lookup_image_copy_texture t src) True [src.texture.ref] :=
  (resolves_lookup src.texture).bind_pure _

/-- An attachment reads its view and, when there is one, its resolve target. -/
theorem resolves_color_attachment (att : Option RenderPassColorAttachment) :
    Resolves IsUnknown IsInvalid (fun t => color_attachment t att) True
      (att.elim [] RenderPassColorAttachment.refs) := by
  cases att with
  | none => exact Resolves.pure none
  | some att =>
      have h := (resolves_lookup att.view).bind fun view =>
        (resolves_lookup_option att.resolve_target).bind_pure fun resolve =>
          some ({ view, depth_slice := att.depth_slice, resolve_target := resolve
                  ops := att.ops } : Wgpu.RenderPassColorAttachment Obj)
      exact h.of_iff (and_self_iff) rfl

/-- A depth attachment reads its view. -/
theorem resolves_depth_attachment (att : Option RenderPassDepthStencilAttachment) :
    Resolves IsUnknown IsInvalid (fun t => depth_attachment t att) True
      (att.map fun a => a.view.ref).toList := by
  cases att with
  | none => exact Resolves.pure none
  | some att => exact (resolves_lookup att.view).bind_pure _

/-! ## Arms that create -/

/-- A create or derive action: the reference it makes, and the wgpu call the
tables resolve its descriptor to. -/
structure Creation where
  ref : Ref
  call : ResourceTables → Except Response Call

/-- What a create or derive action creates. -/
def creation : Action → Option Creation
  | .CreateBuffer id desc => some ⟨id.ref, fun _ => .ok (.create_buffer desc)⟩
  | .CreateTexture id desc => some ⟨id.ref, fun _ => .ok (.create_texture desc)⟩
  | .CreateTextureView id texture desc =>
      some ⟨id.ref, fun t => (lookup t texture).map fun tex =>
        .create_view tex (texture_view_descriptor desc)⟩
  | .CreateSampler id desc => some ⟨id.ref, fun _ => .ok (.create_sampler desc)⟩
  | .CreateShaderModule id desc =>
      some ⟨id.ref, fun _ => (shader_source desc.source).map fun source =>
        .create_shader_module { label := desc.label, source }⟩
  | .CreateBindGroupLayout id desc =>
      some ⟨id.ref, fun _ =>
        .ok (.create_bind_group_layout { label := desc.label, entries := desc.entries })⟩
  | .CreateBindGroup id desc =>
      some ⟨id.ref, fun t => (bind_group_descriptor t desc).map .create_bind_group⟩
  | .CreatePipelineLayout id desc =>
      some ⟨id.ref, fun t => (pipeline_layout_descriptor t desc).map .create_pipeline_layout⟩
  | .CreateRenderPipeline id desc =>
      some ⟨id.ref, fun t => (render_pipeline_descriptor t desc).map .create_render_pipeline⟩
  | .CreateComputePipeline id desc =>
      some ⟨id.ref, fun t => (compute_pipeline_descriptor t desc).map .create_compute_pipeline⟩
  | .DeriveRenderPipelineBindGroupLayout pipeline index id =>
      some ⟨id.ref, fun t => (lookup t pipeline).map fun rp =>
        .render_get_bind_group_layout rp index⟩
  | .DeriveComputePipelineBindGroupLayout pipeline index id =>
      some ⟨id.ref, fun t => (lookup t pipeline).map fun cp =>
        .compute_get_bind_group_layout cp index⟩
  | _ => none

/-- The create actions whose call needs no other resource: it is made before
the tables are locked. -/
def creates_alone : Action → Bool
  | .CreateBuffer _ _ | .CreateTexture _ _ | .CreateSampler _ _ | .CreateShaderModule _ _
  | .CreateBindGroupLayout _ _ => true
  | _ => false

/-- The shapes of the create arms, and whether they make their call without the
guard. -/
inductive CreateArm : Bool → Dispatch Response → Creation → Prop
  /-- Nothing is resolved. -/
  | unlocked {k : Kind} (id : Id k) (call : Call) :
      CreateArm true (do let o ← make k call; insert id o; return Response.Ok)
        ⟨id.ref, fun _ => .ok call⟩
  /-- The descriptor is checked, but names no resource. -/
  | checked {k : Kind} {α : Type} (id : Id k) (b : Except Response α) (f : α → Call) :
      CreateArm true (attempt b >>= fun x => do
          let o ← make k (f x)
          insert id o
          return Response.Ok)
        ⟨id.ref, fun _ => b.map f⟩
  /-- The descriptor is resolved under one guard, the resource inserted under
  another. -/
  | locked {k : Kind} {α : Type} (id : Id k) (b : ResourceTables → Except Response α)
      (f : α → Call) :
      CreateArm false (do
          let o ← with_tables fun t => do
            let desc ← attempt (b t)
            make k (f desc)
          insert id o
          return Response.Ok)
        ⟨id.ref, fun t => (b t).map f⟩
  /-- One guard for both. -/
  | derive {k : Kind} (pipeline : Id k) (f : Obj k → Call) (id : BindGroupLayoutId) :
      CreateArm false (derive_bind_group_layout pipeline f id)
        ⟨id.ref, fun t => (lookup t pipeline).map f⟩

/-- Every create arm has one of the shapes. -/
theorem create_arm {a : Action} {c : Creation} (h : creation a = some c) :
    CreateArm (creates_alone a) (handle_arm a) c := by
  rcases a
  case CreateBuffer id desc | CreateTexture id desc | CreateSampler id desc |
      CreateBindGroupLayout id desc =>
    rw [← Option.some.inj h]
    exact .unlocked id _
  case CreateShaderModule id desc =>
    rw [← Option.some.inj h]
    exact .checked id (shader_source desc.source) _
  case CreateTextureView id texture desc =>
    rw [← Option.some.inj h]
    exact .locked id (fun t => lookup t texture) _
  case CreateBindGroup id desc =>
    rw [← Option.some.inj h]
    exact .locked id (fun t => bind_group_descriptor t desc) _
  case CreatePipelineLayout id desc =>
    rw [← Option.some.inj h]
    exact .locked id (fun t => pipeline_layout_descriptor t desc) _
  case CreateRenderPipeline id desc =>
    rw [← Option.some.inj h]
    exact .locked id (fun t => render_pipeline_descriptor t desc) _
  case CreateComputePipeline id desc =>
    rw [← Option.some.inj h]
    exact .locked id (fun t => compute_pipeline_descriptor t desc) _
  case DeriveRenderPipelineBindGroupLayout pipeline index id |
      DeriveComputePipelineBindGroupLayout pipeline index id =>
    rw [← Option.some.inj h]
    exact .derive pipeline _ id
  all_goals exact absurd h (by simp [creation])

/-- The memory after a create arm whose call is `c`. -/
def created (reply : Occ → Call → Answer) (d : ℕ) (m : Mem) (r : Ref) (c : Call) : Mem where
  tables := Store.insert m.tables r (reply (m.next_occ d) c).made
  events := (m.log d c).events

variable (reply : Occ → Call → Answer) (d : ℕ) (m : Mem)

/-- The create functions that resolve nothing lock the tables once, to insert. -/
theorem exec_create_unlocked {k : Kind} (id : Id k) (c : Call) :
    exec reply d (do let o ← make k c; insert id o; return Response.Ok) m =
      (.ok .Ok, created reply d m id.ref c) := by
  rw [Dispatch.exec_bind_ok reply d m (Dispatch.exec_make reply d m k c),
    Dispatch.exec_bind_ok reply d _ (Dispatch.exec_insert reply d _ id _)]
  rfl

/-- The create functions that resolve something lock the tables twice. -/
theorem exec_create_locked {α : Type} {k : Kind} (id : Id k)
    (b : ResourceTables → Except Response α) (f : α → Call) :
    exec reply d (do
        let o ← with_tables fun t => do
          let desc ← attempt (b t)
          make k (f desc)
        insert id o
        return Response.Ok) m =
      match (b m.tables).map f with
      | .ok c => (.ok .Ok, created reply d m id.ref c)
      | .error r => (.error r, m) := by
  rw [Dispatch.exec_bind, Dispatch.exec_with_tables, Dispatch.exec_bind, Dispatch.exec_attempt]
  cases b m.tables with
  | error r => rfl
  | ok desc => exact exec_create_unlocked reply d m id (f desc)

/-- The derive arms lock the tables once: they insert under the guard that they
looked the pipeline up with. -/
theorem exec_derive {k : Kind} (pipeline : Id k) (get_bind_group_layout : Obj k → Call)
    (id : BindGroupLayoutId) :
    exec reply d (derive_bind_group_layout pipeline get_bind_group_layout id) m =
      match (lookup m.tables pipeline).map get_bind_group_layout with
      | .ok c => (.ok .Ok, created reply d m id.ref c)
      | .error r => (.error r, m) := by
  rw [derive_bind_group_layout, Dispatch.exec_with_tables, Dispatch.exec_bind,
    Dispatch.exec_attempt]
  rcases lookup m.tables pipeline with r | p
  · rfl
  · rfl

/-- **The arms that create.** -/
theorem exec_creation {a : Action} {c : Creation} (h : creation a = some c) :
    exec reply d (handle_arm a) m =
      match c.call m.tables with
      | .ok call => (.ok .Ok, created reply d m c.ref call)
      | .error r => (.error r, m) := by
  have harm := create_arm h
  generalize handle_arm a = arm at harm ⊢
  generalize creates_alone a = alone at harm
  cases harm with
  | unlocked id call => exact exec_create_unlocked reply d m id call
  | checked id b f =>
      rw [Dispatch.exec_bind, Dispatch.exec_attempt]
      rcases b with r | x
      · rfl
      · exact exec_create_unlocked reply d m id (f x)
  | locked id b f => exact exec_create_locked reply d m id b f
  | derive pipeline f id => exact exec_derive reply d m pipeline f id

/-! ## What the create arms resolve -/

/-- A shader source reads no table; every language but WGSL is refused. -/
theorem resolves_shader_source (source : ShaderSource) :
    Resolves IsUnknown IsInvalid (fun _ : ResourceTables => shader_source source) (∃ src, source = .Wgsl src) [] := by
  cases source with
  | Wgsl src => exact (Resolves.pure _).of_iff (by simp) rfl
  | SpirV words => exact (Resolves.error ⟨_, rfl⟩ _).of_iff (by simp) rfl
  | Glsl shader stage defines => exact (Resolves.error ⟨_, rfl⟩ _).of_iff (by simp) rfl

omit [WgpuTypes] in
/-- A binding reads the ids it names; an array is refused whatever they hold. -/
theorem resolves_bind_group_resource (resource : BindingResource) :
    Resolves IsUnknown IsInvalid (fun t => bind_group_resource t resource) (resource.is_array = false)
      resource.refs := by
  cases resource with
  | Buffer buffer offset size =>
      exact ((resolves_lookup buffer).bind_pure _).of_iff (by simp [BindingResource.is_array]) rfl
  | Sampler id =>
      exact ((resolves_lookup id).bind_pure _).of_iff (by simp [BindingResource.is_array]) rfl
  | TextureView id =>
      exact ((resolves_lookup id).bind_pure _).of_iff (by simp [BindingResource.is_array]) rfl
  | BufferArray bindings =>
      exact (Resolves.error ⟨_, rfl⟩ _).of_iff (by simp [BindingResource.is_array]) rfl
  | SamplerArray ids =>
      exact (Resolves.error ⟨_, rfl⟩ _).of_iff (by simp [BindingResource.is_array]) rfl
  | TextureViewArray ids =>
      exact (Resolves.error ⟨_, rfl⟩ _).of_iff (by simp [BindingResource.is_array]) rfl

omit [WgpuTypes] in
/-- A bind group reads its layout and what its entries name; an array among these refuses the
group. -/
theorem resolves_bind_group (desc : BindGroupDescriptor) :
    Resolves IsUnknown IsInvalid (fun t => bind_group_descriptor t desc)
      (∀ e ∈ desc.entries, e.resource.is_array = false)
      (desc.layout.ref :: desc.entries.flatMap fun e => e.resource.refs) := by
  have hentry : ∀ e : BindGroupEntry, Resolves IsUnknown IsInvalid (fun t => bind_group_entry t e)
      (e.resource.is_array = false) e.resource.refs := fun e =>
    (resolves_bind_group_resource e.resource).bind_pure _
  have h := (resolves_lookup desc.layout).bind fun layout =>
    (Resolves.mapM hentry desc.entries).bind_pure fun entries =>
      ({ label := desc.label, layout, entries } : Wgpu.BindGroupDescriptor Obj)
  exact h.of_iff (by simp) rfl

/-- A pipeline layout reads the bind group layouts it lists. -/
theorem resolves_pipeline_layout (desc : PipelineLayoutDescriptor) :
    Resolves IsUnknown IsInvalid (fun t => pipeline_layout_descriptor t desc) True
      (desc.bind_group_layouts.map Id.ref) := by
  have h := (Resolves.mapM resolves_lookup desc.bind_group_layouts).bind_pure fun bgls =>
    ({ label := desc.label, bind_group_layouts := bgls
       push_constant_ranges := desc.push_constant_ranges } : Wgpu.PipelineLayoutDescriptor Obj)
  exact h.of_iff (by simp) (List.map_eq_flatMap.symm)

omit [WgpuTypes] in
/-- A compute pipeline reads its module and, when it has one, its layout. -/
theorem resolves_compute_pipeline (desc : ComputePipelineDescriptor) :
    Resolves IsUnknown IsInvalid (fun t => compute_pipeline_descriptor t desc) True
      (desc.module.ref :: (desc.layout.map Id.ref).toList) := by
  have h := (resolves_lookup desc.module).bind fun module =>
    (resolves_lookup_option desc.layout).bind_pure fun layout =>
      ({ label := desc.label, layout, module, entry_point := desc.entry_point
         compilation_options := .default } : Wgpu.ComputePipelineDescriptor Obj)
  exact h.of_iff (and_self_iff) rfl

/-- A fragment stage reads its module when there is one. -/
theorem resolves_fragment (f : Option FragmentState) :
    Resolves IsUnknown IsInvalid (fun t => lookup_fragment t f) True
      (f.map fun f => f.module.ref).toList := by
  cases f with
  | none => exact Resolves.pure none
  | some f => exact (resolves_lookup_as "fragment ShaderModuleId" f.module).bind_pure _

/-- A render pipeline reads its layout and its fragment module when it has them, and its vertex
module. -/
theorem resolves_render_pipeline (desc : RenderPipelineDescriptor) :
    Resolves IsUnknown IsInvalid (fun t => render_pipeline_descriptor t desc) True
      ((desc.layout.map Id.ref).toList ++
        desc.vertex.module.ref :: (desc.fragment.map fun f => f.module.ref).toList) := by
  have h := (resolves_lookup_option desc.layout).bind fun layout =>
    (resolves_lookup_as "vertex ShaderModuleId" desc.vertex.module).bind fun vertex_module =>
      (resolves_fragment desc.fragment).bind_pure fun fragment =>
        ({ label := desc.label, layout
           vertex :=
             { module := vertex_module, entry_point := desc.vertex.entry_point
               compilation_options := .default
               buffers := desc.vertex.buffers.map fun vbl =>
                 { array_stride := vbl.array_stride, step_mode := vbl.step_mode
                   attributes := vbl.attributes } }
           primitive := desc.primitive, depth_stencil := desc.depth_stencil
           multisample := desc.multisample, fragment
           multiview := desc.multiview.bind non_zero_u32 } : Wgpu.RenderPipelineDescriptor Obj)
  exact h.of_iff (by simp) rfl

/-- A create arm looks up exactly what its action reads. -/
theorem creation_resolves {a : Action} {c : Creation} (h : creation a = some c) :
    Resolves IsUnknown IsInvalid c.call a.supported a.reads := by
  cases a with
  | CreateBuffer id desc => cases h; exact Resolves.pure _
  | CreateTexture id desc => cases h; exact Resolves.pure _
  | CreateTextureView id texture desc => cases h; exact (resolves_lookup texture).map _
  | CreateSampler id desc => cases h; exact Resolves.pure _
  | CreateShaderModule id desc => cases h; exact (resolves_shader_source desc.source).map _
  | CreateBindGroupLayout id desc => cases h; exact Resolves.pure _
  | CreateBindGroup id desc => cases h; exact (resolves_bind_group desc).map _
  | CreatePipelineLayout id desc => cases h; exact (resolves_pipeline_layout desc).map _
  | CreateRenderPipeline id desc => cases h; exact (resolves_render_pipeline desc).map _
  | CreateComputePipeline id desc => cases h; exact (resolves_compute_pipeline desc).map _
  | DeriveRenderPipelineBindGroupLayout pipeline index id =>
      cases h; exact (resolves_lookup pipeline).map _
  | DeriveComputePipelineBindGroupLayout pipeline index id =>
      cases h; exact (resolves_lookup pipeline).map _
  | _ => cases h

/-- The create arms are those of the actions that create. -/
theorem creation_ref (a : Action) : (creation a).map Creation.ref = a.creates := by
  cases a <;> rfl

end Creation

end WgpuRemote.Server
