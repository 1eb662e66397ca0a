/-
What an application asks of a device, and the action it becomes.

`AppCall` is a call of the application as it made it: over its handles, with the
recordings of a submission as the calls it made on its encoders. The drop-in and
the facade turn it into an action over ids (`AppCall.action`); a `Destroy` is the
last of the calls, sent when the last clone of a handle goes.

An action reads the ids of the handles its call was given, and no others
(`AppCall.action_reads`).
-/
import WgpuRemote.Client.Mentions
import WgpuRemote.Client.Translate

set_option autoImplicit false

namespace WgpuRemote.Client

open Bincode
open Wgpu (CreateCall EncoderCall)

section Program

variable [WgpuTypes]

/-! ## Replacing the references of a create call -/

section Map

variable {R S T : Kind → Type} (f : ∀ k, R k → S k) (g : ∀ k, S k → T k)

omit [WgpuTypes] in
/-- Translating a binding twice is translating it once. -/
theorem binding_resource_map_map (r : Wgpu.BindingResource R) :
    (r.map f).map g = r.map fun k x => g k (f k x) := by
  rcases r with b | bs | s | ss | v | vs
  all_goals simp [Wgpu.BindingResource.map, Wgpu.BufferBinding.map]

omit [WgpuTypes] in
/-- Translating every object to itself changes nothing. -/
theorem binding_resource_map_id (r : Wgpu.BindingResource R) : r.map (fun _ x => x) = r := by
  rcases r with b | bs | s | ss | v | vs
  all_goals simp [Wgpu.BindingResource.map, Wgpu.BufferBinding.map]

/-- Replacing the references twice is replacing them once. -/
theorem create_call_map_map (c : CreateCall R) :
    (c.map f).map g = c.map fun k x => g k (f k x) := by
  cases c with
  | create_bind_group desc =>
      simp only [CreateCall.map, Wgpu.BindGroupDescriptor.map, List.map_map, Function.comp_def,
        Wgpu.BindGroupEntry.map, binding_resource_map_map]
  | create_pipeline_layout desc =>
      simp only [CreateCall.map, Wgpu.PipelineLayoutDescriptor.map, List.map_map,
        Function.comp_def]
  | create_render_pipeline desc =>
      simp only [CreateCall.map, Wgpu.RenderPipelineDescriptor.map, Option.map_map,
        Function.comp_def, Wgpu.VertexState.map, Wgpu.FragmentState.map]
  | create_compute_pipeline desc =>
      simp only [CreateCall.map, Wgpu.ComputePipelineDescriptor.map, Option.map_map,
        Function.comp_def]
  | _ => rfl

/-- The same for a create call. -/
theorem create_call_map_id (c : CreateCall R) : c.map (fun _ x => x) = c := by
  cases c with
  | create_bind_group desc =>
      simp [CreateCall.map, Wgpu.BindGroupDescriptor.map, Wgpu.BindGroupEntry.map,
        binding_resource_map_id]
  | create_pipeline_layout desc =>
      simp only [CreateCall.map, Wgpu.PipelineLayoutDescriptor.map, List.map_id']
  | create_render_pipeline desc =>
      simp [CreateCall.map, Wgpu.RenderPipelineDescriptor.map, Wgpu.VertexState.map,
        Wgpu.FragmentState.map]
  | create_compute_pipeline desc => simp [CreateCall.map, Wgpu.ComputePipelineDescriptor.map]
  | _ => rfl

end Map

/-! ## The handles of a create call -/

/-- The handles a binding names. -/
def binding_slots : Wgpu.BindingResource Held → List Slot
  | .Buffer b => [b.buffer.slot]
  | .BufferArray bs => bs.map fun b => b.buffer.slot
  | .Sampler s => [s.slot]
  | .SamplerArray ss => ss.map Held.slot
  | .TextureView v => [v.slot]
  | .TextureViewArray vs => vs.map Held.slot

/-- The handles a create call is given. -/
def create_slots : CreateCall Held → List Slot
  | .create_view texture _ => [texture.slot]
  | .create_bind_group desc =>
      desc.layout.slot :: desc.entries.flatMap fun e => binding_slots e.resource
  | .create_pipeline_layout desc => desc.bind_group_layouts.map Held.slot
  | .create_render_pipeline desc =>
      (desc.layout.map Held.slot).toList ++
        desc.vertex.module.slot :: (desc.fragment.map fun f => f.module.slot).toList
  | .create_compute_pipeline desc => desc.module.slot :: (desc.layout.map Held.slot).toList
  | .create_buffer _ | .create_texture _ | .create_sampler _ | .create_shader_module _
  | .create_bind_group_layout _ => []

/-- The create call as the drop-in gets it. -/
def wrapped_call (call : CreateCall Held) : CreateCall Wrapped := (call.map Held.handle).map wrap

section Congr

variable {S : Kind → Type} {f g : ∀ k, Held k → S k}

omit [WgpuTypes] in
/-- Two replacements that agree on the handles of a binding. -/
theorem binding_resource_map_congr {r : Wgpu.BindingResource Held}
    (h : ∀ k (x : Held k), x.slot ∈ binding_slots r → f k x = g k x) : r.map f = r.map g := by
  rcases r with b | bs | s | ss | v | vs
  · have hb := h _ b.buffer (List.mem_singleton_self _)
    simp only [Wgpu.BindingResource.map, Wgpu.BufferBinding.map, hb]
  · refine congrArg Wgpu.BindingResource.BufferArray (List.map_congr_left ?_)
    intro b hb
    have heq := h _ b.buffer (List.mem_map_of_mem (f := fun b => b.buffer.slot) hb)
    simp only [Wgpu.BufferBinding.map, heq]
  · exact congrArg Wgpu.BindingResource.Sampler (h _ s (List.mem_singleton_self _))
  · exact congrArg Wgpu.BindingResource.SamplerArray
      (List.map_congr_left fun s hs => h _ s (List.mem_map_of_mem hs))
  · exact congrArg Wgpu.BindingResource.TextureView (h _ v (List.mem_singleton_self _))
  · exact congrArg Wgpu.BindingResource.TextureViewArray
      (List.map_congr_left fun v hv => h _ v (List.mem_map_of_mem hv))

omit [WgpuTypes] in
/-- A translation may be changed on objects that are not there. -/
theorem option_map_congr {k : Kind} {o : Option (Held k)}
    (h : ∀ x : Held k, x.slot ∈ (o.map Held.slot).toList → f k x = g k x) :
    o.map (f k) = o.map (g k) := by
  rcases o with _ | x
  · rfl
  · exact congrArg some (h x (List.mem_singleton_self _))

/-- Two replacements that agree on the handles of a create call. -/
theorem create_call_map_congr {c : CreateCall Held}
    (h : ∀ k (x : Held k), x.slot ∈ create_slots c → f k x = g k x) : c.map f = c.map g := by
  cases c with
  | create_view texture desc =>
      exact congrArg (CreateCall.create_view · desc) (h _ texture (List.mem_singleton_self _))
  | create_bind_group desc =>
      have hlayout := h _ desc.layout List.mem_cons_self
      have hentries : desc.entries.map (fun e => e.map f) = desc.entries.map fun e => e.map g := by
        apply List.map_congr_left
        intro e he
        have hres : e.resource.map f = e.resource.map g := by
          apply binding_resource_map_congr
          intro k x hx
          exact h k x (List.mem_cons_of_mem _ (List.mem_flatMap.mpr ⟨e, he, hx⟩))
        simp only [Wgpu.BindGroupEntry.map, hres]
      simp only [CreateCall.map, Wgpu.BindGroupDescriptor.map, hlayout, hentries]
  | create_pipeline_layout desc =>
      have hlayouts : desc.bind_group_layouts.map (f _) = desc.bind_group_layouts.map (g _) :=
        List.map_congr_left fun l hl => h _ l (List.mem_map_of_mem hl)
      simp only [CreateCall.map, Wgpu.PipelineLayoutDescriptor.map, hlayouts]
  | create_render_pipeline desc =>
      have hlayout : desc.layout.map (f _) = desc.layout.map (g _) :=
        option_map_congr fun x hx => h _ x (List.mem_append_left _ hx)
      have hvertex := h _ desc.vertex.module
        (List.mem_append_right _ List.mem_cons_self)
      -- a fragment stage names its module
      have hfragment : desc.fragment.map (fun s => s.map f) = desc.fragment.map fun s => s.map g := by
        rcases hf : desc.fragment with _ | s
        · rfl
        · have hmem : s.module.slot ∈ create_slots (.create_render_pipeline desc) := by
            refine List.mem_append_right _ (List.mem_cons_of_mem _ ?_)
            rw [hf]
            exact List.mem_singleton_self _
          simp only [Option.map_some, Wgpu.FragmentState.map, h _ s.module hmem]
      simp only [CreateCall.map, Wgpu.RenderPipelineDescriptor.map, Wgpu.VertexState.map, hlayout,
        hvertex, hfragment]
  | create_compute_pipeline desc =>
      have hmodule := h _ desc.module List.mem_cons_self
      have hlayout : desc.layout.map (f _) = desc.layout.map (g _) :=
        option_map_congr fun x hx => h _ x (List.mem_cons_of_mem _ hx)
      simp only [CreateCall.map, Wgpu.ComputePipelineDescriptor.map, hmodule, hlayout]
  | _ => rfl

end Congr

/-! ## The ids of a create call -/

section Ids

omit [WgpuTypes] in
/-- A list translated element by element, read element by element. -/
theorem flatMap_of_mapM {α β γ δ ε : Type} {f : β → Except ε γ} {g : α → β} {p : γ → List δ}
    {q : α → List δ} (hfg : ∀ a c, f (g a) = .ok c → p c = q a) {l : List α} {l' : List γ}
    (h : (l.map g).mapM f = .ok l') : l'.flatMap p = l.flatMap q := by
  induction l generalizing l' with
  | nil =>
      cases h
      rfl
  | cons a l ih =>
      rw [List.map_cons, List.mapM_cons] at h
      obtain ⟨c, hc, h⟩ := bind_eq_ok.mp h
      obtain ⟨cs, hcs, hret⟩ := bind_eq_ok.mp h
      cases hret
      rw [List.flatMap_cons, List.flatMap_cons, hfg a c hc, ih hcs]

omit [WgpuTypes] in
/-- A list of own handles is translated to the list of their ids. -/
theorem custom_id_refs {what : String} {k : Kind} {hs : List (Held k)} {ids : List (Id k)}
    (h : ((hs.map (Held.handle k)).map (wrap k)).mapM (custom_id what) = .ok ids) :
    ids.map Id.ref = (hs.map Held.slot).map Slot.ref := by
  rw [List.map_map] at h
  rw [List.map_map, List.map_eq_flatMap, List.map_eq_flatMap]
  refine flatMap_of_mapM ?_ h
  intro x id hid
  cases hid
  rfl

omit [WgpuTypes] in
/-- The binding sent names what the application's binding names. -/
theorem binding_resource_refs {r : Wgpu.BindingResource Held} {w : BindingResource}
    (h : binding_resource ((r.map Held.handle).map wrap) = .ok w) :
    w.refs = (binding_slots r).map Slot.ref := by
  rcases r with b | bs | s | ss | v | vs
  · cases h
    rfl
  · obtain ⟨ws, hws, hret⟩ := bind_eq_ok.mp h
    cases hret
    rw [List.map_map] at hws
    show ws.map _ = (bs.map _).map _
    rw [List.map_map, List.map_eq_flatMap, List.map_eq_flatMap]
    -- each binding of the array names its own buffer
    refine flatMap_of_mapM ?_ hws
    intro b w hw
    cases hw
    rfl
  · cases h
    rfl
  · obtain ⟨ids, hids, hret⟩ := bind_eq_ok.mp h
    cases hret
    exact custom_id_refs hids
  · cases h
    rfl
  · obtain ⟨ids, hids, hret⟩ := bind_eq_ok.mp h
    cases hret
    exact custom_id_refs hids

omit [WgpuTypes] in
/-- The descriptor sent names the layout and the objects of the entries. -/
theorem bind_group_refs {desc : Wgpu.BindGroupDescriptor Held} {w : BindGroupDescriptor}
    (h : bind_group_descriptor ((desc.map Held.handle).map wrap) = .ok w) :
    (w.layout.ref :: w.entries.flatMap fun e => e.resource.refs) =
      (desc.layout.slot :: desc.entries.flatMap fun e => binding_slots e.resource).map Slot.ref := by
  obtain ⟨layout, hlayout, h⟩ := bind_eq_ok.mp h
  obtain ⟨entries, hentries, hret⟩ := bind_eq_ok.mp h
  cases hret
  cases hlayout
  have hrefs : (entries.flatMap fun e => e.resource.refs) =
      desc.entries.flatMap fun e => (binding_slots e.resource).map Slot.ref := by
    change ((desc.entries.map _).map _).mapM _ = _ at hentries
    rw [List.map_map] at hentries
    refine flatMap_of_mapM ?_ hentries
    intro e x hx
    obtain ⟨r, hr, hret⟩ := bind_eq_ok.mp hx
    cases hret
    exact binding_resource_refs hr
  rw [List.map_cons, List.map_flatMap, ← hrefs]
  rfl

omit [WgpuTypes] in
/-- The layout sent is the one given. -/
theorem optional_layout_refs {l : Option (Held .PipelineLayout)} {w : Option PipelineLayoutId}
    (h : optional_layout ((l.map (Held.handle _)).map (wrap _)) = .ok w) :
    (w.map Id.ref).toList = (l.map Held.slot).toList.map Slot.ref := by
  rcases l with _ | l
  · cases h
    rfl
  · cases h
    rfl

/-- The module sent is the one given. -/
theorem optional_fragment_refs {f : Option (Wgpu.FragmentState Held)} {w : Option FragmentState}
    (h : optional_fragment ((f.map fun s => s.map Held.handle).map fun s => s.map wrap) = .ok w) :
    (w.map fun f => f.module.ref).toList =
      (f.map fun f => f.module.slot).toList.map Slot.ref := by
  rcases f with _ | f
  · cases h
    rfl
  · cases h
    rfl

/-- A create action reads the ids of the handles its call was given. -/
theorem create_action_reads {raw : UInt64} {call : CreateCall Held} {a : Action}
    (h : create_action raw (wrapped_call call) = some a) :
    a.reads = (create_slots call).map Slot.ref := by
  -- a descriptor that is sent was translated
  have hsent : ∀ {α : Type} {x : Except TranslateError α} {f : α → Action},
      x.toOption.map f = some a → ∃ w, x = .ok w ∧ f w = a := by
    intro α x f hx
    obtain ⟨w, hw, hf⟩ := Option.map_eq_some_iff.mp hx
    rcases x with e | y
    · cases hw
    · cases hw
      exact ⟨w, rfl, hf⟩
  cases call with
  | create_bind_group desc =>
      obtain ⟨w, hw, rfl⟩ := hsent h
      exact bind_group_refs hw
  | create_pipeline_layout desc =>
      obtain ⟨w, hw, rfl⟩ := hsent h
      obtain ⟨layouts, hlayouts, hret⟩ := bind_eq_ok.mp hw
      cases hret
      exact custom_id_refs hlayouts
  | create_render_pipeline desc =>
      obtain ⟨w, hw, rfl⟩ := hsent h
      obtain ⟨layout, hlayout, hw⟩ := bind_eq_ok.mp hw
      obtain ⟨vertex, hvertex, hw⟩ := bind_eq_ok.mp hw
      obtain ⟨fragment, hfragment, hret⟩ := bind_eq_ok.mp hw
      cases hret
      cases hvertex
      show (layout.map Id.ref).toList ++ _ :: (fragment.map _).toList = _
      rw [optional_layout_refs hlayout, optional_fragment_refs hfragment, create_slots,
        List.map_append, List.map_cons]
      rfl
  | create_compute_pipeline desc =>
      obtain ⟨w, hw, rfl⟩ := hsent h
      obtain ⟨layout, hlayout, hw⟩ := bind_eq_ok.mp hw
      obtain ⟨module, hmodule, hret⟩ := bind_eq_ok.mp hw
      cases hret
      cases hmodule
      show _ :: (layout.map Id.ref).toList = _
      rw [optional_layout_refs hlayout]
      rfl
  | create_shader_module desc =>
      obtain ⟨w, -, rfl⟩ := Option.map_eq_some_iff.mp h
      rfl
  | _ =>
      cases h
      rfl

end Ids

/-! ## The calls on an encoder -/

/-- The wgpu call the application means, over its handles: a copy without a size
goes to the end of its source, a range given by offset and size ends at their
sum. -/
def EncoderOp.meant : EncoderOp Held → EncoderCall Held
  | .copy_buffer_to_buffer source source_offset destination destination_offset copy_size =>
      .copy_buffer_to_buffer source source_offset destination destination_offset
        (copy_size.getD (saturating_sub source.size source_offset))
  | .clear_buffer buffer offset size => .clear_buffer buffer offset size
  | .copy_texture_to_buffer source destination copy_size =>
      .copy_texture_to_buffer source destination copy_size
  | .begin_compute_pass label => .begin_compute_pass label
  | .compute op => .compute op.call
  | .end_compute_pass => .end_compute_pass
  | .begin_render_pass desc => .begin_render_pass desc
  | .render op => .render op.call
  | .end_render_pass => .end_render_pass

/-- It is what the facade handles inside mean. -/
theorem EncoderOp.call_handle (op : EncoderOp Held) :
    (op.map Held.handle).call = op.meant.map Held.handle := by
  rcases op with _ | _ | _ | _ | op | _ | _ | op | _
  case compute => rcases op with _ | _ | _ | _ <;> rfl
  case render => rcases op with _ | _ | _ | _ | _ | _ <;> rfl
  all_goals rfl

section MeantCongr

variable {S : Kind → Type} {f g : ∀ k, Held k → S k}

/-- Two replacements that agree on the handles a call is given. -/
theorem EncoderOp.meant_congr {op : EncoderOp Held}
    (h : ∀ k (x : Held k), x.slot ∈ op.slots → f k x = g k x) :
    op.meant.map f = op.meant.map g := by
  rcases op with ⟨source, so, destination, d_o, size⟩ | ⟨buffer, offset, size⟩ |
    ⟨source, destination, size⟩ | label | op | _ | desc | op | _
  · have hs := h _ source List.mem_cons_self
    have hd := h _ destination (List.mem_cons_of_mem _ List.mem_cons_self)
    simp only [EncoderOp.meant, EncoderCall.map, hs, hd]
  · have hb := h _ buffer List.mem_cons_self
    simp only [EncoderOp.meant, EncoderCall.map, hb]
  · have hs := h _ source.texture List.mem_cons_self
    have hd := h _ destination.buffer (List.mem_cons_of_mem _ List.mem_cons_self)
    simp only [EncoderOp.meant, EncoderCall.map, Wgpu.TexelCopyTextureInfo.map,
      Wgpu.TexelCopyBufferInfo.map, hs, hd]
  · rfl
  -- the calls of a compute pass
  · rcases op with p | ⟨index, group, offsets⟩ | ⟨x, y, z⟩ | ⟨buffer, offset⟩
    · exact congrArg (fun p => EncoderCall.compute (.set_pipeline p)) (h _ p List.mem_cons_self)
    · exact congrArg (fun group => EncoderCall.compute (.set_bind_group index group offsets))
        (h _ group List.mem_cons_self)
    · rfl
    · exact congrArg (fun buffer => EncoderCall.compute (.dispatch_workgroups_indirect buffer offset))
        (h _ buffer List.mem_cons_self)
  · rfl
  · -- the views of a render pass
    obtain ⟨label, color, depth⟩ := desc
    have hcolor : (color.map fun a => a.map fun a => a.map f) =
        color.map fun a => a.map fun a => a.map g := by
      apply List.map_congr_left
      intro maybe hmaybe
      rcases maybe with _ | att
      · rfl
      · have hmem : ∀ x ∈ color_slots att, x ∈ EncoderOp.slots (.begin_render_pass ⟨label, color, depth⟩) :=
          fun x hx => List.mem_append_left _ (List.mem_flatMap.mpr ⟨some att, hmaybe, hx⟩)
        have hview := h _ att.view (hmem _ List.mem_cons_self)
        have htarget : att.resolve_target.map (f _) = att.resolve_target.map (g _) :=
          option_map_congr fun x hx => h _ x (hmem _ (List.mem_cons_of_mem _ hx))
        simp only [Option.map_some, Wgpu.RenderPassColorAttachment.map, hview, htarget]
    have hdepth : (depth.map fun a => a.map f) = depth.map fun a => a.map g := by
      rcases depth with _ | att
      · rfl
      · have hview := h _ att.view (List.mem_append_right _ (List.mem_singleton_self _))
        simp only [Option.map_some, Wgpu.RenderPassDepthStencilAttachment.map, hview]
    simp only [EncoderOp.meant, EncoderCall.map, Wgpu.RenderPassDescriptor.map, hcolor, hdepth]
  -- the calls of a render pass
  · rcases op with p | ⟨index, group, offsets⟩ | ⟨slot, buffer, offset, size⟩ |
      ⟨buffer, format, offset, size⟩ | ⟨vertices, instances⟩ | ⟨indices, base_vertex, instances⟩
    · exact congrArg (fun p => EncoderCall.render (.set_pipeline p)) (h _ p List.mem_cons_self)
    · exact congrArg (fun group => EncoderCall.render (.set_bind_group index group offsets))
        (h _ group List.mem_cons_self)
    · exact congrArg (fun b => EncoderCall.render
        (.set_vertex_buffer slot ⟨b, offset, range_end offset size⟩)) (h _ buffer List.mem_cons_self)
    · exact congrArg (fun b => EncoderCall.render
        (.set_index_buffer ⟨b, offset, range_end offset size⟩ format)) (h _ buffer List.mem_cons_self)
    · rfl
    · rfl
  · rfl

end MeantCongr

/-! ## The calls of an application -/

/-- A command buffer as the application recorded it: the calls on its encoder. -/
structure Tape where
  label : Option String
  ops : List (EncoderOp Held)

/-- The payload the drop-in ships for it, if the encoder took all the calls and
the recording encodes. -/
def Tape.payload (t : Tape) : Option Bytes := do
  let recording ← DropinEncoder.record t.label (t.ops.map EncoderOp.wrapped)
  recording.encode.toOption

/-- A call of the application that sends an action. `h` is the handle a create
call returns, or the one whose last clone goes. -/
inductive AppCall where
  /-- The first of the two requests of `request_adapter`. -/
  | hello
  | request_adapter
  | request_device (label : Option String)
  | create (h : Slot) (call : CreateCall Held)
  | render_get_bind_group_layout (h : Slot) (pipeline : Held .RenderPipeline) (index : UInt32)
  | compute_get_bind_group_layout (h : Slot) (pipeline : Held .ComputePipeline) (index : UInt32)
  | write_buffer (buffer : Held .Buffer) (offset : BufferAddress) (data : Bytes)
  | write_texture (texture : Wgpu.TexelCopyTextureInfo Held) (data : Bytes)
      (data_layout : TexelCopyBufferLayout) (size : Extent3d)
  | submit (command_buffers : List Tape)
  | read_buffer (buffer : Held .Buffer) (offset size : BufferAddress)
  | drop (h : Slot)

namespace AppCall

/-- The handle a call returns. -/
def creates : AppCall → Option Slot
  | .create h _ | .render_get_bind_group_layout h _ _ | .compute_get_bind_group_layout h _ _ =>
      some h
  | _ => none

/-- The handle whose last clone goes with the call. -/
def drops : AppCall → Option Slot
  | .drop h => some h
  | _ => none

/-- The handles a call is given. Those of a submission were given to its
encoders. -/
def slots : AppCall → List Slot
  | .create _ call => create_slots call
  | .render_get_bind_group_layout _ pipeline _ => [pipeline.slot]
  | .compute_get_bind_group_layout _ pipeline _ => [pipeline.slot]
  | .write_buffer buffer _ _ => [buffer.slot]
  | .write_texture texture _ _ _ => [texture.texture.slot]
  | .submit command_buffers => command_buffers.flatMap fun t => t.ops.flatMap EncoderOp.slots
  | .read_buffer buffer _ _ => [buffer.slot]
  | .hello | .request_adapter | .request_device _ | .drop _ => []

/-- The action the call sends; `none` if the drop-in panics, or the recording of
a submission does not encode. -/
def action : AppCall → Option Action
  | .hello => some (.Hello PROTOCOL_VERSION)
  | .request_adapter => some .RequestAdapter
  | .request_device label => some (.RequestDevice label)
  | .create h call => create_action h.id.raw (wrapped_call call)
  | .render_get_bind_group_layout h pipeline index =>
      some (.DeriveRenderPipelineBindGroupLayout (pipeline.handle _).id index ⟨h.id.raw⟩)
  | .compute_get_bind_group_layout h pipeline index =>
      some (.DeriveComputePipelineBindGroupLayout (pipeline.handle _).id index ⟨h.id.raw⟩)
  | .write_buffer buffer offset data => some (.WriteBuffer (buffer.handle _).id offset data)
  | .write_texture texture data data_layout size =>
      some (.WriteTexture (texture.texture.handle _).id texture.mip_level texture.origin
        texture.aspect data data_layout size)
  | .submit command_buffers => (command_buffers.mapM Tape.payload).map .Submit
  | .read_buffer buffer offset size =>
      some (.MapBufferForRead (buffer.handle _).id offset size)
  | .drop h => some (.Destroy (.of h.kind h.id))

/-- What a recording mentions is behind the handles its encoder was given. -/
theorem recording_refs {t : Tape} {recording : CommandBufferRecording}
    (h : DropinEncoder.record t.label (t.ops.map EncoderOp.wrapped) = some recording) :
    ∀ r ∈ recording.refs, ∃ x ∈ t.ops.flatMap EncoderOp.slots, x.ref = r := by
  -- along the calls, whatever the encoder holds was given to it
  have hrun : ∀ (ops : List (EncoderOp Held)) (s s' : DropinEncoder),
      Transition.run DropinEncoder.step s (ops.map EncoderOp.wrapped) = some s' →
      DropinEncoder.Adds s s' (ops.flatMap EncoderOp.slots) := by
    intro ops
    induction ops with
    | nil =>
        intro s s' hs
        cases hs
        exact fun r hr => Or.inl hr
    | cons op ops ih =>
        intro s s' hs r hr
        rw [List.map_cons, Transition.run_cons] at hs
        obtain ⟨s1, h1, hs⟩ := Option.bind_eq_some_iff.mp hs
        rw [List.flatMap_cons]
        rcases ih s1 s' hs r hr with hr | ⟨x, hx, rfl⟩
        · rcases DropinEncoder.step_adds h1 r hr with hr | ⟨x, hx, rfl⟩
          · exact Or.inl hr
          · exact Or.inr ⟨x, List.mem_append_left _ hx, rfl⟩
        · exact Or.inr ⟨x, List.mem_append_right _ hx, rfl⟩
  obtain ⟨s, hs, rfl⟩ := Option.map_eq_some_iff.mp h
  intro r hr
  rcases hrun t.ops _ s hs r (List.mem_append_left _ hr) with hnew | hx
  · exact absurd hnew List.not_mem_nil
  · exact hx

/-- The payloads of a submission are its recordings, encoded. -/
theorem payload_eq_some {t : Tape} {raw : Bytes} (h : t.payload = some raw) :
    ∃ recording, DropinEncoder.record t.label (t.ops.map EncoderOp.wrapped) = some recording ∧
      CommandBufferRecording.decode raw = .ok recording := by
  obtain ⟨recording, hrec, henc⟩ := Option.bind_eq_some_iff.mp h
  refine ⟨recording, hrec, ?_⟩
  rcases hraw : recording.encode with e | bytes
  · rw [hraw] at henc
    cases henc
  · rw [hraw] at henc
    cases henc
    exact recording.decode_encode raw hraw

/-- The payloads of a submission, one for each command buffer. -/
theorem payloads {command_buffers : List Tape} {raws : List Bytes}
    (h : command_buffers.mapM Tape.payload = some raws) :
    List.Forall₂ (fun t raw => t.payload = some raw) command_buffers raws := by
  induction command_buffers generalizing raws with
  | nil =>
      cases h
      exact .nil
  | cons t command_buffers ih =>
      rw [List.mapM_cons] at h
      obtain ⟨raw, hraw, h⟩ := Option.bind_eq_some_iff.mp h
      obtain ⟨rest, hrest, h⟩ := Option.bind_eq_some_iff.mp h
      rw [← Option.some.inj h]
      exact .cons hraw (ih hrest)

/-- A payload is that of one of the tapes. -/
theorem exists_of_payload {command_buffers : List Tape} {raws : List Bytes} {raw : Bytes}
    (h : List.Forall₂ (fun t raw => t.payload = some raw) command_buffers raws) (hraw : raw ∈ raws) :
    ∃ t ∈ command_buffers, t.payload = some raw := by
  induction h with
  | nil => exact absurd hraw List.not_mem_nil
  | cons hhead _ ih =>
      rcases List.mem_cons.mp hraw with rfl | hraw
      · exact ⟨_, List.mem_cons_self, hhead⟩
      · obtain ⟨t, ht, hpayload⟩ := ih hraw
        exact ⟨t, List.mem_cons_of_mem _ ht, hpayload⟩

/-- **An action reads the ids of the handles its call was given.** -/
theorem action_reads {c : AppCall} {a : Action} (h : c.action = some a) :
    ∀ r ∈ a.reads, ∃ x ∈ c.slots, x.ref = r := by
  intro r hr
  cases c with
  | create x call =>
      rw [create_action_reads h] at hr
      exact List.mem_map.mp hr
  | submit command_buffers =>
      obtain ⟨raws, hraws, rfl⟩ := Option.map_eq_some_iff.mp h
      obtain ⟨raw, hraw, hr⟩ := List.mem_flatMap.mp hr
      obtain ⟨t, ht, hpayload⟩ := exists_of_payload (payloads hraws) hraw
      obtain ⟨recording, hrec, hdec⟩ := payload_eq_some hpayload
      rw [payload_refs, hdec] at hr
      obtain ⟨x, hx, hxr⟩ := recording_refs hrec r hr
      exact ⟨x, List.mem_flatMap.mpr ⟨t, ht, hx⟩, hxr⟩
  | hello =>
      cases h
      exact absurd hr List.not_mem_nil
  | request_adapter =>
      cases h
      exact absurd hr List.not_mem_nil
  | request_device label =>
      cases h
      exact absurd hr List.not_mem_nil
  | drop x =>
      cases h
      exact absurd hr List.not_mem_nil
  | _ =>
      -- one handle, one id
      cases h
      rw [List.mem_singleton.mp hr]
      exact ⟨_, List.mem_singleton_self _, rfl⟩

end AppCall

end Program

end WgpuRemote.Client
