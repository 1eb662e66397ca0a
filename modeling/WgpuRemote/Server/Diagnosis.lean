/-
What is wrong with an action, as the server answers it.

An action's arm makes one check after another: it looks an id up, or finds
something that it does not support. `action_checks` lists them in the order of
the code, a submission's with all its recordings and their passes. The answer is
the error of the first check that fails, and names what failed; without one, the
action has its effect (`answered_exactly`).
-/
import WgpuRemote.Lib.Checks
import WgpuRemote.Server.Contract

set_option autoImplicit false

namespace WgpuRemote.Server

open Bincode Checks
open Wgpu (Occ Obj Call Event Gpu)
open Dispatch (attempt issue make add store with_tables insert respond exec)
open Prog (Mem)

/-! ## Checks -/

/-- One thing that may be wrong with an action. -/
inductive Check where
  /-- The table has no entry for the id. The error calls it `what`. -/
  | needs (what : String) (r : Ref)
  /-- The server does not support the action, whatever the tables hold. -/
  | refuses (message : String)

/-- The error of a check that fails. -/
def Check.fails (t : ResourceTables) : Check → Option Response
  | .needs what r => if t r = none then some (unknown what r.id.raw) else none
  | .refuses message => some (.Error .InvalidArgument message)

/-- The usual lookup: the error names the id by its type. -/
def need (r : Ref) : Check := .needs r.kind.id_name r

def binding_checks : BindingResource → List Check
  | .Buffer b _ _ => [need b.ref]
  | .Sampler s => [need s.ref]
  | .TextureView v => [need v.ref]
  | other =>
      [.refuses ("BindingResource variant not yet supported: " ++ debug_binding_resource other)]

section Diagnosis

variable [WgpuTypes]

def source_checks : ShaderSource → List Check
  | .Wgsl _ => []
  | .SpirV _ | .Glsl _ _ _ => [.refuses "only WGSL shader sources are supported in v1"]

/-- A recording is decoded, then replayed. -/
def payload_checks (raw : Bytes) : List Check :=
  match CommandBufferRecording.decode raw with
  | .ok recording => recording.refs.map need
  | .error e => [.refuses ("recording decode failed: " ++ WgpuTypes.decode_error_text e)]

/-- What the arm of an action checks, in order. -/
def action_checks : Action → List Check
  | .CreateShaderModule _ desc => source_checks desc.source
  | .CreateBindGroup _ desc =>
      need desc.layout.ref :: desc.entries.flatMap fun e => binding_checks e.resource
  | .CreateRenderPipeline _ desc =>
      (desc.layout.map fun l => need l.ref).toList ++
        .needs "vertex ShaderModuleId" desc.vertex.module.ref ::
          (desc.fragment.map fun f => .needs "fragment ShaderModuleId" f.module.ref).toList
  | .Submit recordings => recordings.flatMap payload_checks
  | a => a.reads.map need

/-- What an action is answered if none of its checks fails. -/
def success (gpu : Gpu) (e : Engine) : Action → Response
  | .Hello protocol_version => hello protocol_version
  | .MapBufferForRead buffer offset size =>
      read_response gpu e.log e.dispatched
        ⟨(e.tables.get buffer).getD ⟨⟨0, 0⟩⟩, offset, some (offset + size)⟩
  | _ => .Ok

/-! ## Lookups -/

omit [WgpuTypes] in
/-- A failed lookup is the one check it makes. -/
theorem stops_lookup_as (what : String) {k : Kind} (id : Id k) :
    Stops Check.fails (fun t => lookup_as what t id) [.needs what id.ref] := by
  refine Stops.check fun t => ?_
  show _ = if t id.ref = none then some (unknown what id.raw) else none
  rcases ht : t id.ref with _ | o
  · rw [if_pos rfl, lookup_as_none what ht]
    rfl
  · rw [if_neg (Option.some_ne_none o), lookup_as_some what ht]
    rfl

omit [WgpuTypes] in
/-- The check under the kind's own name. -/
theorem stops_lookup {k : Kind} (id : Id k) :
    Stops Check.fails (fun t => lookup t id) [need id.ref] := stops_lookup_as k.id_name id

omit [WgpuTypes] in
/-- An absent id makes no check. -/
theorem stops_lookup_option {k : Kind} (id : Option (Id k)) :
    Stops Check.fails (fun t => lookup_option t id) (id.map fun id => need id.ref).toList := by
  rcases id with _ | id
  · exact Stops.pure none
  · exact (stops_lookup id).map some

omit [WgpuTypes] in
/-- Whatever the tables hold, the computation ends in this error. -/
theorem stops_refused {α : Type} (message : String) :
    Stops Check.fails (fun _ => (.error (.Error .InvalidArgument message) : Except Response α))
      [.refuses message] := Stops.check fun _ => rfl

/-- A copy's buffer side checks its buffer. -/
theorem stops_image_copy_buffer (src : ImageCopyBuffer) :
    Stops Check.fails (fun t => lookup_image_copy_buffer t src) [need src.buffer.ref] :=
  (stops_lookup src.buffer).bind_pure _

/-- A copy's texture side checks its texture. -/
theorem stops_image_copy_texture (src : ImageCopyTexture) :
    Stops Check.fails (fun t => lookup_image_copy_texture t src) [need src.texture.ref] :=
  (stops_lookup src.texture).bind_pure _

/-- The view is checked before the resolve target. -/
theorem stops_color_attachment (att : Option RenderPassColorAttachment) :
    Stops Check.fails (fun t => color_attachment t att)
      ((att.elim [] RenderPassColorAttachment.refs).map need) := by
  rcases att with _ | att
  · exact Stops.pure none
  · have h := (stops_lookup att.view).bind fun view =>
      (stops_lookup_option att.resolve_target).bind_pure fun resolve =>
        some ({ view, depth_slice := att.depth_slice, resolve_target := resolve
                ops := att.ops } : Wgpu.RenderPassColorAttachment Obj)
    refine h.of_eq ?_
    rcases hres : att.resolve_target with _ | resolve
    · simp [RenderPassColorAttachment.refs, hres]
    · simp [RenderPassColorAttachment.refs, hres]

/-- A depth attachment checks its view. -/
theorem stops_depth_attachment (att : Option RenderPassDepthStencilAttachment) :
    Stops Check.fails (fun t => depth_attachment t att)
      ((att.map fun a => a.view.ref).toList.map need) := by
  rcases att with _ | att
  · exact Stops.pure none
  · exact (stops_lookup att.view).bind_pure _

/-! ## Programs -/

/-- The program changes no table, and fails as its checks do. -/
structure Halts {α : Type} (p : ResourceTables → Dispatch α) (checks : List Check) : Prop where
  tables : ∀ reply d t evs, (exec reply d (p t) ⟨t, evs⟩).2.tables = t
  error : ∀ reply d t evs, error_of (exec reply d (p t) ⟨t, evs⟩).1 = first Check.fails checks t

namespace Halts

variable {α β : Type}

theorem of_eq {p : ResourceTables → Dispatch α} {checks checks' : List Check}
    (h : Halts p checks) (heq : checks = checks') : Halts p checks' := by
  rw [← heq]
  exact h

/-- A resolved descriptor halts where its resolution stops. -/
theorem attempt {b : ResourceTables → Except Response α} {checks : List Check}
    (h : Stops Check.fails b checks) : Halts (fun t => attempt (b t)) checks where
  tables _ _ _ _ := rfl
  error _ _ t _ := h t

theorem pure (a : α) : Halts (fun _ => Pure.pure a) [] := attempt (Stops.pure a)

theorem issue (c : Call) : Halts (fun _ => issue c) [] where
  tables _ _ _ _ := rfl
  error _ _ _ _ := rfl

theorem add (a b : UInt64) : Halts (fun _ => add a b) [] where
  tables _ _ _ _ := rfl
  error _ _ _ _ := rfl

/-- Sequencing: the second program finds the tables the first one found. -/
theorem bind {p : ResourceTables → Dispatch α} {q : ResourceTables → α → Dispatch β}
    {checks checks' : List Check} (hp : Halts p checks)
    (hq : ∀ a, Halts (fun t => q t a) checks') :
    Halts (fun t => p t >>= q t) (checks ++ checks') := by
  refine ⟨fun reply d t evs => ?_, fun reply d t evs => ?_⟩
  · have htables := hp.tables reply d t evs
    rw [Dispatch.exec_bind]
    rcases hexec : exec reply d (p t) ⟨t, evs⟩ with ⟨e | a, ⟨t', evs'⟩⟩
    · rw [hexec] at htables
      exact htables
    · rw [hexec] at htables
      obtain rfl : t' = t := htables
      exact (hq a).tables reply d t' evs'
  · have htables := hp.tables reply d t evs
    have herror := hp.error reply d t evs
    rw [Dispatch.exec_bind, first_append, ← herror]
    rcases hexec : exec reply d (p t) ⟨t, evs⟩ with ⟨e | a, ⟨t', evs'⟩⟩
    · rfl
    · rw [hexec] at htables
      obtain rfl : t' = t := htables
      exact (hq a).error reply d t' evs'

/-- Locking gives the program the tables in memory. -/
theorem with_tables {p : ResourceTables → Dispatch α} {checks : List Check} (h : Halts p checks) :
    Halts (fun _ => with_tables p) checks := by
  refine ⟨fun reply d t evs => ?_, fun reply d t evs => ?_⟩
  · rw [Dispatch.exec_with_tables]
    exact h.tables reply d t evs
  · rw [Dispatch.exec_with_tables]
    exact h.error reply d t evs

theorem encode (encoder : Occ) (call : Wgpu.EncoderCall Obj) :
    Halts (fun _ => encode encoder call) [] := (issue _).bind fun _ => pure ()

/-- A loop makes the checks of its rounds. -/
theorem for_each {f : ResourceTables → α → Dispatch Unit} {checks : α → List Check}
    (hf : ∀ c, Halts (fun t => f t c) (checks c)) (l : List α) :
    Halts (fun t => for_each (f t) l) (l.flatMap checks) := by
  induction l with
  | nil => exact pure ()
  | cons c l ih => exact ((hf c).bind fun _ => ih).of_eq (List.flatMap_cons).symm

/-- A pass is ended on the way out, and the body's error is the pass's. -/
theorem with_pass {body : ResourceTables → Dispatch Unit} {checks : List Check}
    (hb : Halts body checks) (encoder : Occ) (opening closing : Wgpu.EncoderCall Obj) :
    Halts (fun t => with_pass encoder opening closing (body t)) checks := by
  have hend : Halts (fun t => ExceptT.mk ((body t).run >>= fun r =>
      (Server.encode encoder closing).run >>= fun _ => Pure.pure r)) checks := by
    refine ⟨fun reply d t evs => ?_, fun reply d t evs => ?_⟩
    · rw [exec_end_pass]
      exact hb.tables reply d t evs
    · rw [exec_end_pass]
      exact hb.error reply d t evs
  exact (encode encoder opening).bind fun _ => hend

end Halts

/-! ## Replaying -/

/-- `slice` makes no check of its own: a range outside the buffer is left to wgpu. -/
theorem halts_slice (b : Obj .Buffer) (offset : BufferAddress) (size : Option BufferAddress) :
    Halts (fun _ => slice b offset size) [] := by
  rcases size with _ | s
  · exact Halts.pure _
  · exact (Halts.add offset s).bind fun _ => Halts.pure _

/-- A command that looks one id up and makes one call. -/
theorem halts_one {k : Kind} (id : Id k) (encoder : Occ) (f : Obj k → Wgpu.EncoderCall Obj) :
    Halts (fun t => attempt (lookup t id) >>= fun o => encode encoder (f o)) [need id.ref] :=
  (Halts.attempt (stops_lookup id)).bind fun _ => Halts.encode encoder _

/-- A compute command halts at the first of its ids that is held by none. -/
theorem halts_compute_command (pass : Occ) (c : ComputeCommand) :
    Halts (fun t => replay_compute_command t pass c) (c.refs.map need) := by
  cases c with
  | SetPipeline id => exact halts_one id pass _
  | SetBindGroup index group offsets => exact halts_one group pass _
  | SetPushConstants offset data => exact Halts.encode pass _
  | DispatchWorkgroups x y z => exact Halts.encode pass _
  | DispatchWorkgroupsIndirect buffer offset => exact halts_one buffer pass _

/-- The same for a render command. -/
theorem halts_render_command (pass : Occ) (c : RenderCommand) :
    Halts (fun t => replay_render_command t pass c) (c.refs.map need) := by
  cases c with
  | SetPipeline id => exact halts_one id pass _
  | SetBindGroup index group offsets => exact halts_one group pass _
  | SetVertexBuffer slot buffer offset size =>
      exact (Halts.attempt (stops_lookup buffer)).bind fun b =>
        (halts_slice b offset size).bind fun _ => Halts.encode pass _
  | SetIndexBuffer buffer format offset size =>
      exact (Halts.attempt (stops_lookup buffer)).bind fun b =>
        (halts_slice b offset size).bind fun _ => Halts.encode pass _
  | Draw vertices instances => exact Halts.encode pass _
  | DrawIndexed indices base_vertex instances => exact Halts.encode pass _

/-- The same for an encoder command; a pass checks its attachments before its commands. -/
theorem halts_encoder_command (encoder : Occ) (c : EncoderCommand) :
    Halts (fun t => replay_encoder_command t encoder c) (c.refs.map need) := by
  cases c with
  | CopyBufferToBuffer source source_offset destination destination_offset size =>
      exact (Halts.attempt (stops_lookup source)).bind fun _ => halts_one destination encoder _
  | ClearBuffer buffer offset size => exact halts_one buffer encoder _
  | CopyBufferToTexture source destination copy_size =>
      exact (Halts.attempt (stops_image_copy_buffer source)).bind fun _ =>
        (Halts.attempt (stops_image_copy_texture destination)).bind fun _ =>
          Halts.encode encoder _
  | CopyTextureToBuffer source destination copy_size =>
      exact (Halts.attempt (stops_image_copy_texture source)).bind fun _ =>
        (Halts.attempt (stops_image_copy_buffer destination)).bind fun _ =>
          Halts.encode encoder _
  | BeginComputePass label commands =>
      have hbody := Halts.for_each (halts_compute_command encoder) commands
      exact (hbody.with_pass encoder _ _).of_eq List.map_flatMap.symm
  | BeginRenderPass label color_attachments depth_stencil_attachment commands =>
      have hcolor := Stops.mapM stops_color_attachment color_attachments
      have hdepth := stops_depth_attachment depth_stencil_attachment
      have hbody := Halts.for_each (halts_render_command encoder) commands
      refine ((Halts.attempt hcolor).bind fun _ => (Halts.attempt hdepth).bind fun _ =>
        hbody.with_pass encoder _ _).of_eq ?_
      rw [EncoderCommand.refs, attachment_refs, List.map_append, List.map_append, List.map_flatMap,
        List.map_flatMap, List.append_assoc]

/-- A recording checks the ids of its commands in the order they are recorded. -/
theorem halts_recording (recording : CommandBufferRecording) :
    Halts (fun _ => replay_recording recording) (recording.refs.map need) := by
  have hbody := fun encoder : Answer =>
    (Halts.for_each (halts_encoder_command encoder.made) recording.commands).with_tables
  have h := (Halts.issue (.create_command_encoder recording.label)).bind fun encoder =>
    (hbody encoder).bind fun _ =>
      (Halts.issue (.finish encoder.made)).bind fun cb =>
        Halts.pure (⟨cb.made⟩ : Wgpu.CommandBuffer)
  refine h.of_eq ?_
  rw [CommandBufferRecording.refs, List.map_flatMap]
  simp

/-- A submission checks its payloads in turn; one that does not decode is itself the failing
check. -/
theorem halts_recordings (recordings : List Bytes) :
    Halts (fun _ => replay_recordings recordings) (recordings.flatMap payload_checks) := by
  induction recordings with
  | nil => exact Halts.pure _
  | cons raw recordings ih =>
      rcases hraw : CommandBufferRecording.decode raw with e | recording
      · -- the first recording that does not decode ends it
        rw [replay_recordings_undecoded hraw]
        refine ⟨fun _ _ _ _ => rfl, fun reply d t evs => ?_⟩
        rw [List.flatMap_cons, payload_checks, hraw]
        rfl
      · rw [replay_recordings_decoded hraw]
        have h := (halts_recording recording).bind fun cb =>
          ih.bind fun cbs => Halts.pure (cb :: cbs)
        refine h.of_eq ?_
        rw [List.flatMap_cons, payload_checks, hraw, List.append_nil]

/-! ## Descriptors -/

omit [WgpuTypes] in
/-- A binding's ids are checked in order; an array fails before any of them. -/
theorem stops_binding (resource : BindingResource) :
    Stops Check.fails (fun t => bind_group_resource t resource) (binding_checks resource) := by
  cases resource with
  | Buffer buffer offset size => exact (stops_lookup buffer).bind_pure _
  | Sampler id => exact (stops_lookup id).bind_pure _
  | TextureView id => exact (stops_lookup id).bind_pure _
  | BufferArray bindings => exact stops_refused _
  | SamplerArray ids => exact stops_refused _
  | TextureViewArray ids => exact stops_refused _

/-- A shader source is checked for its language. -/
theorem stops_source (source : ShaderSource) :
    Stops Check.fails (fun _ => shader_source source) (source_checks source) := by
  cases source with
  | Wgsl src => exact Stops.pure _
  | SpirV words => exact stops_refused _
  | Glsl shader stage defines => exact stops_refused _

/-- A fragment stage is checked under the words the engine gives it. -/
theorem stops_fragment (f : Option FragmentState) :
    Stops Check.fails (fun t => lookup_fragment t f)
      (f.map fun f => .needs "fragment ShaderModuleId" f.module.ref).toList := by
  rcases f with _ | f
  · exact Stops.pure none
  · exact (stops_lookup_as "fragment ShaderModuleId" f.module).bind_pure _

/-- The checks of a create arm. -/
theorem stops_creation {a : Action} {c : Creation} (h : creation a = some c) :
    Stops Check.fails c.call (action_checks a) := by
  cases a with
  | CreateTextureView id texture desc =>
      cases h
      exact (stops_lookup texture).map _
  | CreateShaderModule id desc =>
      cases h
      exact (stops_source desc.source).map _
  | CreateBindGroup id desc =>
      cases h
      have hentry : ∀ e : BindGroupEntry, Stops Check.fails (fun t => bind_group_entry t e)
          (binding_checks e.resource) := fun e => (stops_binding e.resource).bind_pure _
      have hdesc := (stops_lookup desc.layout).bind fun layout =>
        (Stops.mapM hentry desc.entries).bind_pure fun entries =>
          ({ label := desc.label, layout, entries } : Wgpu.BindGroupDescriptor Obj)
      exact hdesc.map _
  | CreatePipelineLayout id desc =>
      cases h
      have hdesc := (Stops.mapM stops_lookup desc.bind_group_layouts).bind_pure fun bgls =>
        ({ label := desc.label, bind_group_layouts := bgls
           push_constant_ranges := desc.push_constant_ranges } : Wgpu.PipelineLayoutDescriptor Obj)
      refine (hdesc.map _).of_eq ?_
      show _ = (desc.bind_group_layouts.map Id.ref).map need
      rw [List.map_map, List.map_eq_flatMap]
      rfl
  | CreateRenderPipeline id desc =>
      cases h
      have hdesc := (stops_lookup_option desc.layout).bind fun layout =>
        (stops_lookup_as "vertex ShaderModuleId" desc.vertex.module).bind fun vertex_module =>
          (stops_fragment desc.fragment).bind_pure fun fragment =>
            ({ label := desc.label, layout
               vertex :=
                 { module := vertex_module, entry_point := desc.vertex.entry_point
                   compilation_options := .default
                   buffers := desc.vertex.buffers.map fun vbl =>
                     { array_stride := vbl.array_stride, step_mode := vbl.step_mode
                       attributes := vbl.attributes } }
               primitive := desc.primitive, depth_stencil := desc.depth_stencil
               multisample := desc.multisample, fragment
               multiview := desc.multiview.bind non_zero_u32 } : Wgpu.RenderPipelineDescriptor Obj)
      exact hdesc.map _
  | CreateComputePipeline id desc =>
      cases h
      have hdesc := (stops_lookup desc.module).bind fun module =>
        (stops_lookup_option desc.layout).bind_pure fun layout =>
          ({ label := desc.label, layout, module, entry_point := desc.entry_point
             compilation_options := .default } : Wgpu.ComputePipelineDescriptor Obj)
      refine (hdesc.map _).of_eq ?_
      show _ = (desc.module.ref :: (desc.layout.map Id.ref).toList).map need
      rcases desc.layout with _ | l
      · rfl
      · rfl
  | DeriveRenderPipelineBindGroupLayout pipeline index id =>
      cases h
      exact (stops_lookup pipeline).map _
  | DeriveComputePipelineBindGroupLayout pipeline index id =>
      cases h
      exact (stops_lookup pipeline).map _
  | CreateBuffer id desc =>
      cases h
      exact Stops.pure _
  | CreateTexture id desc =>
      cases h
      exact Stops.pure _
  | CreateSampler id desc =>
      cases h
      exact Stops.pure _
  | CreateBindGroupLayout id desc =>
      cases h
      exact Stops.pure _
  | _ => cases h

/-! ## Every action -/

/-- The arms that change no table. -/
theorem halts_arm {a : Action} (hc : creation a = none) (hr : removes a = none) :
    Halts (fun _ => handle_arm a) (action_checks a) := by
  cases a with
  | Hello v => exact Halts.pure _
  | RequestAdapter => exact Halts.pure _
  | RequestDevice label => exact Halts.pure _
  | CreateCommandEncoder id desc => exact Halts.pure _
  | Destroy resource =>
      cases resource with
      | Buffer id => cases hr
      | _ => exact Halts.pure _
  | WriteBuffer buffer offset data =>
      have hwrite := (Halts.attempt (stops_lookup buffer)).bind fun b =>
        (Halts.issue (.write_buffer b offset data)).bind fun _ => Halts.pure ()
      exact hwrite.with_tables.bind fun _ =>
        (Halts.issue (.submit [])).bind fun _ => Halts.pure Response.Ok
  | WriteTexture texture mip_level origin aspect data data_layout size =>
      have h := (Halts.attempt (stops_lookup texture)).bind fun tex =>
        (Halts.issue (.write_texture { texture := tex, mip_level, origin, aspect }
          data data_layout size)).bind fun _ =>
        (Halts.issue (.submit [])).bind fun _ => Halts.pure Response.Ok
      exact h.with_tables
  | MapBufferForRead buffer offset size =>
      refine (Halts.attempt (stops_lookup buffer)).with_tables.bind fun b =>
        (Halts.add offset size).bind fun stop =>
          (Halts.issue (.map_async ⟨b, offset, some stop⟩)).bind fun map => (?_ : Halts _ [])
      -- a map that fails is answered too, so the arm gets to its end either way
      obtain ⟨made, map_result, bytes⟩ := map
      cases map_result with
      | Ok =>
          exact (Halts.add offset size).bind fun stop =>
            (Halts.issue (.get_mapped_range ⟨b, offset, some stop⟩)).bind fun view =>
              (Halts.issue (.unmap b)).bind fun _ => Halts.pure (Response.BufferData view.bytes)
      | Err => exact Halts.pure _
      | Dropped => exact Halts.pure _
  | Submit recordings =>
      have h := (halts_recordings recordings).bind fun cbs =>
        (Halts.issue (.submit cbs)).bind fun _ => Halts.pure Response.Ok
      exact h.of_eq (List.append_nil _)
  | _ => cases hc

/-- The arm of every action fails as its checks do. -/
theorem arm_error (reply : Occ → Call → Answer) (d : ℕ) (t : ResourceTables) (a : Action) :
    error_of (exec reply d (handle_arm a) ⟨t, []⟩).1 = first Check.fails (action_checks a) t := by
  rcases hc : creation a with _ | c
  · rcases hr : removes a with _ | r
    · exact (halts_arm hc hr).error reply d t []
    · -- the one arm that removes checks nothing
      cases a with
      | Destroy resource =>
          cases resource with
          | Buffer id => rfl
          | _ => cases hr
      | _ => cases hr
  · rw [← stops_creation hc t, exec_creation reply d ⟨t, []⟩ hc]
    rcases c.call t with e | call
    · rfl
    · rfl

/-- No check fails exactly if the action is admitted. -/
theorem passes_iff (gpu : Gpu) (e : Engine) (a : Action) :
    first Check.fails (action_checks a) e.tables = none ↔ Admitted a e.tables := by
  rw [← arm_error (e.reply gpu) e.dispatched e.tables a, error_of_eq_none]
  rcases hc : creation a with _ | c
  · rcases hr : removes a with _ | r
    · exact (reads_arm a hc hr).ok_iff (e.reply gpu) e.dispatched e.tables []
    · cases a with
      | Destroy resource =>
          cases resource with
          | Buffer id => exact ⟨fun _ => ⟨trivial, Footprint.Present.nil _⟩, fun _ => ⟨_, rfl⟩⟩
          | _ => cases hr
      | _ => cases hr
  · have hiff := (creation_resolves hc).ok_iff e.tables
    rw [exec_creation _ _ _ hc]
    refine Iff.trans ?_ hiff
    rcases c.call e.tables with err | call
    · exact ⟨fun ⟨x, hx⟩ => by (cases hx), fun ⟨x, hx⟩ => by (cases hx)⟩
    · exact ⟨fun _ => ⟨call, rfl⟩, fun _ => ⟨_, rfl⟩⟩

/-- A readback that finds its buffer. -/
theorem read_success (gpu : Gpu) (e : Engine) {buffer : BufferId} {o : Occ}
    (ho : e.tables buffer.ref = some o) (offset size : BufferAddress) :
    (exec (e.reply gpu) e.dispatched (handle_arm (.MapBufferForRead buffer offset size))
      ⟨e.tables, []⟩).1 = .ok (success gpu e (.MapBufferForRead buffer offset size)) := by
  have hget : e.tables.get buffer = some ⟨o⟩ := ResourceTables.get_eq_some.mpr ho
  have hread := exec_read_buffer gpu e (lookup_as_some Kind.Buffer.id_name ho) offset size
  rw [success, hget]
  exact hread

/-- An action none of whose checks fails is answered `success`. -/
theorem passed_answer (gpu : Gpu) (e : Engine) (a : Action) {r : Response} {m : Mem}
    (h : exec (e.reply gpu) e.dispatched (handle_arm a) ⟨e.tables, []⟩ = (.ok r, m))
    (hpass : first Check.fails (action_checks a) e.tables = none) : r = success gpu e a := by
  rcases hq : is_query a with _ | _
  -- apart from queries, an answer is `Ok`
  · rw [exec_arm_ok (e.reply gpu) e.dispatched ⟨e.tables, []⟩ hq (congrArg Prod.fst h)]
    cases a with
    | Hello v => cases hq
    | MapBufferForRead buffer offset size => cases hq
    | _ => rfl
  · cases a with
    | Hello v =>
        cases h
        rfl
    | MapBufferForRead buffer offset size =>
        rcases ho : e.tables buffer.ref with _ | o
        · -- the lookup would have failed
          have hfails := (first_eq_none Check.fails).mp hpass (need buffer.ref)
            (List.mem_singleton_self _)
          change (if e.tables buffer.ref = none then _ else none) = none at hfails
          rw [if_pos ho] at hfails
          cases hfails
        · have hread := read_success gpu e ho offset size
          rw [h] at hread
          exact Except.ok.inj hread
    | _ => cases hq

/-- **What every action is answered, and does**: if one of its checks fails, it is
answered the error of the first that does, and leaves the tables alone; if none
does, it is answered `success`, and has its effect. -/
theorem answered_exactly (gpu : Gpu) (e : Engine) (a : Action) :
    (e.handle gpu a).1 =
        some ((first Check.fails (action_checks a) e.tables).getD (success gpu e a)) ∧
      (first Check.fails (action_checks a) e.tables = none →
        (e.handle gpu a).2.tables = (effect e.dispatched a).apply e.tables) ∧
      (first Check.fails (action_checks a) e.tables ≠ none →
        (e.handle gpu a).2.tables = e.tables) := by
  refine ⟨?_, fun hpass => ?_, fun hfail => ?_⟩
  · have herror := arm_error (e.reply gpu) e.dispatched e.tables a
    rcases hexec : exec (e.reply gpu) e.dispatched (handle_arm a) ⟨e.tables, []⟩ with ⟨err | r, m⟩
    · rw [hexec] at herror
      rw [handle_eq gpu e a hexec, ← herror]
      rfl
    · rw [hexec] at herror
      rw [handle_eq gpu e a hexec, ← herror, passed_answer gpu e a hexec herror.symm]
      rfl
  · exact (handle_admitted gpu e a ((passes_iff gpu e a).mp hpass)).1
  · exact (handle_rejected gpu e a fun hadm => hfail ((passes_iff gpu e a).mpr hadm)).1

end Diagnosis

end WgpuRemote.Server
