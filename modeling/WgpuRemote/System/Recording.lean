/-
A recording from the application's calls to the server's.

The application's calls are recorded by either recorder, shipped as bytes and
replayed. When the tables hold every id the recording mentions, the server
makes the application's calls on its own encoder, in the same order and
nesting, with each handle replaced by the object in the table
(`recording_replayed`).

The client's half is `Client.Recorders`. Here is the server's: what the code
for a command issues is said by `Issues`, whose rules follow the code.
-/
import WgpuRemote.Client.Recorders
import WgpuRemote.Server.Replay
import WgpuRemote.Lib.Footprint

set_option autoImplicit false

namespace WgpuRemote

open Bincode Client Server Footprint
open Wgpu (Occ Obj Event EncoderCall)
open Server.Dispatch (attempt issue add with_tables exec)
open Server.Prog (Mem)

section Recording

variable [WgpuTypes]

/-! ## The objects of a recording -/

/-- The tables hold these objects at the ids among `S`. -/
def Assigns (objects : ∀ k, Id k → Obj k) (S : List Ref) (t : ResourceTables) : Prop :=
  ∀ k (id : Id k), id.ref ∈ S → t.get id = some (objects k id)

section Lookups

variable {objects : ∀ k, Id k → Obj k} {t : ResourceTables}

omit [WgpuTypes] in
/-- Assignments of more are assignments of each part. -/
theorem Assigns.append {S S' : List Ref} (h : Assigns objects (S ++ S') t) :
    Assigns objects S t ∧ Assigns objects S' t := by
  refine ⟨fun k id hid => h k id ?_, fun k id hid => h k id ?_⟩
  · exact List.mem_append_left S' hid
  · exact List.mem_append_right S hid

omit [WgpuTypes] in
/-- An assignment of a list is one of its head and of the rest. -/
theorem Assigns.head {x : Ref} {S : List Ref} (h : Assigns objects (x :: S) t) :
    Assigns objects [x] t ∧ Assigns objects S t := Assigns.append (S := [x]) h

omit [WgpuTypes] in
/-- An assigned id is looked up to its object. -/
theorem Assigns.lookup {k : Kind} {id : Id k} (h : Assigns objects [id.ref] t) :
    lookup t id = .ok (objects k id) := by
  unfold Server.lookup lookup_as
  rw [h k id (List.mem_singleton_self _)]

omit [WgpuTypes] in
/-- An optional id, if there is one. -/
theorem Assigns.lookup_option {k : Kind} {id : Option (Id k)}
    (h : Assigns objects (id.map Id.ref).toList t) :
    lookup_option t id = .ok (id.map (objects k)) := by
  rcases id with _ | id
  · rfl
  · show (Server.lookup t id).map some = _
    rw [Assigns.lookup h]
    rfl

/-- A copy's buffer side. -/
theorem Assigns.image_copy_buffer {src : ImageCopyBuffer} (h : Assigns objects [src.buffer.ref] t) :
    lookup_image_copy_buffer t src = .ok (src.info.map objects) := by
  unfold lookup_image_copy_buffer
  rw [h.lookup]
  rfl

/-- A copy's texture side. -/
theorem Assigns.image_copy_texture {src : ImageCopyTexture}
    (h : Assigns objects [src.texture.ref] t) :
    lookup_image_copy_texture t src = .ok (src.info.map objects) := by
  unfold lookup_image_copy_texture
  rw [h.lookup]
  rfl

/-- An attachment, its resolve target included. -/
theorem Assigns.color_attachment {slot : Option RenderPassColorAttachment}
    (h : Assigns objects (slot.elim [] RenderPassColorAttachment.refs) t) :
    color_attachment t slot = .ok (slot.map fun a => a.info.map objects) := by
  rcases slot with _ | att
  · rfl
  · obtain ⟨hview, htarget⟩ := h.head
    show (Server.lookup t att.view >>= fun view =>
      Server.lookup_option t att.resolve_target >>= fun resolve => pure _) = _
    rw [hview.lookup, htarget.lookup_option]
    rfl

/-- The attachments of a pass. -/
theorem Assigns.color_attachments {slots : List (Option RenderPassColorAttachment)}
    (h : Assigns objects (slots.flatMap fun a => a.elim [] RenderPassColorAttachment.refs) t) :
    slots.mapM (Server.color_attachment t) =
      .ok (slots.map fun slot => slot.map fun a => a.info.map objects) := by
  induction slots with
  | nil => rfl
  | cons slot slots ih =>
      rw [List.flatMap_cons] at h
      obtain ⟨hslot, hslots⟩ := h.append
      rw [List.mapM_cons, hslot.color_attachment, ih hslots]
      rfl

/-- The depth attachment of a pass. -/
theorem Assigns.depth_attachment {slot : Option RenderPassDepthStencilAttachment}
    (h : Assigns objects (slot.map fun a => a.view.ref).toList t) :
    depth_attachment t slot = .ok (slot.map fun a => a.info.map objects) := by
  rcases slot with _ | att
  · rfl
  · show (Server.lookup t att.view >>= fun view => pure _) = _
    rw [Assigns.lookup h]
    rfl

end Lookups

/-! ## The calls of a program -/

/-- The program succeeds, and what it does is make these calls on the encoder. -/
def Issues (encoder : Occ) (p : Dispatch Unit) (calls : List (EncoderCall Obj)) : Prop :=
  ∀ reply d m, exec reply d p m = (.ok (), m.logs d (calls.map (Wgpu.Call.encode encoder)))

namespace Issues

variable {encoder : Occ}

theorem nothing : Issues encoder (pure ()) [] := fun _ _ _ => rfl

theorem encode (call : EncoderCall Obj) : Issues encoder (encode encoder call) [call] :=
  fun _ _ _ => rfl

/-- Sequencing appends the calls. -/
theorem bind {p q : Dispatch Unit} {calls calls' : List (EncoderCall Obj)}
    (hp : Issues encoder p calls) (hq : Issues encoder q calls') :
    Issues encoder (p >>= fun _ => q) (calls ++ calls') := by
  intro reply d m
  rw [Dispatch.exec_bind_ok reply d m (hp reply d m), hq, List.map_append, Mem.logs_append]

/-- A lookup that succeeds makes no calls. -/
theorem attempt {α : Type} {r : Except Response α} {a : α} {p : α → Dispatch Unit}
    {calls : List (EncoderCall Obj)} (hr : r = .ok a) (hp : Issues encoder (p a) calls) :
    Issues encoder (attempt r >>= p) calls := by
  intro reply d m
  rw [hr, Dispatch.exec_bind_ok reply d m (Dispatch.exec_attempt reply d m _)]
  exact hp reply d m

/-- A slice, by offset and size. -/
theorem slice {b : Obj .Buffer} {offset : BufferAddress} {size : Option BufferAddress}
    {p : Wgpu.BufferSlice Obj → Dispatch Unit} {calls : List (EncoderCall Obj)}
    (hp : Issues encoder (p ⟨b, offset, range_end offset size⟩) calls) :
    Issues encoder (slice b offset size >>= p) calls := by
  intro reply d m
  rcases size with _ | s
  · exact hp reply d m
  · exact hp reply d m

/-- A loop makes the calls of its rounds. -/
theorem for_each {α : Type} {f : α → Dispatch Unit} {calls : α → List (EncoderCall Obj)}
    {cs : List α} (hf : ∀ c ∈ cs, Issues encoder (f c) (calls c)) :
    Issues encoder (for_each f cs) (cs.flatMap calls) := by
  induction cs with
  | nil => exact nothing
  | cons c cs ih =>
      have hrest := ih fun x hx => hf x (List.mem_cons_of_mem c hx)
      exact (hf c List.mem_cons_self).bind hrest

/-- The calls in a pass stand between its ends. -/
theorem with_pass {body : Dispatch Unit} {calls : List (EncoderCall Obj)}
    (hbody : Issues encoder body calls) (opening closing : EncoderCall Obj) :
    Issues encoder (with_pass encoder opening closing body) (opening :: (calls ++ [closing])) := by
  have hend : Issues encoder (ExceptT.mk (body.run >>= fun r =>
      (Server.encode encoder closing).run >>= fun _ => pure r)) (calls ++ [closing]) := by
    intro reply d m
    show Prog.run reply d (body.run >>= _) m = _
    have hrun : Prog.run reply d body.run m = _ := hbody reply d m
    rw [Prog.run_bind, hrun, List.map_append, Mem.logs_append]
    rfl
  exact (encode opening).bind hend

end Issues

/-! ## Replaying -/

section Replay

variable {objects : ∀ k, Id k → Obj k} {t : ResourceTables} {encoder : Occ}

/-- A compute command issues its call, on the objects its ids stand for. -/
theorem compute_command_issues {c : ComputeCommand} (h : Assigns objects c.refs t) :
    Issues encoder (replay_compute_command t encoder c) [.compute (c.call.map objects)] := by
  rcases c with id | ⟨index, group, offsets⟩ | ⟨offset, data⟩ | ⟨x, y, z⟩ | ⟨buffer, offset⟩
  · exact Issues.attempt (Assigns.lookup h) (Issues.encode _)
  · exact Issues.attempt (Assigns.lookup h) (Issues.encode _)
  · exact Issues.encode _
  · exact Issues.encode _
  · exact Issues.attempt (Assigns.lookup h) (Issues.encode _)

/-- So does a render command. -/
theorem render_command_issues {c : RenderCommand} (h : Assigns objects c.refs t) :
    Issues encoder (replay_render_command t encoder c) [.render (c.call.map objects)] := by
  rcases c with id | ⟨index, group, offsets⟩ | ⟨slot, buffer, offset, size⟩ |
    ⟨buffer, format, offset, size⟩ | ⟨vertices, instances⟩ | ⟨indices, base_vertex, instances⟩
  · exact Issues.attempt (Assigns.lookup h) (Issues.encode _)
  · exact Issues.attempt (Assigns.lookup h) (Issues.encode _)
  · exact Issues.attempt (Assigns.lookup h) (Issues.slice (Issues.encode _))
  · exact Issues.attempt (Assigns.lookup h) (Issues.slice (Issues.encode _))
  · exact Issues.encode _
  · exact Issues.encode _

omit [WgpuTypes] in
/-- What is assigned for a whole list is assigned for each member. -/
theorem Assigns.of_mem {α : Type} {f : α → List Ref} {l : List α} {c : α}
    (h : Assigns objects (l.flatMap f) t) (hc : c ∈ l) : Assigns objects (f c) t :=
  fun k id hid => h k id (List.mem_flatMap.mpr ⟨c, hc, hid⟩)

/-- **One command** of a recording issues the calls it stands for. -/
theorem encoder_command_issues {c : EncoderCommand} (h : Assigns objects c.refs t) :
    Issues encoder (replay_encoder_command t encoder c)
      (c.calls.map fun call => call.map objects) := by
  rcases c with ⟨source, source_offset, destination, destination_offset, size⟩ |
    ⟨source, destination, copy_size⟩ | ⟨source, destination, copy_size⟩ |
    ⟨buffer, offset, size⟩ | ⟨label, commands⟩ | ⟨label, color, depth, commands⟩
  · exact Issues.attempt h.head.1.lookup (Issues.attempt h.head.2.lookup (Issues.encode _))
  · exact Issues.attempt h.head.1.image_copy_buffer
      (Issues.attempt h.head.2.image_copy_texture (Issues.encode _))
  · exact Issues.attempt h.head.1.image_copy_texture
      (Issues.attempt h.head.2.image_copy_buffer (Issues.encode _))
  · exact Issues.attempt (Assigns.lookup h) (Issues.encode _)
  · -- a compute pass
    have hbody : Issues encoder (for_each (replay_compute_command t encoder) commands)
        (commands.flatMap fun c => [.compute (c.call.map objects)]) :=
      Issues.for_each fun c hc => compute_command_issues (Assigns.of_mem h hc)
    have hpass := hbody.with_pass (.begin_compute_pass label) .end_compute_pass
    rw [EncoderCommand.calls, List.map_cons, List.map_append, List.map_map]
    rw [← List.map_eq_flatMap] at hpass
    exact hpass
  · -- a render pass: the attachments resolve first
    obtain ⟨hatt, hcmds⟩ := h.append
    obtain ⟨hcolor, hdepth⟩ := hatt.append
    have hbody : Issues encoder (for_each (replay_render_command t encoder) commands)
        (commands.flatMap fun c => [.render (c.call.map objects)]) :=
      Issues.for_each fun c hc => render_command_issues (Assigns.of_mem hcmds hc)
    have hpass := hbody.with_pass
      (.begin_render_pass ((pass_info label color depth).map objects)) .end_render_pass
    rw [EncoderCommand.calls, List.map_cons, List.map_append, List.map_map]
    rw [← List.map_eq_flatMap] at hpass
    refine Issues.attempt hcolor.color_attachments (Issues.attempt hdepth.depth_attachment ?_)
    have hdesc : (pass_info label color depth).map objects =
        { label := label
          color_attachments := color.map fun slot => slot.map fun a => a.info.map objects
          depth_stencil_attachment := depth.map fun a => a.info.map objects } := by
      unfold pass_info Wgpu.RenderPassDescriptor.map
      simp only [List.map_map, Option.map_map, Function.comp_def]
    rw [← hdesc]
    exact hpass

/-- **A recording** issues, between the making and the finishing of its
encoder, the calls it stands for. -/
theorem recording_issues (r : CommandBufferRecording) (reply : Occ → Wgpu.Call → Answer) (d : ℕ)
    (m : Mem) (h : Assigns objects r.refs m.tables) :
    ∃ cb m', exec reply d (replay_recording r) m = (.ok cb, m') ∧ m'.tables = m.tables ∧
      m'.events.map Event.call = m.events.map Event.call ++
        .create_command_encoder r.label ::
          (r.calls.map fun call => .encode
            (reply (m.next_occ d) (.create_command_encoder r.label)).made (call.map objects)) ++
          [.finish (reply (m.next_occ d) (.create_command_encoder r.label)).made] := by
  have hbody : Issues (reply (m.next_occ d) (.create_command_encoder r.label)).made
      (for_each (replay_encoder_command m.tables
        (reply (m.next_occ d) (.create_command_encoder r.label)).made) r.commands)
      (r.commands.flatMap fun c => c.calls.map fun call => call.map objects) :=
    Issues.for_each fun c hc => encoder_command_issues (Assigns.of_mem h hc)
  have hcalls : (r.commands.flatMap fun c => c.calls.map fun call => call.map objects) =
      r.calls.map fun call => call.map objects := by
    rw [CommandBufferRecording.calls, List.map_flatMap]
  rw [hcalls] at hbody
  have hlocked := hbody reply d (m.log d (.create_command_encoder r.label))
  unfold replay_recording
  rw [Dispatch.exec_bind_ok reply d m (Dispatch.exec_issue reply d m _)]
  -- the tables the guard gives are the tables in memory: making the encoder changed none
  rw [Dispatch.exec_bind_ok reply d _ ((Dispatch.exec_with_tables reply d _ _).trans hlocked)]
  refine ⟨_, _, rfl, Mem.logs_tables _ d _, ?_⟩
  rw [Mem.log_events, List.map_append, Mem.logs_calls, Mem.log_events, List.map_append,
    List.map_map]
  simp only [List.map_singleton, List.append_assoc, List.cons_append]
  rfl

end Replay

/-! ## The application's calls -/

/-- Replacing the references twice is replacing them once. -/
theorem encoder_call_map_map {R S T : Kind → Type} (f : ∀ k, R k → S k) (g : ∀ k, S k → T k)
    (c : EncoderCall R) : (c.map f).map g = c.map fun k x => g k (f k x) := by
  rcases c with _ | _ | _ | _ | _ | call | _ | desc | call | _
  case compute => rcases call with _ | _ | _ | _ | _ <;> rfl
  case render => rcases call with _ | _ | _ | _ | _ | _ <;> rfl
  case begin_render_pass =>
    simp only [EncoderCall.map, Wgpu.RenderPassDescriptor.map, List.map_map, Option.map_map,
      Function.comp_def, Wgpu.RenderPassColorAttachment.map,
      Wgpu.RenderPassDepthStencilAttachment.map]
  all_goals rfl

/-- The application's call, with each handle replaced by the object under its id. -/
def call_on (objects : ∀ k, Id k → Obj k) (op : EncoderOp Handle) : EncoderCall Obj :=
  op.call.map fun k h => objects k h.id

/-- Shipped and replayed, the recording makes the application's calls: on a
server that holds an object under each id it mentions, the replay succeeds,
changes no table, and calls the encoder it has made exactly as the application
called its own. -/
def Replays (label : Option String) (ops : List (EncoderOp Handle)) (r : CommandBufferRecording) :
    Prop :=
  ∀ bytes, r.encode = .ok bytes → ∃ shipped, CommandBufferRecording.decode bytes = .ok shipped ∧
    ∀ (objects : ∀ k, Id k → Obj k) (reply : Occ → Wgpu.Call → Answer) (d : ℕ) (m : Mem),
      Assigns objects shipped.refs m.tables →
      ∃ cb m', exec reply d (replay_recording shipped) m = (.ok cb, m') ∧ m'.tables = m.tables ∧
        m'.events.map Event.call = m.events.map Event.call ++
          .create_command_encoder label ::
            (ops.map fun op => .encode
              (reply (m.next_occ d) (.create_command_encoder label)).made (call_on objects op)) ++
            [.finish (reply (m.next_occ d) (.create_command_encoder label)).made]

/-- What stands for these calls replays them. -/
theorem replays_of_records {label : Option String} {ops : List (EncoderOp Handle)}
    {r : CommandBufferRecording} (h : Records label ops r) : Replays label ops r := by
  intro bytes hbytes
  refine ⟨r, CommandBufferRecording.decode_encode r bytes hbytes, ?_⟩
  intro objects reply d m hres
  obtain ⟨hlabel, hcalls⟩ := h
  obtain ⟨cb, m', hexec, htables, hevents⟩ := recording_issues r reply d m hres
  refine ⟨cb, m', hexec, htables, ?_⟩
  rw [hevents, hlabel, hcalls, List.map_map]
  have hop : ∀ op : EncoderOp Handle, op.id_call.map objects = call_on objects op :=
    fun op => encoder_call_map_map handle_id objects op.call
  simp only [Function.comp_def, hop]

/-- **Recorded, shipped and replayed.** For every well-nested sequence of
calls: a recorder that offers all of them records them, the recording replays
them, and where both recorders offer all of them they record the same. -/
theorem recording_replayed (label : Option String) (ops : List (EncoderOp Handle))
    (hnest : WellNested ops) :
    ((∀ op ∈ ops, op.is_direct) →
      ∃ r, FacadeEncoder.record label (ops.map EncoderOp.with_size) = some r ∧
        Replays label ops r) ∧
    ((∀ op ∈ ops, op.sizes_non_zero) →
      ∃ r, DropinEncoder.record label (ops.map (EncoderOp.map wrap)) = some r ∧
        Replays label ops r) ∧
    ((∀ op ∈ ops, op.is_direct) → (∀ op ∈ ops, op.sizes_non_zero) →
      DropinEncoder.record label (ops.map (EncoderOp.map wrap)) =
        FacadeEncoder.record label (ops.map EncoderOp.with_size)) := by
  refine ⟨?_, ?_, ?_⟩
  · intro hdirect
    obtain ⟨r, hr, hrec⟩ := facade_records hnest hdirect
    exact ⟨r, hr, replays_of_records hrec⟩
  · intro hsize
    obtain ⟨r, hr, hrec⟩ := dropin_record hnest hsize
    exact ⟨r, hr, replays_of_records hrec⟩
  · intro hdirect hsize
    exact recorders_agree hnest hdirect hsize

end Recording

/-! ## A compute pass and a copy -/

/-- One dispatch in a pass, then a copy to the end of a 64-byte buffer. -/
def pass_and_copy [WgpuTypes] : List (EncoderOp Handle) :=
  [.begin_compute_pass (some "pass"), .compute (.set_pipeline ⟨⟨1⟩, 0⟩),
    .compute (.dispatch_workgroups 4 1 1), .end_compute_pass,
    .copy_buffer_to_buffer ⟨⟨1⟩, 64⟩ 16 ⟨⟨2⟩, 64⟩ 0 none]

/-- What the server holds: the pipeline and the two buffers. -/
def three_held : ResourceTables :=
  ((ResourceTables.empty.insert (⟨1⟩ : ComputePipelineId) ⟨⟨0, 0⟩⟩).insert (⟨1⟩ : BufferId)
    ⟨⟨1, 0⟩⟩).insert (⟨2⟩ : BufferId) ⟨⟨2, 0⟩⟩

/-- Both recorders record the calls, the recording encodes, and the server makes
them again on its own objects. -/
theorem pass_and_copy_replayed :
    letI := WgpuTypes.numeric
    ∃ r bytes, FacadeEncoder.record none (pass_and_copy.map EncoderOp.with_size) = some r ∧
      DropinEncoder.record none (pass_and_copy.map (EncoderOp.map wrap)) = some r ∧
      r.encode = .ok bytes ∧ ∃ cb m',
      exec (fun occ _ => ⟨occ, .Ok, []⟩) 3 (replay_recording r) ⟨three_held, []⟩ = (.ok cb, m') ∧
        m'.events.map Event.call =
          [.create_command_encoder none, .encode ⟨3, 0⟩ (.begin_compute_pass (some "pass")),
            .encode ⟨3, 0⟩ (.compute (.set_pipeline ⟨⟨0, 0⟩⟩)),
            .encode ⟨3, 0⟩ (.compute (.dispatch_workgroups 4 1 1)),
            .encode ⟨3, 0⟩ .end_compute_pass,
            .encode ⟨3, 0⟩ (.copy_buffer_to_buffer ⟨⟨1, 0⟩⟩ 16 ⟨⟨2, 0⟩⟩ 0 48),
            .finish ⟨3, 0⟩] := by
  let _ := WgpuTypes.numeric
  have hdirect : ∀ op ∈ pass_and_copy, op.is_direct := by
    intro op hop
    simp only [pass_and_copy, List.mem_cons, List.not_mem_nil, or_false] at hop
    rcases hop with rfl | rfl | rfl | rfl | rfl <;> trivial
  have hsize : ∀ op ∈ pass_and_copy, op.sizes_non_zero := by
    intro op hop
    simp only [pass_and_copy, List.mem_cons, List.not_mem_nil, or_false] at hop
    rcases hop with rfl | rfl | rfl | rfl | rfl <;> trivial
  obtain ⟨hfacade, -, hagree⟩ := recording_replayed none pass_and_copy rfl
  obtain ⟨r, hr, hreplays⟩ := hfacade hdirect
  -- the recording is this one, and it encodes
  obtain ⟨bytes, hbytes, hrefs⟩ : ∃ bytes, r.encode = .ok bytes ∧
      ∀ x ∈ r.refs, (three_held x).isSome = true := by
    rw [← Option.some.inj hr]
    exact ⟨_, rfl, by decide⟩
  obtain ⟨shipped, hshipped, hexec⟩ := hreplays bytes hbytes
  obtain rfl : r = shipped :=
    Except.ok.inj ((CommandBufferRecording.decode_encode r bytes hbytes).symm.trans hshipped)
  have hassigns : Assigns (fun k id => ((three_held id.ref).map Obj.mk).getD ⟨⟨0, 0⟩⟩) r.refs
      three_held := by
    intro k id hid
    obtain ⟨o, ho⟩ := Option.isSome_iff_exists.mp (hrefs id.ref hid)
    show (three_held id.ref).map Obj.mk = some (((three_held id.ref).map Obj.mk).getD ⟨⟨0, 0⟩⟩)
    rw [ho]
    rfl
  obtain ⟨cb, m', hrun, -, hevents⟩ :=
    hexec _ (fun occ _ => ⟨occ, .Ok, []⟩) 3 ⟨three_held, []⟩ hassigns
  exact ⟨r, bytes, hr, (hagree hdirect hsize).trans hr, hbytes, cb, m', hrun, hevents⟩

end WgpuRemote
