/-
wgpu on the application's own machine, and the server in its place.

`LocalWgpu` is the purpose of the whole: what wgpu would be asked if the
application's calls were made on it directly, with objects behind the handles
instead of ids, and no wire in between. A command buffer is encoded when it is
submitted, and a write is flushed with a submission of no command buffers, so
that a readback after it sees it. `LocalWgpu.call` is one call of the
application on it.

The server makes, for the action of a call, the calls of `LocalWgpu`, under the
same names, and answers what the application would have got (`call_served`):
provided the tables hold the object behind each handle of the call. Over a whole
program they do, if no handle is used before it is created and no buffer after
it is dropped (`program_served`).
-/
import WgpuRemote.Client.Program
import WgpuRemote.Server.Failure
import WgpuRemote.System.Descriptors
import WgpuRemote.System.Recording

set_option autoImplicit false

namespace WgpuRemote

open Bincode Client Server Footprint
open Wgpu (Occ Obj Event Gpu CreateCall EncoderCall BufferSlice)
open Server.Dispatch (attempt issue make with_tables exec)
open Server.Prog (Mem)

section LocalWgpu

variable [WgpuTypes]

/-! ## wgpu, called directly -/

/-- The calls of the `n`-th call of the application, named. -/
def named (n : ℕ) (calls : List Wgpu.Call) : List Event := calls.mapIdx fun i c => ⟨⟨n, i⟩, c⟩

/-- The object behind each handle, the calls made, and how many calls the
application has made. -/
structure LocalWgpu where
  objects : Slot → Occ
  log : List Event
  calls : ℕ

namespace LocalWgpu

/-- Nothing called yet, and no handle to name an object. -/
def new : LocalWgpu := ⟨fun _ => ⟨0, 0⟩, [], 0⟩

/-- The object behind a handle. -/
def object (s : LocalWgpu) (k : Kind) (h : Held k) : Obj k := ⟨s.objects h.slot⟩

/-- The calls of one command buffer: its encoder is made, called and finished. -/
def tape_calls (s : LocalWgpu) (encoder : Occ) (t : Tape) : List Wgpu.Call :=
  .create_command_encoder t.label ::
    (t.ops.map fun op => .encode encoder (op.meant.map s.object)) ++ [.finish encoder]

/-- The calls of all command buffers of a submission, the first of them at
position `i`, and the command buffers they make. -/
def tapes_calls (s : LocalWgpu) : ℕ → List Tape → List Wgpu.Call × List Wgpu.CommandBuffer
  | _, [] => ([], [])
  | i, t :: ts =>
      let rest := tapes_calls s (i + t.ops.length + 2) ts
      (s.tape_calls ⟨s.calls, i⟩ t ++ rest.1, ⟨⟨s.calls, i + t.ops.length + 1⟩⟩ :: rest.2)

/-- The calls of a readback: the range is shown and unmapped if the map succeeds. -/
def read_calls (gpu : Gpu) (s : LocalWgpu) (slice : BufferSlice Obj) : List Wgpu.Call :=
  .map_async slice ::
    match gpu.map_result s.log ⟨s.calls, 0⟩ slice with
    | .Ok => [.get_mapped_range slice, .unmap slice.buffer]
    | .Err | .Dropped => []

/-- What wgpu is asked for a call of the application. -/
def made (gpu : Gpu) (s : LocalWgpu) : AppCall → List Wgpu.Call
  | .hello | .request_adapter | .request_device _ | .drop _ => []
  | .create _ call => [(call.map s.object).issued]
  | .render_get_bind_group_layout _ pipeline index =>
      [.render_get_bind_group_layout (s.object _ pipeline) index]
  | .compute_get_bind_group_layout _ pipeline index =>
      [.compute_get_bind_group_layout (s.object _ pipeline) index]
  | .write_buffer buffer offset data =>
      [.write_buffer (s.object _ buffer) offset data, .submit []]
  | .write_texture texture data data_layout size =>
      [.write_texture (texture.map s.object) data data_layout size, .submit []]
  | .submit command_buffers =>
      (s.tapes_calls 0 command_buffers).1 ++ [.submit (s.tapes_calls 0 command_buffers).2]
  | .read_buffer buffer offset size =>
      s.read_calls gpu ⟨s.object _ buffer, offset, some (offset + size)⟩

/-- What the application gets, in the words of the protocol. -/
def answer (gpu : Gpu) (s : LocalWgpu) : AppCall → Response
  | .hello => .HelloAck PROTOCOL_VERSION
  | .read_buffer buffer offset size =>
      read_response gpu s.log s.calls ⟨s.object _ buffer, offset, some (offset + size)⟩
  | _ => .Ok

/-- One call of the application. -/
def call (gpu : Gpu) (s : LocalWgpu) (c : AppCall) : LocalWgpu where
  objects := fun x => if c.creates = some x then ⟨s.calls, 0⟩ else s.objects x
  log := s.log ++ named s.calls (s.made gpu c)
  calls := s.calls + 1

/-- A program: one call after another. -/
def run (gpu : Gpu) (program : List AppCall) : LocalWgpu :=
  program.foldl (fun s c => s.call gpu c) new

/-- A program with one more call. -/
theorem run_snoc (gpu : Gpu) (program : List AppCall) (c : AppCall) :
    run gpu (program ++ [c]) = (run gpu program).call gpu c := by
  unfold run
  rw [List.foldl_append]
  rfl

end LocalWgpu

/-! ## Names -/

/-- Whatever code a dispatch runs, its calls are named one after another. -/
theorem run_named (reply : Occ → Wgpu.Call → Answer) (d : ℕ) {α : Type} (p : Prog α) (m : Mem) :
    ∃ calls : List Wgpu.Call, (p.run reply d m).2.events =
      m.events ++ calls.mapIdx fun i c => ⟨⟨d, m.events.length + i⟩, c⟩ := by
  induction p generalizing m with
  | done a => exact ⟨[], (List.append_nil _).symm⟩
  | lock next ih => exact ih m.tables m
  | store t next ih => exact ih { m with tables := t }
  | unlock next ih => exact ih m
  | add a b next ih => exact ih (a + b) m
  | call c next ih =>
      obtain ⟨calls, hcalls⟩ := ih (reply (m.next_occ d) c) (m.log d c)
      refine ⟨c :: calls, ?_⟩
      rw [Mem.log_events, List.append_assoc, List.length_append, List.length_singleton] at hcalls
      rw [List.mapIdx_cons]
      refine hcalls.trans ?_
      simp only [Nat.add_assoc, Nat.add_comm 1, List.singleton_append]
      rfl

/-- Naming calls does not change them. -/
@[simp] theorem named_calls (n : ℕ) (calls : List Wgpu.Call) :
    (named n calls).map Event.call = calls := by
  apply List.ext_getElem?
  intro i
  rw [named, List.getElem?_map, List.getElem?_mapIdx, Option.map_map]
  exact congrFun Option.map_id _

/-- On an empty memory, the events are the calls, named. -/
theorem events_named (reply : Occ → Wgpu.Call → Answer) (d : ℕ) {α : Type} (p : Dispatch α)
    (t : ResourceTables) :
    (exec reply d p ⟨t, []⟩).2.events = named d ((exec reply d p ⟨t, []⟩).2.events.map Event.call) := by
  obtain ⟨calls, hcalls⟩ := run_named reply d p.run ⟨t, []⟩
  have hevents : (exec reply d p ⟨t, []⟩).2.events = named d calls := by
    refine hcalls.trans ?_
    simp only [List.nil_append, List.length_nil, Nat.zero_add]
    rfl
  rw [hevents, named_calls]

/-! ## One command buffer -/

/-- Which pass is open does not depend on the handles. -/
theorem nest_map {R S : Kind → Type} (f : ∀ k, R k → S k) (open_pass : Option PassKind)
    (op : EncoderOp R) : nest open_pass (op.map f) = nest open_pass op := by
  rcases open_pass with _ | _ | _
  all_goals
    cases op
    all_goals rfl

/-- Passes stay nested when their objects are translated. -/
theorem well_nested_map {R S : Kind → Type} (f : ∀ k, R k → S k) {ops : List (EncoderOp R)}
    (h : WellNested ops) : WellNested (ops.map (EncoderOp.map f)) := by
  have hrun : ∀ open_pass, Transition.run nest open_pass (ops.map (EncoderOp.map f)) =
      Transition.run nest open_pass ops := by
    clear h
    induction ops with
    | nil => exact fun _ => rfl
    | cons op ops ih =>
        intro open_pass
        rw [List.map_cons, Transition.run_cons, Transition.run_cons, nest_map]
        exact congrArg _ (funext ih)
  exact (hrun none).trans h

/-- The drop-in takes no buffer range of size zero. -/
theorem sizes_non_zero_of_step {s s' : DropinEncoder} {op : EncoderOp Held}
    (h : s.step op.wrapped = some s') : (op.map Held.handle).sizes_non_zero := by
  have hsize : ∀ {size : Option BufferAddress} {f : Option BufferAddress → Option RenderCommand}
      {c : RenderCommand}, (DropinEncoder.non_zero_size size).bind f = some c → size ≠ some 0 := by
    rintro size f c hf rfl
    exact absurd hf (by simp [DropinEncoder.non_zero_size])
  -- a render call is made on a render pass, and gives a command
  have hcommand : ∀ rop : RenderPassOp Held, op = .render rop →
      ∃ c, DropinEncoder.render_command ((rop.map Held.handle).map wrap) = some c := by
    rintro rop rfl
    rcases hpasses : s.passes with _ | ⟨⟨label, commands⟩ | ⟨label, color, depth, commands⟩, rest⟩
    all_goals simp only [EncoderOp.wrapped, EncoderOp.map, DropinEncoder.step, hpasses] at h
    case cons.render =>
      obtain ⟨c, hc, -⟩ := Option.bind_eq_some_iff.mp h
      exact ⟨c, hc⟩
    all_goals exact absurd h (by simp)
  rcases op with _ | _ | _ | _ | _ | _ | _ | op | _
  case render =>
    obtain ⟨c, hc⟩ := hcommand op rfl
    rcases op with _ | _ | ⟨slot, buffer, offset, size⟩ | ⟨buffer, format, offset, size⟩ | _ | _
    case set_vertex_buffer => exact hsize hc
    case set_index_buffer => exact hsize hc
    all_goals trivial
  all_goals trivial

/-- What the drop-in records of a well-nested sequence stands for its calls. -/
theorem tape_records {t : Tape} {r : CommandBufferRecording} (hnest : WellNested t.ops)
    (h : DropinEncoder.record t.label (t.ops.map EncoderOp.wrapped) = some r) :
    Records t.label (t.ops.map (EncoderOp.map Held.handle)) r := by
  have hsizes : ∀ (ops : List (EncoderOp Held)) (s s' : DropinEncoder),
      Transition.run DropinEncoder.step s (ops.map EncoderOp.wrapped) = some s' →
      ∀ op ∈ ops.map (EncoderOp.map Held.handle), op.sizes_non_zero := by
    intro ops
    induction ops with
    | nil => exact fun s s' _ op hop => absurd hop List.not_mem_nil
    | cons op ops ih =>
        intro s s' hs x hx
        rw [List.map_cons, Transition.run_cons] at hs
        obtain ⟨s1, h1, hs⟩ := Option.bind_eq_some_iff.mp hs
        rcases List.mem_cons.mp hx with rfl | hx
        · exact sizes_non_zero_of_step h1
        · exact ih s1 s' hs x hx
  obtain ⟨s, hs, -⟩ := Option.map_eq_some_iff.mp h
  have hsizes' := hsizes t.ops _ s hs
  obtain ⟨r', hr', hrecords⟩ : ∃ r', DropinEncoder.record t.label
      ((t.ops.map (EncoderOp.map Held.handle)).map (EncoderOp.map wrap)) = some r' ∧
        Records t.label (t.ops.map (EncoderOp.map Held.handle)) r' :=
    dropin_record (well_nested_map Held.handle hnest) hsizes'
  rw [List.map_map] at hr'
  rw [show r = r' from Option.some.inj (h.symm.trans hr')]
  exact hrecords

section Tapes

variable {s : LocalWgpu} {t : ResourceTables}

/-- The tables hold the object behind each of the handles. -/
def LocalWgpu.Backs (s : LocalWgpu) (t : ResourceTables) (slots : List Slot) : Prop :=
  ∀ x ∈ slots, t x.ref = some (s.objects x)

/-- The object in the tables, for an id that has one. -/
def found (t : ResourceTables) (k : Kind) (id : Id k) : Obj k := (t.get id).getD ⟨⟨0, 0⟩⟩

/-- Where the tables back an object, its id is found to be that object. -/
theorem found_eq {k : Kind} {h : Held k} (hb : t h.slot.ref = some (s.objects h.slot)) :
    found t k (nth_id k h.n) = s.object k h := by
  have hget : t.get (nth_id k h.n) = some (s.object k h) := ResourceTables.get_eq_some.mpr hb
  rw [found, hget]
  rfl

/-- The calls a recording stands for, over the objects in the tables, are those
of the application over its own. -/
theorem tape_calls_eq {tape : Tape} {r : CommandBufferRecording}
    (hr : Records tape.label (tape.ops.map (EncoderOp.map Held.handle)) r)
    (hb : s.Backs t (tape.ops.flatMap EncoderOp.slots)) :
    (r.calls.map fun call => call.map (found t)) = tape.ops.map fun op => op.meant.map s.object := by
  rw [hr.2, List.map_map, List.map_map]
  apply List.map_congr_left
  intro op hop
  have hids : (op.map Held.handle).id_call = op.meant.map fun k h => nth_id k h.n := by
    rw [EncoderOp.id_call, EncoderOp.call_handle, encoder_call_map_map]
    rfl
  show ((op.map Held.handle).id_call).map (found t) = _
  rw [hids, encoder_call_map_map]
  refine EncoderOp.meant_congr fun k x hx => found_eq (hb x.slot ?_)
  exact List.mem_flatMap.mpr ⟨op, hop, hx⟩

/-- The tables assign objects to all a recording mentions. -/
theorem assigns_found {tape : Tape} {r : CommandBufferRecording}
    (hr : DropinEncoder.record tape.label (tape.ops.map EncoderOp.wrapped) = some r)
    (hb : s.Backs t (tape.ops.flatMap EncoderOp.slots)) : Assigns (found t) r.refs t := by
  intro k id hid
  obtain ⟨x, hx, hxr⟩ := AppCall.recording_refs hr id.ref hid
  have hsome : t id.ref = some (s.objects x) := by
    rw [← hxr]
    exact hb x hx
  have hget : t.get id = some ⟨s.objects x⟩ := ResourceTables.get_eq_some.mpr hsome
  rw [found, hget]
  rfl

section Played

variable {reply : Occ → Wgpu.Call → Answer} (d : ℕ) (m : Mem)

/-- Every call logged is one event. -/
theorem logs_length (calls : List Wgpu.Call) :
    (m.logs d calls).events.length = m.events.length + calls.length := by
  rw [← List.length_map (f := Event.call), Mem.logs_calls, List.length_append, List.length_map]

/-- **A recording, played**: the encoder is made, called as recorded and
finished, and each is named by its place. -/
theorem recording_played (hnames : Names reply) {objects : ∀ k, Id k → Obj k}
    (r : CommandBufferRecording) (h : Assigns objects r.refs m.tables) :
    exec reply d (replay_recording r) m =
      (.ok ⟨⟨d, m.events.length + r.calls.length + 1⟩⟩,
        m.logs d (.create_command_encoder r.label ::
          (r.calls.map fun call => .encode (m.next_occ d) (call.map objects)) ++
            [.finish (m.next_occ d)])) := by
  have hbody : Issues (m.next_occ d)
      (for_each (replay_encoder_command m.tables (m.next_occ d)) r.commands)
      (r.commands.flatMap fun c => c.calls.map fun call => call.map objects) :=
    Issues.for_each fun c hc => encoder_command_issues (Assigns.of_mem h hc)
  have hcalls : (r.commands.flatMap fun c => c.calls.map fun call => call.map objects) =
      r.calls.map fun call => call.map objects := by
    rw [CommandBufferRecording.calls, List.map_flatMap]
  rw [hcalls] at hbody
  have hlocked := hbody reply d (m.log d (.create_command_encoder r.label))
  rw [List.map_map] at hlocked
  have hlast : ((m.log d (.create_command_encoder r.label)).logs d
      (r.calls.map fun call => .encode (m.next_occ d) (call.map objects))).next_occ d =
      ⟨d, m.events.length + r.calls.length + 1⟩ := by
    unfold Mem.next_occ
    rw [logs_length, Mem.log_events, List.length_append, List.length_singleton, List.length_map,
      Nat.add_right_comm]
  rw [replay_recording, Dispatch.exec_bind, Dispatch.exec_issue]
  dsimp only
  rw [hnames, Dispatch.exec_bind, Dispatch.exec_with_tables, Mem.log_tables, hlocked]
  dsimp only
  rw [Dispatch.exec_bind, Dispatch.exec_issue]
  dsimp only
  rw [Dispatch.exec_pure, hnames]
  refine Prod.ext ?_ ?_
  · exact congrArg (fun occ => Except.ok (⟨occ⟩ : Wgpu.CommandBuffer)) hlast
  · show Mem.log _ d _ = _
    rw [Mem.logs_append]
    rfl

/-- **All recordings of a submission, played**: what the application's calls
are, one command buffer after another. -/
theorem recordings_played (hnames : Names reply) {s : LocalWgpu} {tapes : List Tape}
    {raws : List Bytes} (hraws : List.Forall₂ (fun t raw => t.payload = some raw) tapes raws)
    (hnest : ∀ t ∈ tapes, WellNested t.ops)
    (hb : s.Backs m.tables (tapes.flatMap fun t => t.ops.flatMap EncoderOp.slots)) :
    exec reply s.calls (replay_recordings raws) m =
      (.ok (s.tapes_calls m.events.length tapes).2,
        m.logs s.calls (s.tapes_calls m.events.length tapes).1) := by
  induction hraws generalizing m with
  | nil => rfl
  | @cons tape raw tapes raws hraw _ ih =>
      obtain ⟨r, hr, hdec⟩ := AppCall.payload_eq_some hraw
      have hbt : s.Backs m.tables (tape.ops.flatMap EncoderOp.slots) :=
        fun x hx => hb x (List.mem_append_left _ hx)
      have hrecords := tape_records (hnest tape List.mem_cons_self) hr
      have hfirst := recording_played s.calls m hnames r (assigns_found hr hbt)
      have hcalls := tape_calls_eq hrecords hbt
      have hlen : r.calls.length = tape.ops.length := by
        rw [hrecords.2, List.length_map, List.length_map]
      -- the calls of the first command buffer are those of its recording
      have htape : (Wgpu.Call.create_command_encoder r.label ::
          (r.calls.map fun call => .encode (m.next_occ s.calls) (call.map (found m.tables))) ++
            [.finish (m.next_occ s.calls)]) = s.tape_calls ⟨s.calls, m.events.length⟩ tape := by
        have hencode := congrArg (List.map (Wgpu.Call.encode (m.next_occ s.calls))) hcalls
        rw [List.map_map, List.map_map] at hencode
        rw [LocalWgpu.tape_calls, hrecords.1]
        exact congrArg (fun l => Wgpu.Call.create_command_encoder tape.label :: l ++ _) hencode
      rw [htape, hlen] at hfirst
      have hlen' : (s.tape_calls ⟨s.calls, m.events.length⟩ tape).length = tape.ops.length + 2 := by
        simp [LocalWgpu.tape_calls]
      have hrest := ih (m.logs s.calls (s.tape_calls ⟨s.calls, m.events.length⟩ tape))
        (fun x hx => hnest x (List.mem_cons_of_mem tape hx))
        (by
          intro x hx
          rw [Mem.logs_tables]
          exact hb x (List.mem_append_right _ hx))
      rw [logs_length, hlen', ← Nat.add_assoc] at hrest
      rw [replay_recordings_decoded hdec, Dispatch.exec_bind, hfirst]
      dsimp only
      rw [Dispatch.exec_bind, hrest]
      dsimp only
      rw [Dispatch.exec_pure, ← Mem.logs_append]
      rfl

end Played

end Tapes

/-! ## What is carried -/

def binding_is_array : Wgpu.BindingResource Held → Bool
  | .BufferArray _ | .SamplerArray _ | .TextureViewArray _ => true
  | .Buffer _ | .Sampler _ | .TextureView _ => false

/-- A create call the remote backend can carry as it is: a buffer that is not
mapped at creation, pipelines compiled with the defaults, no array bindings. -/
structure CreateCarried (call : CreateCall Held) : Prop where
  unmapped : ∀ desc, call = .create_buffer desc → desc.mapped_at_creation = false
  defaults : ∀ o ∈ call.compilation_options, o = .default
  single : ∀ desc, call = .create_bind_group desc →
    ∀ e ∈ desc.entries, binding_is_array e.resource = false

/-- A call that can be carried as it is. The passes of a command buffer do not
overlap. -/
def Carried : AppCall → Prop
  | .create _ call => CreateCarried call
  | .submit command_buffers => ∀ t ∈ command_buffers, WellNested t.ops
  | _ => True

omit [WgpuTypes] in
/-- The binding sent is an array if the application's is. -/
theorem binding_resource_is_array {r : Wgpu.BindingResource Held} {w : BindingResource}
    (h : binding_resource ((r.map Held.handle).map wrap) = .ok w) :
    w.is_array = binding_is_array r := by
  rcases r with b | bs | s | ss | v | vs
  · cases h
    rfl
  · obtain ⟨ws, -, hret⟩ := bind_eq_ok.mp h
    cases hret
    rfl
  · cases h
    rfl
  · obtain ⟨ids, -, hret⟩ := bind_eq_ok.mp h
    cases hret
    rfl
  · cases h
    rfl
  · obtain ⟨ids, -, hret⟩ := bind_eq_ok.mp h
    cases hret
    rfl

/-- The server supports the action of a create call that can be carried. -/
theorem supported_of_carried {raw : UInt64} {call : CreateCall Held} {a : Action}
    (ha : create_action raw (wrapped_call call) = some a) (hc : CreateCarried call) :
    a.supported := by
  cases call with
  | create_shader_module desc =>
      obtain ⟨w, hw, rfl⟩ := Option.map_eq_some_iff.mp ha
      obtain ⟨label, source⟩ := desc
      rcases source with src | _
      · cases hw
        exact ⟨src, rfl⟩
      · cases hw
  | create_bind_group desc =>
      obtain ⟨w, hw, rfl⟩ := Option.map_eq_some_iff.mp ha
      obtain ⟨layout, -, hw⟩ := bind_eq_ok.mp (toOption_eq_some hw)
      obtain ⟨entries, hentries, hret⟩ := bind_eq_ok.mp hw
      cases hret
      change ((desc.entries.map _).map _).mapM _ = _ at hentries
      rw [List.map_map] at hentries
      have harrays : (entries.flatMap fun e => [e.resource.is_array]) =
          desc.entries.flatMap fun e => [binding_is_array e.resource] := by
        refine flatMap_of_mapM ?_ hentries
        intro e x hx
        obtain ⟨r, hr, hret⟩ := bind_eq_ok.mp hx
        cases hret
        rw [binding_resource_is_array hr]
      intro e he
      have hmem : e.resource.is_array ∈ desc.entries.flatMap fun e => [binding_is_array e.resource] := by
        rw [← harrays]
        exact List.mem_flatMap.mpr ⟨e, he, List.mem_singleton_self _⟩
      obtain ⟨x, hx, heq⟩ := List.mem_flatMap.mp hmem
      rw [List.mem_singleton.mp heq]
      exact hc.single desc rfl x hx
  | create_pipeline_layout desc =>
      obtain ⟨w, -, rfl⟩ := Option.map_eq_some_iff.mp ha
      trivial
  | create_render_pipeline desc =>
      obtain ⟨w, -, rfl⟩ := Option.map_eq_some_iff.mp ha
      trivial
  | create_compute_pipeline desc =>
      obtain ⟨w, -, rfl⟩ := Option.map_eq_some_iff.mp ha
      trivial
  | _ =>
      cases ha
      trivial

/-! ## One call, on the server -/

section Served

variable {s : LocalWgpu} {t : ResourceTables}

/-- A backed handle is looked up to its object. -/
theorem LocalWgpu.Backs.lookup {k : Kind} {h : Held k} (hb : s.Backs t [h.slot]) :
    lookup t (h.handle k).id = .ok (s.object k h) :=
  lookup_as_some k.id_name (hb h.slot (List.mem_singleton_self _))

/-- A create call, over the objects the tables hold, is the application's over
its own. -/
theorem create_resolved {call : CreateCall Held} (hb : s.Backs t (create_slots call)) :
    (wrapped_call call).map (resolve t) = (call.map s.object).map resolved := by
  rw [wrapped_call, create_call_map_map, create_call_map_map, create_call_map_map]
  refine create_call_map_congr fun k x hx => ?_
  exact ResourceTables.get_eq_some.mpr (hb x.slot hx)

/-- What resolves to the same call is the same call. -/
theorem resolved_inj {c c' : CreateCall Obj} (h : c.map resolved = c'.map resolved) : c = c' := by
  have hback := congrArg
    (fun c : CreateCall fun k => Option (Obj k) => c.map fun k o => o.getD (⟨⟨0, 0⟩⟩ : Obj k)) h
  rw [create_call_map_map, create_call_map_map] at hback
  exact (create_call_map_id c).symm.trans (hback.trans (create_call_map_id c'))

/-- The call of a create, on the server. -/
theorem create_served {raw : UInt64} {call : CreateCall Held} {a : Action}
    (ha : create_action raw (wrapped_call call) = some a) (hc : CreateCarried call)
    (hb : s.Backs t (create_slots call)) :
    ∃ cr, creation a = some cr ∧ cr.call t = .ok (call.map s.object).issued := by
  obtain ⟨cr, hcr⟩ := creation_of_create_action ha
  have hpresent : Present a.reads t := by
    intro r hr
    rw [create_action_reads ha] at hr
    obtain ⟨x, hx, rfl⟩ := List.mem_map.mp hr
    rw [hb x hx]
    rfl
  obtain ⟨made, hmade⟩ :=
    ((creation_resolves hcr).ok_iff t).mpr ⟨supported_of_carried ha hc, hpresent⟩
  have hunmapped : ∀ desc, wrapped_call call = .create_buffer desc →
      desc.mapped_at_creation = false := by
    intro desc hdesc
    cases call with
    | create_buffer _ =>
        cases hdesc
        exact hc.unmapped _ rfl
    | _ => cases hdesc
  obtain ⟨c, rfl, -, hsame⟩ := create_survives hunmapped ha hcr hmade
  have hdefault : ∀ o ∈ (wrapped_call call).compilation_options, o = .default := by
    rw [wrapped_call, CreateCall.compilation_options_map, CreateCall.compilation_options_map]
    exact hc.defaults
  have hresolved := (hsame hdefault).trans (create_resolved hb)
  exact ⟨cr, hcr, by rw [hmade, resolved_inj hresolved]⟩

/-- The code of an arm does what the application's call asks for. -/
structure Does (gpu : Gpu) (s : LocalWgpu) (e : Engine) (c : AppCall) (a : Action) (m : Mem) :
    Prop where
  exec : exec (e.reply gpu) e.dispatched (handle_arm a) ⟨e.tables, []⟩ = (.ok (s.answer gpu c), m)
  made : m.events.map Event.call = s.made gpu c

variable {gpu : Gpu} {e : Engine}

/-- A create call does on the server what it does locally. -/
theorem create_does {h : Slot} {call : CreateCall Held} {a : Action}
    (ha : (AppCall.create h call).action = some a) (hc : CreateCarried call)
    (hb : s.Backs e.tables (create_slots call)) :
    ∃ m, Does gpu s e (.create h call) a m := by
  obtain ⟨cr, hcr, hcall⟩ := create_served ha hc hb
  have hexec := exec_creation (e.reply gpu) e.dispatched ⟨e.tables, []⟩ hcr
  rw [hcall] at hexec
  exact ⟨_, hexec, rfl⟩

/-- So does deriving a layout. -/
theorem derive_does {k : Kind} {c : AppCall} {a : Action} {pipeline : Held k} {f : Obj k → Wgpu.Call}
    {id : BindGroupLayoutId} (harm : handle_arm a = derive_bind_group_layout (pipeline.handle k).id f id)
    (hanswer : s.answer gpu c = .Ok) (hmade : s.made gpu c = [f (s.object k pipeline)])
    (hb : s.Backs e.tables [pipeline.slot]) : ∃ m, Does gpu s e c a m := by
  have hexec := exec_derive (e.reply gpu) e.dispatched ⟨e.tables, []⟩ (pipeline.handle k).id f id
  rw [hb.lookup, ← harm] at hexec
  refine ⟨_, hexec.trans (congrArg (fun r => (Except.ok r, _)) hanswer.symm), ?_⟩
  rw [hmade]
  rfl

/-- So does a write to a buffer. -/
theorem write_buffer_does {buffer : Held .Buffer} {offset : BufferAddress} {data : Bytes}
    (hb : s.Backs e.tables [buffer.slot]) :
    ∃ m, Does gpu s e (.write_buffer buffer offset data)
      (.WriteBuffer (buffer.handle _).id offset data) m := by
  refine ⟨(⟨e.tables, []⟩ : Mem).logs e.dispatched
    [.write_buffer (s.object _ buffer) offset data, .submit []], ?_, rfl⟩
  rw [handle_arm, write_buffer, Dispatch.exec_bind, with_buffer, Dispatch.exec_with_tables,
    Dispatch.exec_bind, Dispatch.exec_attempt, hb.lookup]
  rfl

/-- And one to a texture. -/
theorem write_texture_does {texture : Wgpu.TexelCopyTextureInfo Held} {data : Bytes}
    {data_layout : TexelCopyBufferLayout} {size : Extent3d}
    (hb : s.Backs e.tables [texture.texture.slot]) :
    ∃ m, Does gpu s e (.write_texture texture data data_layout size)
      (.WriteTexture (texture.texture.handle _).id texture.mip_level texture.origin texture.aspect
        data data_layout size) m := by
  refine ⟨(⟨e.tables, []⟩ : Mem).logs e.dispatched
    [.write_texture (texture.map s.object) data data_layout size, .submit []], ?_, rfl⟩
  rw [handle_arm, write_texture, Dispatch.exec_with_tables, Dispatch.exec_bind,
    Dispatch.exec_attempt, hb.lookup]
  rfl

/-- A submission replays what the local encoders are given when they are made. -/
theorem submit_does (hnames : Names (e.reply gpu)) (hd : e.dispatched = s.calls)
    {command_buffers : List Tape} {a : Action}
    (ha : (AppCall.submit command_buffers).action = some a)
    (hc : ∀ t ∈ command_buffers, WellNested t.ops)
    (hb : s.Backs e.tables (AppCall.submit command_buffers).slots) :
    ∃ m, Does gpu s e (.submit command_buffers) a m := by
  obtain ⟨raws, hraws, rfl⟩ := Option.map_eq_some_iff.mp ha
  have hplayed := recordings_played ⟨e.tables, []⟩ hnames (AppCall.payloads hraws) hc hb
  refine ⟨((⟨e.tables, []⟩ : Mem).logs s.calls (s.tapes_calls 0 command_buffers).1).log s.calls
    (.submit (s.tapes_calls 0 command_buffers).2), ?_, ?_⟩
  · rw [hd, handle_arm, submit, Dispatch.exec_bind, hplayed]
    rfl
  · rw [Mem.log_events, List.map_append, Mem.logs_calls, LocalWgpu.made]
    rfl

/-- A readback sees the same log, and answers the same bytes. -/
theorem read_does (hd : e.dispatched = s.calls) (hlog : e.log = s.log) {buffer : Held .Buffer} {offset size : BufferAddress}
    (hb : s.Backs e.tables [buffer.slot]) :
    ∃ m, Does gpu s e (.read_buffer buffer offset size)
      (.MapBufferForRead (buffer.handle _).id offset size) m := by
  refine ⟨(⟨e.tables, []⟩ : Mem).logs e.dispatched
    (s.read_calls gpu ⟨s.object _ buffer, offset, some (offset + size)⟩), ?_, ?_⟩
  · rw [handle_arm, read_buffer, Dispatch.exec_bind, Dispatch.exec_with_tables,
      Dispatch.exec_attempt, hb.lookup]
    dsimp only
    rw [Dispatch.exec_bind, Dispatch.exec_add]
    dsimp only
    rw [Dispatch.exec_bind, Dispatch.exec_issue]
    dsimp only
    have hres : (e.reply gpu ((⟨e.tables, []⟩ : Mem).next_occ e.dispatched)
        (.map_async ⟨s.object _ buffer, offset, some (offset + size)⟩)).map_result =
        gpu.map_result s.log ⟨s.calls, 0⟩ ⟨s.object _ buffer, offset, some (offset + size)⟩ := by
      rw [← hlog, ← hd]
      rfl
    rw [hres, LocalWgpu.answer, read_response, LocalWgpu.read_calls]
    rcases gpu.map_result s.log ⟨s.calls, 0⟩ ⟨s.object _ buffer, offset, some (offset + size)⟩
      with _ | _ | _
    · rw [← hlog, ← hd]
      rfl
    · rfl
    · rfl
  · rw [Mem.logs_calls]
    rfl

variable (gpu) in
/-- **One call.** The server makes the calls of the application, if the tables
hold the object behind each handle of the call. -/
theorem call_does (hd : e.dispatched = s.calls) (hlog : e.log = s.log) {c : AppCall} {a : Action}
    (ha : c.action = some a) (hc : Carried c) (hb : s.Backs e.tables c.slots) :
    ∃ m, Does gpu s e c a m := by
  cases c with
  | hello =>
      cases ha
      exact ⟨⟨e.tables, []⟩, rfl, rfl⟩
  | request_adapter =>
      cases ha
      exact ⟨⟨e.tables, []⟩, rfl, rfl⟩
  | request_device label =>
      cases ha
      exact ⟨⟨e.tables, []⟩, rfl, rfl⟩
  | create h call => exact create_does ha hc hb
  | render_get_bind_group_layout h pipeline index =>
      cases ha
      exact derive_does (f := fun rp => .render_get_bind_group_layout rp index) rfl rfl rfl hb
  | compute_get_bind_group_layout h pipeline index =>
      cases ha
      exact derive_does (f := fun cp => .compute_get_bind_group_layout cp index) rfl rfl rfl hb
  | write_buffer buffer offset data =>
      cases ha
      exact write_buffer_does hb
  | write_texture texture data data_layout size =>
      cases ha
      exact write_texture_does hb
  | submit command_buffers => exact submit_does (names_reply gpu e) hd ha hc hb
  | read_buffer buffer offset size =>
      cases ha
      exact read_does hd hlog hb
  | drop h =>
      cases ha
      obtain ⟨device, kind, n⟩ := h
      cases kind
      case Buffer => exact ⟨⟨e.tables.remove _, []⟩, rfl, rfl⟩
      all_goals exact ⟨⟨e.tables, []⟩, rfl, rfl⟩

/-- The server admits the action of a call, if the tables hold the object behind
each handle of the call. -/
theorem admitted_of_carried {c : AppCall} {a : Action} (ha : c.action = some a) (hc : Carried c)
    (hb : s.Backs t c.slots) : Admitted a t := by
  constructor
  · cases c with
    | create h call => exact supported_of_carried ha hc
    | submit command_buffers =>
        obtain ⟨raws, hraws, rfl⟩ := Option.map_eq_some_iff.mp ha
        intro raw hraw
        obtain ⟨tape, -, hpayload⟩ := AppCall.exists_of_payload (AppCall.payloads hraws) hraw
        obtain ⟨recording, -, hdec⟩ := AppCall.payload_eq_some hpayload
        exact ⟨recording, hdec⟩
    | _ =>
        cases ha
        trivial
  · intro r hr
    obtain ⟨x, hx, rfl⟩ := AppCall.action_reads ha r hr
    rw [hb x hx]
    rfl

/-- **One call, served**: the answer is the application's, and so is the log. -/
theorem call_served (hd : e.dispatched = s.calls) (hlog : e.log = s.log) {c : AppCall} {a : Action}
    (ha : c.action = some a) (hc : Carried c) (hb : s.Backs e.tables c.slots) :
    (e.handle gpu a).1 = some (s.answer gpu c) ∧
      (e.handle gpu a).2.log = (s.call gpu c).log ∧
      (e.handle gpu a).2.dispatched = (s.call gpu c).calls := by
  obtain ⟨m, hdoes⟩ := call_does gpu hd hlog ha hc hb
  have hevents := events_named (e.reply gpu) e.dispatched (handle_arm a) e.tables
  rw [hdoes.exec] at hevents
  rw [handle_eq gpu e a hdoes.exec]
  refine ⟨rfl, ?_, congrArg (· + 1) hd⟩
  show e.log ++ m.events = s.log ++ named s.calls (s.made gpu c)
  rw [hlog, hevents, hdoes.made, hd]

end Served

/-! ## A program, on the server -/

/-- The handle was created by one of the calls, and is no buffer that one of
them dropped. -/
def InUse (calls : List AppCall) (x : Slot) : Prop :=
  (∃ c ∈ calls, c.creates = some x) ∧ (x.kind = .Buffer → ∀ c ∈ calls, c.drops ≠ some x)

/-- One of the calls creates or drops the handle. -/
def Touched (calls : List AppCall) (x : Slot) : Prop :=
  ∃ c ∈ calls, c.creates = some x ∨ c.drops = some x

/-- What the remote backend asks of a program: its calls can be carried, they are
given handles in use, and different handles have different ids. -/
structure WellUsed (program : List AppCall) : Prop where
  carried : ∀ c ∈ program, Carried c
  in_use : ∀ pre c post, program = pre ++ c :: post → ∀ x ∈ c.slots, InUse pre x
  distinct : ∀ x y, Touched program x → Touched program y → x.ref = y.ref → x = y

/-- A program is well used up to any point. -/
theorem WellUsed.front {program rest : List AppCall} (h : WellUsed (program ++ rest)) :
    WellUsed program := by
  have htouched : ∀ x, Touched program x → Touched (program ++ rest) x := by
    rintro x ⟨c, hc, hx⟩
    exact ⟨c, List.mem_append_left _ hc, hx⟩
  refine ⟨fun c hc => h.carried c (List.mem_append_left _ hc), ?_,
    fun x y hx hy => h.distinct x y (htouched x hx) (htouched y hy)⟩
  intro pre c post hsplit
  refine h.in_use pre c (post ++ rest) ?_
  rw [hsplit, List.append_assoc]
  rfl

/-- The action is the one the call sends, for the handle it returns. -/
structure Sends (c : AppCall) (a : Action) : Prop where
  action : c.action = some a
  creates : a.creates = c.creates.map Slot.ref

/-- An engine that has dispatched the actions. -/
def served (gpu : Gpu) (actions : List Action) : Engine :=
  actions.foldl (fun e a => (e.handle gpu a).2) Engine.new

/-- The engine after one more action. -/
theorem served_snoc (gpu : Gpu) (actions : List Action) (a : Action) :
    served gpu (actions ++ [a]) = ((served gpu actions).handle gpu a).2 := by
  unfold served
  rw [List.foldl_append]
  rfl

/-- An action removes the buffers that its call drops, and nothing else. -/
theorem Sends.removes {c : AppCall} {a : Action} (h : Sends c a) :
    removes a = (c.drops.filter fun x => x.kind = .Buffer).map Slot.ref := by
  cases c with
  | drop x =>
      obtain ⟨device, kind, n⟩ := x
      cases h.action
      cases kind <;> rfl
  | create x call =>
      obtain ⟨cr, hcr⟩ := creation_of_create_action h.action
      cases a
      case Destroy resource => cases hcr
      all_goals rfl
  | submit command_buffers =>
      obtain ⟨raws, -, rfl⟩ := Option.map_eq_some_iff.mp h.action
      rfl
  | _ =>
      cases h.action
      rfl

/-- The engine has dispatched what the application has called, and its tables
hold the object behind each handle in use. -/
structure Matches (s : LocalWgpu) (e : Engine) (calls : List AppCall) : Prop where
  dispatched : e.dispatched = s.calls
  log : e.log = s.log
  backs : ∀ x, InUse calls x → e.tables x.ref = some (s.objects x)

section Matches

variable {gpu : Gpu} {s : LocalWgpu} {e : Engine} {calls : List AppCall}

theorem matches_new : Matches LocalWgpu.new Engine.new [] where
  dispatched := rfl
  log := rfl
  backs := by
    rintro x ⟨⟨c, hc, -⟩, -⟩
    exact absurd hc List.not_mem_nil

variable (gpu) in
/-- **One call** keeps the engine and the application's own wgpu together. -/
theorem Matches.call (h : Matches s e calls) {c : AppCall} {a : Action} (hsends : Sends c a)
    (hc : Carried c) (hused : ∀ x ∈ c.slots, InUse calls x)
    (hdistinct : ∀ x y, Touched (calls ++ [c]) x → Touched (calls ++ [c]) y → x.ref = y.ref → x = y) :
    (e.handle gpu a).1 = some (s.answer gpu c) ∧
      Matches (s.call gpu c) (e.handle gpu a).2 (calls ++ [c]) := by
  have hb : s.Backs e.tables c.slots := fun x hx => h.backs x (hused x hx)
  obtain ⟨hanswer, hlog, hdispatched⟩ := call_served h.dispatched h.log hsends.action hc hb
  have htables := (handle_admitted gpu e a (admitted_of_carried hsends.action hc hb)).1
  refine ⟨hanswer, hdispatched, hlog, ?_⟩
  rintro x ⟨⟨c', hc', hcreates⟩, hkept⟩
  have htouched : Touched (calls ++ [c]) x := ⟨c', hc', Or.inl hcreates⟩
  have hlast : c ∈ calls ++ [c] := List.mem_append_right _ (List.mem_singleton_self c)
  rw [htables]
  by_cases hnew : c.creates = some x
  · -- the entry is the one the call has made
    have heffect : effect e.dispatched a = .put x.ref ⟨e.dispatched, 0⟩ := by
      rw [effect, hsends.creates, hnew]
      rfl
    have hobject : (s.call gpu c).objects x = ⟨s.calls, 0⟩ := if_pos hnew
    rw [heffect, hobject, ← h.dispatched]
    exact Store.insert_self _ _ _
  · -- the entry was there, and the call touches another
    have hold : InUse calls x := by
      refine ⟨?_, fun hk y hy => hkept hk y (List.mem_append_left _ hy)⟩
      rcases List.mem_append.mp hc' with hc' | hc'
      · exact ⟨c', hc', hcreates⟩
      · rw [List.mem_singleton.mp hc'] at hcreates
        exact absurd hcreates hnew
    have hobject : (s.call gpu c).objects x = s.objects x := if_neg hnew
    rw [hobject, ← h.backs x hold]
    apply Store.Op.apply_of_not_touches
    intro htouches
    rw [effect, hsends.creates, hsends.removes] at htouches
    rcases hcr : c.creates with _ | y
    · rw [hcr] at htouches
      rcases hd : c.drops with _ | y
      · rw [hd] at htouches
        exact htouches
      · rw [hd] at htouches
        by_cases hk : y.kind = .Buffer
        · have hy : y.ref = x.ref := by simpa [Option.filter, hk, Store.Op.touches] using htouches
          have heq := hdistinct y x ⟨c, hlast, Or.inr hd⟩ htouched hy
          exact hkept (heq ▸ hk) c hlast (heq ▸ hd)
        · simp [Option.filter, hk, Store.Op.touches] at htouches
    · rw [hcr] at htouches
      have hy : y.ref = x.ref := htouches
      have heq := hdistinct y x ⟨c, hlast, Or.inl hcr⟩ htouched hy
      exact hnew (heq ▸ hcr)

variable (gpu) in
/-- **A whole program** keeps them together. -/
theorem Matches.run (h : Matches s e calls) {program : List AppCall} {actions : List Action}
    (hsends : List.Forall₂ Sends program actions) (hused : WellUsed (calls ++ program)) :
    Matches (program.foldl (fun s c => s.call gpu c) s)
      (actions.foldl (fun e a => (e.handle gpu a).2) e) (calls ++ program) := by
  induction hsends generalizing s e calls with
  | nil =>
      rw [List.append_nil]
      exact h
  | @cons c a program actions hhead _ ih =>
      have hsplit : calls ++ c :: program = (calls ++ [c]) ++ program := by
        rw [List.append_assoc]
        rfl
      have hcarried := hused.carried c (List.mem_append_right _ List.mem_cons_self)
      have hslots := hused.in_use calls c program rfl
      rw [hsplit] at hused ⊢
      obtain ⟨-, hnext⟩ := h.call gpu hhead hcarried hslots hused.front.distinct
      exact ih hnext hused

end Matches

/-- **A program, served**: after its calls, the server's log is that of the
application's own wgpu, and the next call is answered the same. -/
theorem program_served (gpu : Gpu) {program : List AppCall} {actions : List Action}
    (hsends : List.Forall₂ Sends program actions) (hused : WellUsed program) :
    Matches (LocalWgpu.run gpu program) (served gpu actions) program :=
  matches_new.run gpu hsends hused

end LocalWgpu

end WgpuRemote
