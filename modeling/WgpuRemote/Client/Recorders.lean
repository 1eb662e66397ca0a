/-
What the recorders record.

Both recorders put into the recording the calls the application made
(`facade_records`, `dropin_record`), and they record
the same thing where they offer the same calls (`recorders_agree`).

The proofs run a recorder in lockstep with `nest`, the machine that says which
pass is open: as long as the sequence is well nested, what a recorder has put
into the encoder followed by what its open pass holds is the calls so far.
-/
import WgpuRemote.Client.Encoder
import WgpuRemote.Wgpu.Calls

set_option autoImplicit false

namespace WgpuRemote.Client

open Wgpu (EncoderCall ComputePassCall RenderPassCall)

section Recorders

variable [WgpuTypes]

/-! ## The calls an application makes -/

def ComputePassOp.call {R : Kind → Type} : ComputePassOp R → ComputePassCall R
  | .set_pipeline pipeline => .set_pipeline pipeline
  | .set_bind_group index group offsets => .set_bind_group index group offsets
  | .dispatch_workgroups x y z => .dispatch_workgroups x y z
  | .dispatch_workgroups_indirect buffer offset => .dispatch_workgroups_indirect buffer offset

def RenderPassOp.call {R : Kind → Type} : RenderPassOp R → RenderPassCall R
  | .set_pipeline pipeline => .set_pipeline pipeline
  | .set_bind_group index group offsets => .set_bind_group index group offsets
  | .set_vertex_buffer slot buffer offset size =>
      .set_vertex_buffer slot ⟨buffer, offset, range_end offset size⟩
  | .set_index_buffer buffer format offset size =>
      .set_index_buffer ⟨buffer, offset, range_end offset size⟩ format
  | .draw vertices instances => .draw vertices instances
  | .draw_indexed indices base_vertex instances => .draw_indexed indices base_vertex instances

/-- The wgpu call the application means: a copy without a size goes to the end
of its source, a range given by offset and size ends at their sum. -/
def EncoderOp.call : EncoderOp Handle → EncoderCall Handle
  | .copy_buffer_to_buffer source source_offset destination destination_offset copy_size =>
      .copy_buffer_to_buffer source source_offset destination destination_offset
        (copy_size.getD (saturating_sub source.size source_offset))
  | .clear_buffer buffer offset size => .clear_buffer buffer offset size
  | .copy_texture_to_buffer source destination copy_size =>
      .copy_texture_to_buffer source destination copy_size
  | .begin_compute_pass label => .begin_compute_pass label
  | .compute op => .compute op.call
  | .end_compute_pass => .end_compute_pass
  | .begin_render_pass desc => .begin_render_pass desc
  | .render op => .render op.call
  | .end_render_pass => .end_render_pass

/-- The id of a handle. -/
def handle_id (k : Kind) (h : Handle k) : Id k := h.id

/-- The call over ids. -/
def EncoderOp.id_call (op : EncoderOp Handle) : EncoderCall Id := op.call.map handle_id

/-! ## What a recorder holds -/

def OpenPass.kind : OpenPass → PassKind
  | .compute _ _ => .compute
  | .render _ _ _ _ => .render

/-- The calls an open pass has made so far, its opening first. -/
def OpenPass.calls : OpenPass → List (EncoderCall Id)
  | .compute label commands =>
      .begin_compute_pass label :: commands.map fun c => .compute c.call
  | .render label color depth commands =>
      .begin_render_pass (pass_info label color depth) :: commands.map fun c => .render c.call

/-- The calls recorded into the encoder, then those of the pass that is open. -/
def FacadeEncoder.calls (s : FacadeEncoder) : List (EncoderCall Id) :=
  s.commands.flatMap EncoderCommand.calls ++ s.pass.elim [] OpenPass.calls

/-- The facade's encoder after the calls `past`, none of them refused. -/
structure FacadeEncoder.Recorded (label : Option String) (open_pass : Option PassKind)
    (past : List (EncoderOp Handle)) (s : FacadeEncoder) : Prop where
  label : s.label = label
  pass : s.pass.map OpenPass.kind = open_pass
  calls : s.calls = past.map EncoderOp.id_call

/-- The drop-in's encoder in the same situation. -/
def FacadeEncoder.shared (s : FacadeEncoder) : DropinEncoder :=
  ⟨{ label := s.label, commands := s.commands }, s.pass.toList⟩

/-! ## Attachments -/

/-- The pass descriptor the facade records is the one it was given, over ids. -/
theorem facade_pass_info (desc : Wgpu.RenderPassDescriptor Handle) :
    pass_info desc.label
      (desc.color_attachments.map fun maybe => maybe.map FacadeEncoder.color_attachment)
      (desc.depth_stencil_attachment.map FacadeEncoder.depth_attachment) = desc.map handle_id := by
  unfold pass_info Wgpu.RenderPassDescriptor.map
  have hcolor : ((desc.color_attachments.map fun maybe =>
      maybe.map FacadeEncoder.color_attachment).map fun a =>
        a.map RenderPassColorAttachment.info) =
      desc.color_attachments.map fun a => a.map fun a => a.map handle_id := by
    rw [List.map_map]
    apply List.map_congr_left
    intro maybe _
    exact Option.map_map _ _ maybe
  have hdepth : (desc.depth_stencil_attachment.map FacadeEncoder.depth_attachment).map
      RenderPassDepthStencilAttachment.info =
      desc.depth_stencil_attachment.map fun a => a.map handle_id := Option.map_map _ _ _
  rw [hcolor, hdepth]

/-- The drop-in finds the ids behind its own handles. -/
theorem dropin_color_slot (maybe : Option (Wgpu.RenderPassColorAttachment Handle)) :
    DropinEncoder.color_slot (maybe.map fun a => a.map wrap) =
      some (maybe.map FacadeEncoder.color_attachment) := by
  rcases maybe with _ | ⟨view, depth_slice, resolve_target, ops⟩
  · rfl
  · rcases resolve_target with _ | v
    · rfl
    · rfl

/-- The drop-in recorder takes the attachments of the facade. -/
theorem dropin_color_slots (slots : List (Option (Wgpu.RenderPassColorAttachment Handle))) :
    (slots.map fun maybe => maybe.map fun a => a.map wrap).mapM DropinEncoder.color_slot =
      some (slots.map fun maybe => maybe.map FacadeEncoder.color_attachment) := by
  induction slots with
  | nil => rfl
  | cons maybe slots ih =>
      rw [List.map_cons, List.mapM_cons, dropin_color_slot, ih]
      rfl

/-- And its depth attachment. -/
theorem dropin_depth_slot (maybe : Option (Wgpu.RenderPassDepthStencilAttachment Handle)) :
    DropinEncoder.depth_slot (maybe.map fun a => a.map wrap) =
      some (maybe.map FacadeEncoder.depth_attachment) := by
  rcases maybe with _ | att
  · rfl
  · rfl

/-! ## One call -/

/-- A direct compute call is recorded as itself. -/
theorem facade_compute_command {op : ComputePassOp Handle}
    (hdirect : (EncoderOp.compute op).is_direct) :
    ∃ c, FacadeEncoder.compute_command op = some c ∧ c.call = op.call.map handle_id := by
  rcases op with p | ⟨index, group, offsets⟩ | ⟨x, y, z⟩ | ⟨buffer, offset⟩
  · exact ⟨_, rfl, rfl⟩
  · exact ⟨_, rfl, rfl⟩
  · exact ⟨_, rfl, rfl⟩
  · exact hdirect.elim

/-- Every render call of the facade is recorded as itself. -/
theorem facade_render_command (op : RenderPassOp Handle) :
    (FacadeEncoder.render_command op).call = op.call.map handle_id := by
  cases op <;> rfl

/-- A pass, closed, stands for its calls and its end. -/
theorem calls_flush_compute (label : Option String) (commands : List ComputeCommand) :
    (OpenPass.compute label commands).flush.calls =
      (OpenPass.compute label commands).calls ++ [.end_compute_pass] := rfl

/-- Flushing a render pass adds its end to the calls it holds. -/
theorem calls_flush_render (label : Option String)
    (color : List (Option RenderPassColorAttachment))
    (depth : Option RenderPassDepthStencilAttachment) (commands : List RenderCommand) :
    (OpenPass.render label color depth commands).flush.calls =
      (OpenPass.render label color depth commands).calls ++ [.end_render_pass] := rfl

namespace FacadeEncoder.Recorded

variable {label : Option String} {past : List (EncoderOp Handle)} {s : FacadeEncoder}
  {op : EncoderOp Handle}

/-- A command goes into the encoder. -/
theorem push (h : s.Recorded label none past) {c : EncoderCommand} (hc : c.calls = [op.id_call]) :
    (s.push c).Recorded label none (past ++ [op]) := by
  have hpass : s.pass = none := Option.map_eq_none_iff.mp h.pass
  have hcalls := h.calls
  unfold FacadeEncoder.calls at hcalls
  rw [hpass, Option.elim_none, List.append_nil] at hcalls
  refine ⟨h.label, h.pass, ?_⟩
  unfold FacadeEncoder.calls FacadeEncoder.push
  dsimp only
  rw [hpass, Option.elim_none, List.append_nil, List.flatMap_append, hcalls, List.map_append,
    List.flatMap_singleton, hc]
  rfl

/-- A pass is opened. -/
theorem begin_pass (h : s.Recorded label none past) (pass : OpenPass) {k : PassKind}
    (hk : pass.kind = k) (hp : pass.calls = [op.id_call]) :
    FacadeEncoder.Recorded label (some k) (past ++ [op]) { s with pass := some pass } := by
  have hpass : s.pass = none := Option.map_eq_none_iff.mp h.pass
  have hcalls := h.calls
  unfold FacadeEncoder.calls at hcalls
  rw [hpass, Option.elim_none, List.append_nil] at hcalls
  refine ⟨h.label, congrArg some hk, ?_⟩
  unfold FacadeEncoder.calls
  dsimp only
  rw [Option.elim_some, hp, hcalls, List.map_append]
  rfl

/-- A command goes into the open pass. -/
theorem extend {k : PassKind} (h : s.Recorded label (some k) past) {pass pass' : OpenPass}
    (hpass : s.pass = some pass) (hk : pass'.kind = k)
    (hp : pass'.calls = pass.calls ++ [op.id_call]) :
    FacadeEncoder.Recorded label (some k) (past ++ [op]) { s with pass := some pass' } := by
  have hcalls := h.calls
  unfold FacadeEncoder.calls at hcalls
  rw [hpass, Option.elim_some] at hcalls
  refine ⟨h.label, congrArg some hk, ?_⟩
  unfold FacadeEncoder.calls
  dsimp only
  rw [Option.elim_some, hp, ← List.append_assoc, hcalls, List.map_append]
  rfl

/-- The open pass is dropped. -/
theorem end_pass {k : Option PassKind} (h : s.Recorded label k past) {pass : OpenPass}
    (hpass : s.pass = some pass) (hp : pass.flush.calls = pass.calls ++ [op.id_call]) :
    FacadeEncoder.Recorded label none (past ++ [op]) { s.push pass.flush with pass := none } := by
  have hcalls := h.calls
  unfold FacadeEncoder.calls at hcalls
  rw [hpass, Option.elim_some] at hcalls
  refine ⟨h.label, rfl, ?_⟩
  unfold FacadeEncoder.calls FacadeEncoder.push
  dsimp only
  rw [Option.elim_none, List.append_nil, List.flatMap_append, List.flatMap_singleton, hp,
    ← List.append_assoc, hcalls, List.map_append]
  rfl

/-- **One call on the facade**, in a well-nested sequence, is recorded. -/
theorem step {k k' : Option PassKind} (h : s.Recorded label k past) (hdirect : op.is_direct)
    (hnest : nest k op = some k') :
    ∃ s', s.step op.with_size = some s' ∧ s'.Recorded label k' (past ++ [op]) := by
  have hkind := h.pass
  obtain ⟨l, commands, pass⟩ := s
  rcases pass with _ | ⟨pl, cmds⟩ | ⟨pl, color, depth, cmds⟩
  · -- no pass is open: a call on the encoder, or the opening of a pass
    cases hkind
    cases op with
    | copy_buffer_to_buffer source source_offset destination destination_offset copy_size =>
        cases hnest
        exact ⟨_, rfl, h.push rfl⟩
    | clear_buffer buffer offset size =>
        cases hnest
        exact ⟨_, rfl, h.push rfl⟩
    | copy_texture_to_buffer source destination copy_size =>
        cases hnest
        exact ⟨_, rfl, h.push rfl⟩
    | begin_compute_pass pl =>
        cases hnest
        exact ⟨_, rfl, h.begin_pass (.compute pl []) rfl rfl⟩
    | begin_render_pass desc =>
        cases hnest
        refine ⟨_, rfl, h.begin_pass (.render desc.label
          (desc.color_attachments.map (Option.map color_attachment))
          (desc.depth_stencil_attachment.map depth_attachment) []) rfl ?_⟩
        show EncoderCall.begin_render_pass (pass_info desc.label _ _) :: [] = _
        rw [facade_pass_info]
        rfl
    | compute op => cases hnest
    | end_compute_pass => cases hnest
    | render op => cases hnest
    | end_render_pass => cases hnest
  · -- a compute pass is open
    cases hkind
    cases op with
    | compute op =>
        cases hnest
        obtain ⟨c, hc, hcall⟩ := facade_compute_command hdirect
        refine ⟨⟨l, commands, some (.compute pl (cmds ++ [c]))⟩, ?_, h.extend rfl rfl ?_⟩
        · show (FacadeEncoder.compute_command op >>= _) = _
          rw [hc]
          rfl
        · rw [OpenPass.calls, List.map_append, ← List.cons_append, List.map_singleton, hcall]
          rfl
    | end_compute_pass =>
        cases hnest
        exact ⟨_, rfl, h.end_pass rfl (calls_flush_compute pl cmds)⟩
    | _ => cases hnest
  · -- a render pass is open
    cases hkind
    cases op with
    | render op =>
        cases hnest
        refine ⟨⟨l, commands, some (.render pl color depth (cmds ++ [render_command op]))⟩, rfl,
          h.extend rfl rfl ?_⟩
        rw [OpenPass.calls, List.map_append, ← List.cons_append, List.map_singleton,
          facade_render_command]
        rfl
    | end_render_pass =>
        cases hnest
        exact ⟨_, rfl, h.end_pass rfl (calls_flush_render pl color depth cmds)⟩
    | _ => cases hnest

end FacadeEncoder.Recorded

omit [WgpuTypes] in
/-- What the facade records in a compute pass, the drop-in does. -/
theorem dropin_compute_command {op : ComputePassOp Handle} {c : ComputeCommand}
    (h : FacadeEncoder.compute_command op = some c) :
    DropinEncoder.compute_command (op.map wrap) = some c := by
  cases op with
  | dispatch_workgroups_indirect buffer offset => cases h
  | _ => exact h

omit [WgpuTypes] in
/-- A size that is given and not zero is kept. -/
theorem non_zero_size_of {size : Option BufferAddress} (h : size ≠ some 0) :
    DropinEncoder.non_zero_size size = some size := by
  rcases size with _ | n
  · rfl
  · show (if n = 0 then none else some (some n)) = _
    rw [if_neg (fun hn => h (congrArg some hn))]

/-- The same in a render pass, when no slice has size zero. -/
theorem dropin_render_command {op : RenderPassOp Handle}
    (hsize : (EncoderOp.render op).sizes_non_zero) :
    DropinEncoder.render_command (op.map wrap) = some (FacadeEncoder.render_command op) := by
  cases op with
  | set_vertex_buffer slot buffer offset size =>
      show (DropinEncoder.non_zero_size size >>= _) = _
      rw [non_zero_size_of hsize]
      rfl
  | set_index_buffer buffer format offset size =>
      show (DropinEncoder.non_zero_size size >>= _) = _
      rw [non_zero_size_of hsize]
      rfl
  | _ => rfl

/-- **One call on both recorders**: what the facade does, the drop-in does. -/
theorem dropin_step {s s' : FacadeEncoder} {op : EncoderOp Handle} (hsize : op.sizes_non_zero)
    (h : s.step op.with_size = some s') : s.shared.step (op.map wrap) = some s'.shared := by
  obtain ⟨l, commands, pass⟩ := s
  rcases pass with _ | ⟨pl, cmds⟩ | ⟨pl, color, depth, cmds⟩
  · -- no pass is open on either; only the attachments are taken differently
    cases op with
    | begin_render_pass desc =>
        cases h
        show (List.mapM DropinEncoder.color_slot
          (desc.color_attachments.map fun maybe => maybe.map fun a => a.map wrap) >>= _) = _
        rw [dropin_color_slots]
        show (DropinEncoder.depth_slot
          (desc.depth_stencil_attachment.map fun a => a.map wrap) >>= _) = _
        rw [dropin_depth_slot]
        rfl
    | compute op => cases h
    | end_compute_pass => cases h
    | render op => cases h
    | end_render_pass => cases h
    | _ =>
        cases h
        rfl
  · -- a compute pass, which the drop-in has in front
    cases op with
    | compute op =>
        change (FacadeEncoder.compute_command op >>= _) = _ at h
        rcases hc : FacadeEncoder.compute_command op with _ | c
        · rw [hc] at h
          cases h
        · rw [hc] at h
          cases h
          show (DropinEncoder.compute_command (op.map wrap) >>= _) = _
          rw [dropin_compute_command hc]
          rfl
    | end_compute_pass =>
        cases h
        rfl
    | _ => cases h
  -- a render pass, every call of which the facade records
  · cases op with
    | render op =>
        cases h
        show (DropinEncoder.render_command (op.map wrap) >>= _) = _
        rw [dropin_render_command hsize]
        rfl
    | end_render_pass =>
        cases h
        rfl
    | _ => cases h

/-- **One call on the drop-in**, in a well-nested sequence, is recorded. -/
theorem dropin_records {label : Option String} {k k' : Option PassKind}
    {past : List (EncoderOp Handle)} {s : FacadeEncoder} {op : EncoderOp Handle}
    (h : s.Recorded label k past) (hsize : op.sizes_non_zero) (hnest : nest k op = some k') :
    ∃ s' : FacadeEncoder, s.shared.step (op.map wrap) = some s'.shared ∧
      s'.Recorded label k' (past ++ [op]) := by
  by_cases hdirect : op.is_direct
  · obtain ⟨s', hs', hrec⟩ := h.step hdirect hnest
    exact ⟨s', dropin_step hsize hs', hrec⟩
  · -- the one call the facade lacks
    cases op with
    | compute op =>
        cases op with
        | dispatch_workgroups_indirect buffer offset =>
            have hkind := h.pass
            obtain ⟨l, commands, pass⟩ := s
            rcases pass with _ | ⟨pl, cmds⟩ | ⟨pl, color, depth, cmds⟩
            · cases hkind
              cases hnest
            · cases hkind
              cases hnest
              refine ⟨⟨l, commands, some (.compute pl
                (cmds ++ [.DispatchWorkgroupsIndirect buffer.id offset]))⟩, rfl, h.extend rfl rfl ?_⟩
              rw [OpenPass.calls, List.map_append, ← List.cons_append]
              rfl
            · cases hkind
              cases hnest
        | _ => exact absurd trivial hdirect
    | _ => exact absurd trivial hdirect

/-! ## Whole sequences -/

theorem recorded_new (label : Option String) : (FacadeEncoder.new label).Recorded label none [] :=
  ⟨rfl, rfl, rfl⟩

/-- A recording with this label that stands for these calls. -/
def Records (label : Option String) (ops : List (EncoderOp Handle)) (r : CommandBufferRecording) :
    Prop :=
  r.label = label ∧ r.calls = ops.map EncoderOp.id_call

/-- Between passes, what has been recorded is all the calls. -/
theorem FacadeEncoder.Recorded.records {label : Option String} {ops : List (EncoderOp Handle)}
    {s : FacadeEncoder} (h : s.Recorded label none ops) :
    s.pass = none ∧ Records label ops { label := s.label, commands := s.commands } := by
  have hpass : s.pass = none := Option.map_eq_none_iff.mp h.pass
  have hcalls := h.calls
  unfold FacadeEncoder.calls at hcalls
  rw [hpass, Option.elim_none, List.append_nil] at hcalls
  exact ⟨hpass, h.label, hcalls⟩

/-- The facade records a well-nested sequence of the calls it offers. -/
theorem facade_records {label : Option String} {ops : List (EncoderOp Handle)}
    (hnest : WellNested ops) (hdirect : ∀ op ∈ ops, op.is_direct) :
    ∃ r, FacadeEncoder.record label (ops.map EncoderOp.with_size) = some r ∧
      Records label ops r := by
  obtain ⟨s, hrun, hrec⟩ := Transition.run_lockstep nest
    (fun k past s op k' h hd hn => FacadeEncoder.Recorded.step h hd hn)
    (recorded_new label) hdirect hnest
  obtain ⟨hpass, hrecords⟩ := FacadeEncoder.Recorded.records hrec
  refine ⟨_, ?_, hrecords⟩
  rw [FacadeEncoder.record, hrun, Option.bind_some, FacadeEncoder.finish, hpass]

/-- The drop-in records a well-nested sequence of the calls it offers. -/
theorem dropin_record {label : Option String} {ops : List (EncoderOp Handle)}
    (hnest : WellNested ops) (hsize : ∀ op ∈ ops, op.sizes_non_zero) :
    ∃ r, DropinEncoder.record label (ops.map (EncoderOp.map wrap)) = some r ∧
      Records label ops r := by
  have hstart : ∃ s : FacadeEncoder, DropinEncoder.new label = s.shared ∧
      s.Recorded label none [] := ⟨FacadeEncoder.new label, rfl, recorded_new label⟩
  obtain ⟨d, hrun, s, rfl, hrec⟩ := Transition.run_lockstep nest
    (R := fun k past d => ∃ s : FacadeEncoder, d = s.shared ∧ s.Recorded label k past)
    (fun k past d op k' h hsz hn => by
      obtain ⟨s, rfl, hs⟩ := h
      obtain ⟨s', hstep, hrec⟩ := dropin_records hs hsz hn
      exact ⟨s'.shared, hstep, s', rfl, hrec⟩)
    hstart hsize hnest
  obtain ⟨-, hrecords⟩ := FacadeEncoder.Recorded.records hrec
  refine ⟨_, ?_, hrecords⟩
  rw [DropinEncoder.record, hrun]
  rfl

/-- **The two recorders agree** on the calls both offer. -/
theorem recorders_agree {label : Option String} {ops : List (EncoderOp Handle)}
    (hnest : WellNested ops) (hdirect : ∀ op ∈ ops, op.is_direct)
    (hsize : ∀ op ∈ ops, op.sizes_non_zero) :
    DropinEncoder.record label (ops.map (EncoderOp.map wrap)) =
      FacadeEncoder.record label (ops.map EncoderOp.with_size) := by
  have hstart : ∃ s, Transition.run FacadeEncoder.step (FacadeEncoder.new label)
      (([] : List (EncoderOp Handle)).map EncoderOp.with_size) = some s ∧
      DropinEncoder.new label = s.shared ∧ s.Recorded label none [] :=
    ⟨FacadeEncoder.new label, rfl, rfl, recorded_new label⟩
  have hboth : ∀ op ∈ ops, op.is_direct ∧ op.sizes_non_zero :=
    fun op hop => ⟨hdirect op hop, hsize op hop⟩
  -- the drop-in's state is at every call the facade's, its open pass shared
  obtain ⟨d, hrun, s, hs, rfl, hrec⟩ := Transition.run_lockstep nest
    (R := fun k past d => ∃ s, Transition.run FacadeEncoder.step (FacadeEncoder.new label)
      (past.map EncoderOp.with_size) = some s ∧ d = s.shared ∧ s.Recorded label k past)
    (fun k past d op k' h hok hn => by
      obtain ⟨s, hs, rfl, hrec⟩ := h
      obtain ⟨s', hs', hrec'⟩ := FacadeEncoder.Recorded.step hrec hok.1 hn
      refine ⟨s'.shared, dropin_step hok.2 hs', s', ?_, rfl, hrec'⟩
      rw [List.map_append, Transition.run_append, hs, Option.bind_some, List.map_singleton,
        Transition.run_cons, hs']
      rfl)
    hstart hboth hnest
  obtain ⟨hpass, -⟩ := FacadeEncoder.Recorded.records hrec
  rw [List.nil_append] at hs
  rw [DropinEncoder.record, FacadeEncoder.record, hrun, hs, Option.bind_some, FacadeEncoder.finish,
    hpass]
  rfl

end Recorders

end WgpuRemote.Client
