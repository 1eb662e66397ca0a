/-
What an encoder of the drop-in holds on to: ids, and no handle.

A recording call takes handles and keeps the ids behind them. `slots` are the
handles a call is given, `refs` the ids an encoder holds afterwards
(`step_adds`).
-/
import WgpuRemote.Client.Facade
import WgpuRemote.Client.Recorders

set_option autoImplicit false

namespace WgpuRemote.Client

/-- A handle that a device of this client minted. The size is a buffer's. -/
structure Held (k : Kind) where
  device : ℕ
  n : ℕ
  size : UInt64

def Held.slot {k : Kind} (h : Held k) : Slot := ⟨h.device, k, h.n⟩

/-- The facade handle inside. -/
def Held.handle (k : Kind) (h : Held k) : Handle k := ⟨nth_id k h.n, h.size⟩

section Mentions

variable [WgpuTypes]

/-! ## The handles a call is given -/

def ComputePassOp.slots : ComputePassOp Held → List Slot
  | .set_pipeline pipeline => [pipeline.slot]
  | .set_bind_group _ group _ => [group.slot]
  | .dispatch_workgroups _ _ _ => []
  | .dispatch_workgroups_indirect indirect_buffer _ => [indirect_buffer.slot]

def RenderPassOp.slots : RenderPassOp Held → List Slot
  | .set_pipeline pipeline => [pipeline.slot]
  | .set_bind_group _ group _ => [group.slot]
  | .set_vertex_buffer _ buffer _ _ => [buffer.slot]
  | .set_index_buffer buffer _ _ _ => [buffer.slot]
  | .draw _ _ => []
  | .draw_indexed _ _ _ => []

/-- The views of a color attachment. -/
def color_slots (att : Wgpu.RenderPassColorAttachment Held) : List Slot :=
  att.view.slot :: (att.resolve_target.map Held.slot).toList

/-- The views of a render pass. -/
def view_slots (desc : Wgpu.RenderPassDescriptor Held) : List Slot :=
  (desc.color_attachments.flatMap fun a => a.elim [] color_slots) ++
    (desc.depth_stencil_attachment.map fun a => a.view.slot).toList

def EncoderOp.slots : EncoderOp Held → List Slot
  | .copy_buffer_to_buffer source _ destination _ _ => [source.slot, destination.slot]
  | .clear_buffer buffer _ _ => [buffer.slot]
  | .copy_texture_to_buffer source destination _ => [source.texture.slot, destination.buffer.slot]
  | .begin_compute_pass _ => []
  | .compute op => op.slots
  | .end_compute_pass => []
  | .begin_render_pass desc => view_slots desc
  | .render op => op.slots
  | .end_render_pass => []

/-- The call as the drop-in gets it. -/
def EncoderOp.wrapped (op : EncoderOp Held) : EncoderOp Wrapped := (op.map Held.handle).map wrap

/-! ## The ids an encoder holds -/

/-- The ids in the recording and in the passes that will append to it. -/
def DropinEncoder.refs (s : DropinEncoder) : List Ref :=
  s.recording.refs ++ s.passes.flatMap fun pass => pass.flush.refs

omit [WgpuTypes] in
/-- The compute command of a drop-in call names the ids of the objects the call was given. -/
theorem compute_command_refs {op : ComputePassOp Held} {c : ComputeCommand}
    (h : DropinEncoder.compute_command ((op.map Held.handle).map wrap) = some c) :
    c.refs = op.slots.map Slot.ref := by
  rcases op with p | ⟨index, group, offsets⟩ | ⟨x, y, z⟩ | ⟨buffer, offset⟩
  all_goals
    rw [← Option.some.inj h]
    rfl

/-- So does the render command. -/
theorem render_command_refs {op : RenderPassOp Held} {c : RenderCommand}
    (h : DropinEncoder.render_command ((op.map Held.handle).map wrap) = some c) :
    c.refs = op.slots.map Slot.ref := by
  -- a buffer range of size zero is no call at all
  have hsize : ∀ {size : Option BufferAddress} {f : Option BufferAddress → RenderCommand},
      (DropinEncoder.non_zero_size size).bind (fun size => some (f size)) = some c →
        ∃ size, c = f size := by
    intro size f hc
    obtain ⟨size', -, hc⟩ := Option.bind_eq_some_iff.mp hc
    exact ⟨size', (Option.some.inj hc).symm⟩
  rcases op with p | ⟨index, group, offsets⟩ | ⟨slot, buffer, offset, size⟩ |
    ⟨buffer, format, offset, size⟩ | ⟨vertices, instances⟩ | ⟨indices, base_vertex, instances⟩
  · rw [← Option.some.inj h]
    rfl
  · rw [← Option.some.inj h]
    rfl
  · obtain ⟨size', rfl⟩ := hsize (f := fun size => .SetVertexBuffer slot _ offset size) h
    rfl
  · obtain ⟨size', rfl⟩ := hsize (f := fun size => .SetIndexBuffer _ format offset size) h
    rfl
  · rw [← Option.some.inj h]
    rfl
  · rw [← Option.some.inj h]
    rfl

/-- The drop-in takes the ids of the views, one attachment after another. -/
theorem attachment_refs_slots (desc : Wgpu.RenderPassDescriptor Held) :
    attachment_refs
        ((desc.map Held.handle).color_attachments.map fun maybe =>
          maybe.map FacadeEncoder.color_attachment)
        ((desc.map Held.handle).depth_stencil_attachment.map FacadeEncoder.depth_attachment) =
      (view_slots desc).map Slot.ref := by
  have hcolor : ∀ slots : List (Option (Wgpu.RenderPassColorAttachment Held)),
      ((slots.map fun a => a.map fun a => a.map Held.handle).map fun maybe =>
        maybe.map FacadeEncoder.color_attachment).flatMap
          (fun a => a.elim [] RenderPassColorAttachment.refs) =
        (slots.flatMap fun a => a.elim [] color_slots).map Slot.ref := by
    intro slots
    induction slots with
    | nil => rfl
    | cons a slots ih =>
        have hhead : ((a.map fun a => a.map Held.handle).map FacadeEncoder.color_attachment).elim []
            RenderPassColorAttachment.refs = (a.elim [] color_slots).map Slot.ref := by
          rcases a with _ | ⟨view, depth_slice, _ | target, ops⟩
          · rfl
          · rfl
          · rfl
        rw [List.map_cons, List.map_cons, List.flatMap_cons, List.flatMap_cons, List.map_append,
          ih, hhead]
  obtain ⟨label, color, depth⟩ := desc
  unfold attachment_refs view_slots
  rw [List.map_append]
  congr 1
  · exact hcolor color
  · rcases depth with _ | att
    · rfl
    · rfl

namespace DropinEncoder

variable {s s' : DropinEncoder} {op : EncoderOp Held} {r : Ref}

/-- Pushing a command adds the ids it names. -/
theorem refs_push (s : DropinEncoder) (c : EncoderCommand) (passes : List OpenPass) :
    r ∈ DropinEncoder.refs { s.push c with passes } ↔
      r ∈ s.recording.refs ∨ r ∈ c.refs ∨ r ∈ passes.flatMap fun pass => pass.flush.refs := by
  have hrefs : (s.push c).recording.refs = s.recording.refs ++ c.refs := by
    unfold CommandBufferRecording.refs
    show (s.recording.commands ++ [c]).flatMap _ = _
    rw [List.flatMap_append, List.flatMap_singleton]
  show r ∈ (s.push c).recording.refs ++ passes.flatMap _ ↔ _
  rw [hrefs, List.mem_append, List.mem_append, or_assoc]

/-- What the recorder `s'` names, `s` has named before or is behind `slots`. -/
def Adds (s s' : DropinEncoder) (slots : List Slot) : Prop :=
  ∀ r ∈ s'.refs, r ∈ s.refs ∨ ∃ x ∈ slots, x.ref = r

/-- A command is pushed onto the recording. -/
theorem adds_push {c : EncoderCommand} {slots : List Slot} (hc : c.refs = slots.map Slot.ref) :
    Adds s (s.push c) slots := by
  intro r hr
  rcases (refs_push s c s.passes).mp hr with hr | hr | hr
  · exact Or.inl (List.mem_append_left _ hr)
  · rw [hc] at hr
    exact Or.inr (List.mem_map.mp hr)
  · exact Or.inl (List.mem_append_right _ hr)

/-- A pass is opened. -/
theorem adds_pass {pass : OpenPass} {slots : List Slot}
    (hflush : pass.flush.refs = slots.map Slot.ref) :
    Adds s { s with passes := pass :: s.passes } slots := by
  intro r hr
  rw [refs, List.flatMap_cons, hflush, List.mem_append, List.mem_append] at hr
  rw [refs, List.mem_append]
  rcases hr with hr | hr | hr
  · exact Or.inl (Or.inl hr)
  · exact Or.inr (List.mem_map.mp hr)
  · exact Or.inl (Or.inr hr)

/-- The pass in front has grown by a command. -/
theorem adds_command {pass pass' : OpenPass} {rest : List OpenPass} {slots : List Slot}
    (hpasses : s.passes = pass :: rest)
    (hflush : pass'.flush.refs = pass.flush.refs ++ slots.map Slot.ref) :
    Adds s { s with passes := pass' :: rest } slots := by
  intro r hr
  rw [refs, List.flatMap_cons, hflush] at hr
  rw [refs, hpasses, List.flatMap_cons]
  simp only [List.mem_append] at hr ⊢
  rcases hr with hr | (hr | hr) | hr
  · exact Or.inl (Or.inl hr)
  · exact Or.inl (Or.inr (Or.inl hr))
  · exact Or.inr (List.mem_map.mp hr)
  · exact Or.inl (Or.inr (Or.inr hr))

/-- The pass in front ends: its commands move into the recording. -/
theorem adds_end {pass : OpenPass} {rest : List OpenPass} (hpasses : s.passes = pass :: rest) :
    Adds s { s.push pass.flush with passes := rest } [] := by
  intro r hr
  refine Or.inl ?_
  rw [refs, hpasses, List.flatMap_cons, List.mem_append, List.mem_append]
  exact (refs_push s pass.flush rest).mp hr

/-- Turning to another pass names nothing new. -/
theorem turn_to_adds {k : ℕ} (h : s.turn_to k = some s') : Adds s s' [] := by
  obtain ⟨front, hfront, hs⟩ := Option.bind_eq_some_iff.mp h
  intro r hr
  refine Or.inl ?_
  rw [← Option.some.inj hs] at hr
  rcases List.mem_append.mp hr with hr | hr
  · exact List.mem_append_left _ hr
  · refine List.mem_append_right _ ?_
    obtain ⟨pass, hpass, hr⟩ := List.mem_flatMap.mp hr
    refine List.mem_flatMap.mpr ⟨pass, ?_, hr⟩
    rcases List.mem_cons.mp hpass with rfl | hpass
    · exact List.mem_of_getElem? hfront
    · exact List.mem_of_mem_eraseIdx hpass

/-- **One recording call** adds the ids of the handles it is given, and no others. -/
theorem step_adds (h : s.step op.wrapped = some s') : Adds s s' op.slots := by
  rcases op with ⟨source, so, destination, d_o, size⟩ | ⟨buffer, offset, size⟩ |
    ⟨source, destination, size⟩ | label | op | _ | desc | op | _
  · rw [← Option.some.inj h]
    exact adds_push rfl
  · rw [← Option.some.inj h]
    exact adds_push rfl
  · rw [← Option.some.inj h]
    exact adds_push rfl
  · rw [← Option.some.inj h]
    exact adds_pass rfl
  · -- a call on the compute pass in front
    rcases hpasses : s.passes with _ | ⟨⟨label, commands⟩ | ⟨label, color, depth, commands⟩, rest⟩
    all_goals simp only [EncoderOp.wrapped, EncoderOp.map, step, hpasses] at h
    case cons.compute =>
      obtain ⟨c, hc, hs⟩ := Option.bind_eq_some_iff.mp h
      rw [← Option.some.inj hs]
      refine adds_command hpasses ?_
      show List.flatMap _ _ = List.flatMap _ _ ++ _
      rw [List.flatMap_append, List.flatMap_singleton, compute_command_refs hc]
      rfl
    all_goals exact absurd h (by simp)
  · rcases hpasses : s.passes with _ | ⟨⟨label, commands⟩ | ⟨label, color, depth, commands⟩, rest⟩
    all_goals simp only [EncoderOp.wrapped, EncoderOp.map, step, hpasses] at h
    case cons.compute =>
      rw [← Option.some.inj h]
      exact adds_end hpasses
    all_goals exact absurd h (by simp)
  · -- a render pass is opened, with its attachments
    change (List.mapM color_slot ((desc.map Held.handle).color_attachments.map fun maybe =>
      maybe.map fun a => a.map wrap)).bind _ = _ at h
    rw [dropin_color_slots, Option.bind_some] at h
    change (depth_slot ((desc.map Held.handle).depth_stencil_attachment.map fun a =>
      a.map wrap)).bind _ = _ at h
    rw [dropin_depth_slot, Option.bind_some] at h
    rw [← Option.some.inj h]
    refine adds_pass ?_
    show _ ++ List.flatMap RenderCommand.refs [] = _
    rw [List.flatMap_nil, List.append_nil]
    exact attachment_refs_slots desc
  · -- a call on the render pass in front
    rcases hpasses : s.passes with _ | ⟨⟨label, commands⟩ | ⟨label, color, depth, commands⟩, rest⟩
    all_goals simp only [EncoderOp.wrapped, EncoderOp.map, step, hpasses] at h
    case cons.render =>
      obtain ⟨c, hc, hs⟩ := Option.bind_eq_some_iff.mp h
      rw [← Option.some.inj hs]
      refine adds_command hpasses ?_
      show _ ++ List.flatMap _ _ = (_ ++ List.flatMap _ _) ++ _
      rw [List.flatMap_append, List.flatMap_singleton, render_command_refs hc, List.append_assoc]
      rfl
    all_goals exact absurd h (by simp)
  · rcases hpasses : s.passes with _ | ⟨⟨label, commands⟩ | ⟨label, color, depth, commands⟩, rest⟩
    all_goals simp only [EncoderOp.wrapped, EncoderOp.map, step, hpasses] at h
    case cons.render =>
      rw [← Option.some.inj h]
      exact adds_end hpasses
    all_goals exact absurd h (by simp)

end DropinEncoder

end Mentions

end WgpuRemote.Client
