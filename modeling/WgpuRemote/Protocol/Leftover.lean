/-
What a decoder does with bytes it has no use for.

`decode_frame` reads a value off the head of the frame's body, and
`CommandBufferRecording::decode` off the head of a payload of a `Submit`. Both
get from bincode the number of bytes the value used, and both drop it. So a body
or a payload is accepted as soon as some initial part of it is a whole message,
and what comes after that part is not looked at (`accepts_initial_part`).

That an initial part is all there is to it needs every codec of the protocol to
read values one after the other off a stream. For the types the repository
declares, this follows from how their codecs are put together; for the leaf types
it is what `wgpu_types` and bincode are relied on for.
-/
import WgpuRemote.Lib.Reader
import WgpuRemote.Protocol.Codec

set_option autoImplicit false

namespace WgpuRemote

open Bincode
open Codec (Streams)

/-! ## The codecs of the protocol -/

/-- The leaf types are read off a stream one after the other. -/
class WgpuTypes.Streamed [WgpuTypes] : Prop where
  BufferUsages : Streams BufferUsages.codec
  TextureUsages : Streams TextureUsages.codec
  ShaderStages : Streams ShaderStages.codec
  Extent3d : Streams Extent3d.codec
  Origin3d : Streams Origin3d.codec
  TexelCopyBufferLayout : Streams TexelCopyBufferLayout.codec
  TextureDimension : Streams TextureDimension.codec
  TextureFormat : Streams TextureFormat.codec
  TextureViewDimension : Streams TextureViewDimension.codec
  TextureAspect : Streams TextureAspect.codec
  AddressMode : Streams AddressMode.codec
  FilterMode : Streams FilterMode.codec
  CompareFunction : Streams CompareFunction.codec
  SamplerBorderColor : Streams SamplerBorderColor.codec
  BindGroupLayoutEntry : Streams BindGroupLayoutEntry.codec
  PushConstantRange : Streams PushConstantRange.codec
  VertexStepMode : Streams VertexStepMode.codec
  VertexAttribute : Streams VertexAttribute.codec
  ColorTargetState : Streams ColorTargetState.codec
  PrimitiveState : Streams PrimitiveState.codec
  DepthStencilState : Streams DepthStencilState.codec
  MultisampleState : Streams MultisampleState.codec
  IndexFormat : Streams IndexFormat.codec
  ColorOperations : Streams ColorOperations.codec
  DepthOperations : Streams DepthOperations.codec
  StencilOperations : Streams StencilOperations.codec

attribute [instance] WgpuTypes.Streamed.BufferUsages WgpuTypes.Streamed.TextureUsages
  WgpuTypes.Streamed.ShaderStages WgpuTypes.Streamed.Extent3d WgpuTypes.Streamed.Origin3d
  WgpuTypes.Streamed.TexelCopyBufferLayout WgpuTypes.Streamed.TextureDimension
  WgpuTypes.Streamed.TextureFormat WgpuTypes.Streamed.TextureViewDimension
  WgpuTypes.Streamed.TextureAspect WgpuTypes.Streamed.AddressMode WgpuTypes.Streamed.FilterMode
  WgpuTypes.Streamed.CompareFunction WgpuTypes.Streamed.SamplerBorderColor
  WgpuTypes.Streamed.BindGroupLayoutEntry WgpuTypes.Streamed.PushConstantRange
  WgpuTypes.Streamed.VertexStepMode WgpuTypes.Streamed.VertexAttribute
  WgpuTypes.Streamed.ColorTargetState WgpuTypes.Streamed.PrimitiveState
  WgpuTypes.Streamed.DepthStencilState WgpuTypes.Streamed.MultisampleState
  WgpuTypes.Streamed.IndexFormat WgpuTypes.Streamed.ColorOperations
  WgpuTypes.Streamed.DepthOperations WgpuTypes.Streamed.StencilOperations

namespace Wire

instance (k : Kind) : Streams (id k) := inferInstanceAs (Streams (Codec.map ..))
instance : Streams device_id := inferInstanceAs (Streams (Codec.map ..))
instance : Streams queue_id := inferInstanceAs (Streams (Codec.map ..))
instance : Streams command_buffer_id := inferInstanceAs (Streams (Codec.map ..))
instance : Streams resource_id := inferInstanceAs (Streams (Codec.variants ..))
instance : Streams request_id := inferInstanceAs (Streams (Codec.map ..))
instance : Streams error_code := inferInstanceAs (Streams (Codec.variants ..))
instance : Streams response := inferInstanceAs (Streams (Codec.variants ..))
instance : Streams response_frame := inferInstanceAs (Streams (Codec.map ..))

section Messages

variable [WgpuTypes] [WgpuTypes.Streamed]

instance : Streams label := inferInstanceAs (Streams (Codec.option _))
instance : Streams constants := inferInstanceAs (Streams (Codec.list _))
instance : Streams buffer_descriptor := inferInstanceAs (Streams (Codec.map ..))
instance : Streams texture_descriptor := inferInstanceAs (Streams (Codec.map ..))
instance : Streams sampler_descriptor := inferInstanceAs (Streams (Codec.map ..))
instance : Streams command_encoder_descriptor := inferInstanceAs (Streams (Codec.map ..))
instance : Streams texture_view_descriptor := inferInstanceAs (Streams (Codec.map ..))
instance : Streams bind_group_layout_descriptor := inferInstanceAs (Streams (Codec.map ..))
instance : Streams buffer_binding := inferInstanceAs (Streams (Codec.map ..))
instance : Streams binding_resource := inferInstanceAs (Streams (Codec.variants ..))
instance : Streams bind_group_entry := inferInstanceAs (Streams (Codec.map ..))
instance : Streams bind_group_descriptor := inferInstanceAs (Streams (Codec.map ..))
instance : Streams pipeline_layout_descriptor := inferInstanceAs (Streams (Codec.map ..))
instance : Streams shader_source := inferInstanceAs (Streams (Codec.variants ..))
instance : Streams shader_module_descriptor := inferInstanceAs (Streams (Codec.map ..))
instance : Streams vertex_buffer_layout := inferInstanceAs (Streams (Codec.map ..))
instance : Streams vertex_state := inferInstanceAs (Streams (Codec.map ..))
instance : Streams fragment_state := inferInstanceAs (Streams (Codec.map ..))
instance : Streams render_pipeline_descriptor := inferInstanceAs (Streams (Codec.map ..))
instance : Streams compute_pipeline_descriptor := inferInstanceAs (Streams (Codec.map ..))
instance : Streams range := inferInstanceAs (Streams (Codec.map ..))
instance : Streams image_copy_buffer := inferInstanceAs (Streams (Codec.map ..))
instance : Streams image_copy_texture := inferInstanceAs (Streams (Codec.map ..))
instance : Streams color_attachment := inferInstanceAs (Streams (Codec.map ..))
instance : Streams depth_stencil_attachment := inferInstanceAs (Streams (Codec.map ..))
instance : Streams set_bind_group := inferInstanceAs (Streams (Codec.seq ..))
instance : Streams compute_command := inferInstanceAs (Streams (Codec.variants ..))
instance : Streams render_command := inferInstanceAs (Streams (Codec.variants ..))
instance : Streams encoder_command := inferInstanceAs (Streams (Codec.variants ..))
instance : Streams recording := inferInstanceAs (Streams (Codec.map ..))
instance : Streams create_pipeline_layout.fields := inferInstanceAs (Streams (Codec.seq ..))
instance (v : Codec.Variant Action) [Streams v.fields] : Codec.VariantsStream (action_variants v) :=
  inferInstanceAs (Codec.VariantsStream (_ :: _))
instance : Streams action := inferInstanceAs (Streams (Codec.variants ..))
instance : Streams frame := inferInstanceAs (Streams (Codec.map ..))

end Messages

end Wire

/-! ## What is accepted -/

/-- `decode_frame` accepts `b` as `value` with the count `n`: the count is that of
the header and the body it announces, within the cap and all there, and the body
`b[4..n]` is the bytes of the value followed by any others. -/
structure AcceptsHead {α : Type} (c : Codec α) (b : Bytes) (value : α) (n : ℕ) : Prop where
  count : n = 4 + announced b
  capped : announced b ≤ MAX_FRAME_BYTES
  whole : n ≤ b.length
  body : ∃ used left, (b.take n).drop 4 = used ++ left ∧ c.decode used = .ok (value, [])

theorem decode_frame_accepts {α : Type} (c : Codec α) [Streams c] (b : Bytes) (value : α) (n : ℕ) :
    decode_frame c b = .ok (value, n) ↔ AcceptsHead c b value n := by
  constructor
  · intro h
    obtain ⟨hcap, hwhole, rfl, left, hbody⟩ := decode_frame_ok c h
    obtain ⟨used, hused, hdec⟩ := Codec.decode_ok_iff.mp hbody
    exact ⟨rfl, hcap, hwhole, used, left, hused, hdec⟩
  · rintro ⟨rfl, hcap, hwhole, used, left, hused, hdec⟩
    have hbody : c.decode (body_of b) = .ok (value, left) :=
      Codec.decode_ok_iff.mpr ⟨used, hused, hdec⟩
    rw [decode_frame_whole c hcap hwhole, hbody]
    rfl

section Decoders

variable [WgpuTypes] [WgpuTypes.Streamed]

theorem recording_accepts (b : Bytes) (r : CommandBufferRecording) :
    CommandBufferRecording.decode b = .ok r ↔
      ∃ used left, b = used ++ left ∧ Wire.recording.decode used = .ok (r, []) := by
  unfold CommandBufferRecording.decode
  constructor
  · intro h
    obtain ⟨⟨r', left⟩, hdec, hr⟩ := bind_eq_ok.mp h
    obtain ⟨used, rfl, hused⟩ := Codec.decode_ok_iff.mp hdec
    rw [← Except.ok.inj hr]
    exact ⟨used, left, rfl, hused⟩
  · rintro ⟨used, left, rfl, hused⟩
    exact bind_eq_ok.mpr ⟨(r, left), Codec.decode_append hused left, rfl⟩

/-- **An initial part is enough.** A frame of either kind, and the payload of a
recording, are accepted exactly if their bytes start with a whole message. What
comes after it changes neither the value nor the count. -/
theorem accepts_initial_part :
    (∀ b value n, decode_frame Wire.frame b = .ok (value, n) ↔
      AcceptsHead Wire.frame b value n) ∧
    (∀ b value n, decode_frame Wire.response_frame b = .ok (value, n) ↔
      AcceptsHead Wire.response_frame b value n) ∧
    ∀ b r, CommandBufferRecording.decode b = .ok r ↔
      ∃ used left, b = used ++ left ∧ Wire.recording.decode used = .ok (r, []) :=
  ⟨decode_frame_accepts Wire.frame, decode_frame_accepts Wire.response_frame, recording_accepts⟩

end Decoders

section Examples

attribute [local instance] WgpuTypes.numeric

/-- The numeric leaf types are read off a stream. -/
theorem numeric_streamed : WgpuTypes.Streamed := by
  have h : Streams Codec.u32 := inferInstance
  exact ⟨h, h, h, h, h, h, h, h, h, h, h, h, h, h, h, h, h, h, h, h, h, h, h, h, h, h⟩

/-- A `Hello` with a byte after it is accepted, by the rule. -/
theorem accepts_initial_part_hello :
    decode_frame Wire.frame [0, 0, 0, 4, 0, 0, 1, 99] = .ok (⟨none, .Hello 1⟩, 8) := by
  have := numeric_streamed
  refine (accepts_initial_part.1 _ _ _).mpr ⟨by decide, by decide, by decide, ?_⟩
  exact ⟨[0, 0, 1], [99], rfl, rfl⟩

/-- Each decoder accepts a byte its value does not use. -/
theorem leftover_accepted :
    (decode_frame Wire.frame [0, 0, 0, 4, 0, 0, 1, 99] = .ok (⟨none, .Hello 1⟩, 8)
      ∧ Wire.frame.decode [0, 0, 1, 99] = .ok (⟨none, .Hello 1⟩, [99]))
    ∧ (decode_frame Wire.response_frame [0, 0, 0, 3, 7, 1, 99] = .ok (⟨⟨7⟩, .Ok⟩, 7)
      ∧ Wire.response_frame.decode [7, 1, 99] = .ok (⟨⟨7⟩, .Ok⟩, [99]))
    ∧ (CommandBufferRecording.decode [0, 0, 99] = .ok ⟨none, []⟩
      ∧ Wire.recording.decode [0, 0, 99] = .ok (⟨none, []⟩, [99])) :=
  ⟨⟨rfl, rfl⟩, ⟨rfl, rfl⟩, ⟨rfl, rfl⟩⟩

end Examples

end WgpuRemote
