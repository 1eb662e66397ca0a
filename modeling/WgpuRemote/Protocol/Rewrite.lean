/-
What the decoders accept could have been sent.

A frame or a recording that is accepted, whoever made its bytes, holds a value that
the encoders write, in no more bytes, and that is read back from these
(`accepted_rewritten`). So the server never acts on a message that no client could
have sent it, and the cap that a frame was read under is no obstacle to passing it
on.

As in `Leftover`, this is in how the codecs are put together, and of the leaf types
it is relied on.
-/
import WgpuRemote.Lib.Rewrite
import WgpuRemote.Protocol.Codec

set_option autoImplicit false

namespace WgpuRemote

open Bincode
open Codec (Rewrites VariantsTagged)

/-! ## The codecs of the protocol -/

/-- What the leaf types read, they write in no more bytes. -/
class WgpuTypes.Rewritten [WgpuTypes] : Prop where
  BufferUsages : Rewrites BufferUsages.codec
  TextureUsages : Rewrites TextureUsages.codec
  ShaderStages : Rewrites ShaderStages.codec
  Extent3d : Rewrites Extent3d.codec
  Origin3d : Rewrites Origin3d.codec
  TexelCopyBufferLayout : Rewrites TexelCopyBufferLayout.codec
  TextureDimension : Rewrites TextureDimension.codec
  TextureFormat : Rewrites TextureFormat.codec
  TextureViewDimension : Rewrites TextureViewDimension.codec
  TextureAspect : Rewrites TextureAspect.codec
  AddressMode : Rewrites AddressMode.codec
  FilterMode : Rewrites FilterMode.codec
  CompareFunction : Rewrites CompareFunction.codec
  SamplerBorderColor : Rewrites SamplerBorderColor.codec
  BindGroupLayoutEntry : Rewrites BindGroupLayoutEntry.codec
  PushConstantRange : Rewrites PushConstantRange.codec
  VertexStepMode : Rewrites VertexStepMode.codec
  VertexAttribute : Rewrites VertexAttribute.codec
  ColorTargetState : Rewrites ColorTargetState.codec
  PrimitiveState : Rewrites PrimitiveState.codec
  DepthStencilState : Rewrites DepthStencilState.codec
  MultisampleState : Rewrites MultisampleState.codec
  IndexFormat : Rewrites IndexFormat.codec
  ColorOperations : Rewrites ColorOperations.codec
  DepthOperations : Rewrites DepthOperations.codec
  StencilOperations : Rewrites StencilOperations.codec

attribute [instance] WgpuTypes.Rewritten.BufferUsages WgpuTypes.Rewritten.TextureUsages
  WgpuTypes.Rewritten.ShaderStages WgpuTypes.Rewritten.Extent3d WgpuTypes.Rewritten.Origin3d
  WgpuTypes.Rewritten.TexelCopyBufferLayout WgpuTypes.Rewritten.TextureDimension
  WgpuTypes.Rewritten.TextureFormat WgpuTypes.Rewritten.TextureViewDimension
  WgpuTypes.Rewritten.TextureAspect WgpuTypes.Rewritten.AddressMode WgpuTypes.Rewritten.FilterMode
  WgpuTypes.Rewritten.CompareFunction WgpuTypes.Rewritten.SamplerBorderColor
  WgpuTypes.Rewritten.BindGroupLayoutEntry WgpuTypes.Rewritten.PushConstantRange
  WgpuTypes.Rewritten.VertexStepMode WgpuTypes.Rewritten.VertexAttribute
  WgpuTypes.Rewritten.ColorTargetState WgpuTypes.Rewritten.PrimitiveState
  WgpuTypes.Rewritten.DepthStencilState WgpuTypes.Rewritten.MultisampleState
  WgpuTypes.Rewritten.IndexFormat WgpuTypes.Rewritten.ColorOperations
  WgpuTypes.Rewritten.DepthOperations WgpuTypes.Rewritten.StencilOperations

namespace Wire

instance (k : Kind) : Rewrites (id k) := Codec.rewrites_map fun _ => rfl
instance : Rewrites device_id := Codec.rewrites_map fun _ => rfl
instance : Rewrites queue_id := Codec.rewrites_map fun _ => rfl
instance : Rewrites command_buffer_id := Codec.rewrites_map fun _ => rfl
instance : Rewrites resource_id :=
  Codec.rewrites_variants ResourceId.ctorIdx (by simp [VariantsTagged, ResourceId.ctorIdx])
instance : Rewrites request_id := Codec.rewrites_map fun _ => rfl
instance : Rewrites error_code :=
  Codec.rewrites_variants ErrorCode.ctorIdx (by simp [VariantsTagged, ErrorCode.ctorIdx])
instance : Rewrites response :=
  Codec.rewrites_variants Response.ctorIdx (by simp [VariantsTagged, Response.ctorIdx])
instance : Rewrites response_frame := Codec.rewrites_map fun _ => rfl

section Messages

variable [WgpuTypes] [WgpuTypes.Rewritten]

instance : Rewrites label := inferInstanceAs (Rewrites (Codec.option _))
instance : Rewrites constants := inferInstanceAs (Rewrites (Codec.list _))
instance : Rewrites buffer_descriptor := Codec.rewrites_map fun _ => rfl
instance : Rewrites texture_descriptor := Codec.rewrites_map fun _ => rfl
instance : Rewrites sampler_descriptor := Codec.rewrites_map fun _ => rfl
instance : Rewrites command_encoder_descriptor := Codec.rewrites_map fun _ => rfl
instance : Rewrites texture_view_descriptor := Codec.rewrites_map fun _ => rfl
instance : Rewrites bind_group_layout_descriptor := Codec.rewrites_map fun _ => rfl
instance : Rewrites buffer_binding := Codec.rewrites_map fun _ => rfl
instance : Rewrites binding_resource :=
  Codec.rewrites_variants BindingResource.ctorIdx (by simp [VariantsTagged, BindingResource.ctorIdx])
instance : Rewrites bind_group_entry := Codec.rewrites_map fun _ => rfl
instance : Rewrites bind_group_descriptor := Codec.rewrites_map fun _ => rfl
instance : Rewrites pipeline_layout_descriptor := Codec.rewrites_map fun _ => rfl
instance : Rewrites shader_source :=
  Codec.rewrites_variants ShaderSource.ctorIdx (by simp [VariantsTagged, ShaderSource.ctorIdx])
instance : Rewrites shader_module_descriptor := Codec.rewrites_map fun _ => rfl
instance : Rewrites vertex_buffer_layout := Codec.rewrites_map fun _ => rfl
instance : Rewrites vertex_state := Codec.rewrites_map fun _ => rfl
instance : Rewrites fragment_state := Codec.rewrites_map fun _ => rfl
instance : Rewrites render_pipeline_descriptor := Codec.rewrites_map fun _ => rfl
instance : Rewrites compute_pipeline_descriptor := Codec.rewrites_map fun _ => rfl
instance : Rewrites range := Codec.rewrites_map fun _ => rfl
instance : Rewrites image_copy_buffer := Codec.rewrites_map fun _ => rfl
instance : Rewrites image_copy_texture := Codec.rewrites_map fun _ => rfl
instance : Rewrites color_attachment := Codec.rewrites_map fun _ => rfl
instance : Rewrites depth_stencil_attachment := Codec.rewrites_map fun _ => rfl
instance : Rewrites set_bind_group := inferInstanceAs (Rewrites (Codec.seq ..))
instance : Rewrites compute_command :=
  Codec.rewrites_variants ComputeCommand.ctorIdx (by simp [VariantsTagged, ComputeCommand.ctorIdx])
instance : Rewrites render_command :=
  Codec.rewrites_variants RenderCommand.ctorIdx (by simp [VariantsTagged, RenderCommand.ctorIdx])
instance : Rewrites encoder_command :=
  Codec.rewrites_variants EncoderCommand.ctorIdx (by simp [VariantsTagged, EncoderCommand.ctorIdx])
instance : Rewrites recording := Codec.rewrites_map fun _ => rfl
instance : Rewrites create_pipeline_layout.fields := inferInstanceAs (Rewrites (Codec.seq ..))
instance (v : Codec.Variant Action) [Rewrites v.fields] : Codec.VariantsRewrite (action_variants v) :=
  inferInstanceAs (Codec.VariantsRewrite (_ :: _))
instance : Rewrites action :=
  Codec.rewrites_variants Action.ctorIdx (by
    simp [VariantsTagged, Action.ctorIdx, action_variants, create_pipeline_layout])
instance : Rewrites frame := Codec.rewrites_map fun _ => rfl

end Messages

end Wire

/-! ## What is accepted -/

/-- A frame that was accepted can be sent on, in no more bytes. -/
theorem decode_frame_rewritten {α : Type} (c : Codec α) [hc : Rewrites c] {b : Bytes} {value : α}
    {n : ℕ} (h : decode_frame c b = .ok (value, n)) :
    ∃ frame, encode_frame c value = .ok frame ∧ frame.length ≤ n ∧
      decode_frame c frame = .ok (value, frame.length) := by
  obtain ⟨hcap, hwhole, rfl, left, hbody⟩ := decode_frame_ok c h
  obtain ⟨body, henc, hlen⟩ := hc.rewrites hbody
  have hused : (body_of b).length = announced b := by
    unfold body_of
    rw [List.length_drop, List.length_take, Nat.min_eq_left hwhole]
    omega
  have hframe := encode_frame_of_body c henc (by omega)
  refine ⟨_, hframe, ?_, decode_frame_encode_frame c hframe⟩
  rw [List.length_append, to_be_bytes_length]
  omega

section Decoders

variable [WgpuTypes] [WgpuTypes.Rewritten]

theorem recording_rewritten {b : Bytes} {r : CommandBufferRecording}
    (h : CommandBufferRecording.decode b = .ok r) :
    ∃ payload, r.encode = .ok payload ∧ payload.length ≤ b.length ∧
      CommandBufferRecording.decode payload = .ok r := by
  unfold CommandBufferRecording.decode at h
  obtain ⟨⟨r', left⟩, hdec, heq⟩ := bind_eq_ok.mp h
  obtain rfl := Except.ok.inj heq
  obtain ⟨payload, henc, hlen⟩ := Rewrites.rewrites hdec
  exact ⟨payload, henc, by omega, CommandBufferRecording.decode_encode _ payload henc⟩

/-- **What is accepted can be written**: every value that `decode_frame` or
`CommandBufferRecording::decode` returns, on any bytes, is encoded in no more bytes
than were used for it, and decodes to itself. -/
theorem accepted_rewritten :
    (∀ b value n, decode_frame Wire.frame b = .ok (value, n) →
      ∃ frame, encode_frame Wire.frame value = .ok frame ∧ frame.length ≤ n ∧
        decode_frame Wire.frame frame = .ok (value, frame.length)) ∧
    (∀ b value n, decode_frame Wire.response_frame b = .ok (value, n) →
      ∃ frame, encode_frame Wire.response_frame value = .ok frame ∧ frame.length ≤ n ∧
        decode_frame Wire.response_frame frame = .ok (value, frame.length)) ∧
    ∀ b r, CommandBufferRecording.decode b = .ok r →
      ∃ payload, r.encode = .ok payload ∧ payload.length ≤ b.length ∧
        CommandBufferRecording.decode payload = .ok r :=
  ⟨fun _ _ _ h => decode_frame_rewritten Wire.frame h,
    fun _ _ _ h => decode_frame_rewritten Wire.response_frame h, fun _ _ h => recording_rewritten h⟩

end Decoders

section Examples

attribute [local instance] WgpuTypes.numeric

/-- The numeric leaf types are. -/
theorem numeric_rewritten : WgpuTypes.Rewritten := by
  have h : Rewrites Codec.u32 := inferInstance
  exact ⟨h, h, h, h, h, h, h, h, h, h, h, h, h, h, h, h, h, h, h, h, h, h, h, h, h, h⟩

/-- A `Hello` whose version comes in nine bytes is written in one byte for it. -/
theorem long_hello_rewritten :
    ∃ frame, encode_frame Wire.frame ⟨none, .Hello 1⟩ = .ok frame ∧ frame.length ≤ 11 ∧
      decode_frame Wire.frame frame = .ok (⟨none, .Hello 1⟩, frame.length) := by
  have := numeric_rewritten
  exact accepted_rewritten.1 [0, 0, 0, 7, 0, 0, 252, 1, 0, 0, 0] ⟨none, .Hello 1⟩ 11 rfl

end Examples

end WgpuRemote
