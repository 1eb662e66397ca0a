/-
Two builds of one wire format.

A client and a server are each built against wgpu 27 or wgpu 29, and one message
depends on which: `PipelineLayoutDescriptor` has its `push_constant_ranges` in
the wgpu 27 build only. The protocol version does not depend on the build, so
the handshake never tells the two apart.

Serialization is positional, so the field is what a reader of the other build
trips over. A wgpu 27 reader looks for the ranges where a wgpu 29 frame has
ended. A wgpu 29 reader stops before them, and `decode_frame` drops what is left
of the body with them. Everything else the two builds read alike
(`same_format_iff`).
-/
import WgpuRemote.Protocol.Codec
import WgpuRemote.Server.Engine

set_option autoImplicit false

namespace WgpuRemote

open Bincode

section Builds

variable [WgpuTypes]

/-- The two `wgpu-*` features. -/
inductive Build where
  | Wgpu27
  | Wgpu29
deriving DecidableEq

namespace Wire

/-- The variant in the wgpu 29 build, whose descriptor ends with the layouts. A
pipeline layout without the field is one without ranges, and it is the only kind
that build has. -/
def create_pipeline_layout_29 : Codec.Variant Action where
  fields := (id .PipelineLayout).seq <| label.seq (id .BindGroupLayout).list
  make := fun ⟨i, l, bgls⟩ => .CreatePipelineLayout i ⟨l, bgls, []⟩
  view := fun | .CreatePipelineLayout i ⟨l, bgls, []⟩ => some (i, l, bgls) | _ => none
  make_view := by
    intro a f h
    split at h
    · rw [← Option.some.inj h]
    · exact absurd h (by simp)

end Wire

namespace Build

/-- `Action` as each build serializes it. -/
def action : Build → Codec Action
  | .Wgpu27 => Wire.action
  | .Wgpu29 =>
      Codec.variants (Wire.action_variants Wire.create_pipeline_layout_29)
        (by simp [Wire.action_variants])

/-- `Frame` as each build serializes it. -/
def frame (b : Build) : Codec Frame :=
  (Wire.request_id.option.seq b.action).map
    (fun p => ⟨p.1, p.2⟩) (fun f => (f.request_id, f.action)) (fun _ => rfl)

theorem frame_wgpu27 : Build.Wgpu27.frame = Wire.frame := rfl

/-- The server of build `s` answers the `Hello` of a client of build `c` with
`HelloAck`. -/
def Acknowledged (c s : Build) : Prop :=
  ∃ rid bs n v, encode_frame c.frame ⟨some rid, .Hello PROTOCOL_VERSION⟩ = .ok bs ∧
    decode_frame s.frame bs = .ok (⟨some rid, .Hello v⟩, n) ∧
    Server.hello v = .HelloAck PROTOCOL_VERSION

/-- The action means to the two builds what it does: they are the same, or it
creates no pipeline layout, or the reader is the one that leaves the ranges out
and there are none. -/
def Agree (c s : Build) (a : Action) : Prop :=
  c = s ∨ (∀ id desc, a ≠ .CreatePipelineLayout id desc) ∨
    c = .Wgpu27 ∧ ∀ id desc, a = .CreatePipelineLayout id desc → desc.push_constant_ranges = []

/-! ## Every other action -/

/-- Both builds serialize it to the same bytes. -/
theorem action_encode_eq (c s : Build) {a : Action}
    (h : ∀ id desc, a ≠ .CreatePipelineLayout id desc) : c.action.encode a = s.action.encode a := by
  have h27 : Build.Wgpu27.action.encode a = Build.Wgpu29.action.encode a := by
    rcases a
    case CreatePipelineLayout id desc => exact absurd rfl (h id desc)
    all_goals rfl
  rcases c
  · rcases s
    · rfl
    · exact h27
  · rcases s
    · exact h27.symm
    · rfl

/-- The frame around it is the same in both builds. -/
theorem encode_frame_eq (c s : Build) {f : Frame} (h : c.action.encode f.action = s.action.encode f.action) :
    encode_frame c.frame f = encode_frame s.frame f := by
  have hbody : c.frame.encode f = s.frame.encode f := by
    unfold Build.frame Codec.map Codec.seq
    dsimp only
    rw [h]
  unfold encode_frame
  rw [hbody]

/-! ## Pipeline layouts -/

/-- What both builds write of a pipeline layout, and the ranges. -/
theorem pipeline_layout_bytes {rid : Option RequestId} {id : PipelineLayoutId} {l : Option String}
    {bgls : List BindGroupLayoutId} {ranges : List PushConstantRange} {bs : Bytes}
    (h : Wire.frame.encode ⟨rid, .CreatePipelineLayout id ⟨l, bgls, ranges⟩⟩ = .ok bs) :
    ∃ shared rest, bs = shared ++ rest ∧
      Build.Wgpu29.frame.encode ⟨rid, .CreatePipelineLayout id ⟨l, bgls, []⟩⟩ = .ok shared := by
  obtain ⟨x, hx, h⟩ := bind_eq_ok.mp h
  obtain ⟨y, hy, h⟩ := bind_eq_ok.mp h
  -- the variant, then the id, the label, the layouts and the ranges
  obtain ⟨z, hz, hy⟩ := bind_eq_ok.mp
    (show (((Wire.id .PipelineLayout).seq Wire.pipeline_layout_descriptor).encode
      (id, ⟨l, bgls, ranges⟩) >>= fun z => .ok (varint_encode 10 ++ z)) = .ok y from hy)
  obtain ⟨i, hi, hz⟩ := bind_eq_ok.mp hz
  obtain ⟨d, hd, hz⟩ := bind_eq_ok.mp hz
  obtain ⟨l', hl, hd⟩ := bind_eq_ok.mp hd
  obtain ⟨g, hg, hd⟩ := bind_eq_ok.mp hd
  obtain ⟨b', hb, hg⟩ := bind_eq_ok.mp hg
  obtain ⟨r', hr, hg⟩ := bind_eq_ok.mp hg
  refine ⟨x ++ (varint_encode 10 ++ (i ++ (l' ++ b'))), r', ?_, ?_⟩
  · rw [← Except.ok.inj h, ← Except.ok.inj hy, ← Except.ok.inj hz, ← Except.ok.inj hd,
      ← Except.ok.inj hg]
    simp only [List.append_assoc]
  · have hfields : ((Wire.id .PipelineLayout).seq <|
        Wire.label.seq (Wire.id .BindGroupLayout).list).encode (id, l, bgls) =
          .ok (i ++ (l' ++ b')) :=
      bind_eq_ok.mpr ⟨i, hi, bind_eq_ok.mpr ⟨_, bind_eq_ok.mpr ⟨l', hl,
        bind_eq_ok.mpr ⟨b', hb, rfl⟩⟩, rfl⟩⟩
    have haction : Build.Wgpu29.action.encode (.CreatePipelineLayout id ⟨l, bgls, []⟩) =
        .ok (varint_encode 10 ++ (i ++ (l' ++ b'))) := by
      show (((Wire.id .PipelineLayout).seq <|
        Wire.label.seq (Wire.id .BindGroupLayout).list).encode (id, l, bgls) >>= fun z =>
          .ok (varint_encode 10 ++ z)) = _
      rw [hfields]
      rfl
    exact bind_eq_ok.mpr ⟨x, hx, bind_eq_ok.mpr ⟨_, haction, rfl⟩⟩

/-- The wgpu 29 build reads a pipeline layout of the wgpu 27 build without its
ranges. -/
theorem read_without_ranges {rid : Option RequestId} {id : PipelineLayoutId} {l : Option String}
    {bgls : List BindGroupLayoutId} {ranges : List PushConstantRange} {bs : Bytes}
    (h : encode_frame Build.Wgpu27.frame ⟨rid, .CreatePipelineLayout id ⟨l, bgls, ranges⟩⟩ = .ok bs) :
    decode_frame Build.Wgpu29.frame bs =
      .ok (⟨rid, .CreatePipelineLayout id ⟨l, bgls, []⟩⟩, bs.length) := by
  obtain ⟨body, hbody, hcap, rfl⟩ := encode_frame_ok _ h
  obtain ⟨shared, rest, rfl, hshared⟩ := pipeline_layout_bytes hbody
  have hread := Build.Wgpu29.frame.decode_encode _ shared rest hshared
  have hframe := decode_frame_body Build.Wgpu29.frame hcap []
  rw [List.append_nil, hread] at hframe
  rw [hframe]
  simp only [List.length_append, to_be_bytes_length]

/-- The wgpu 27 build does not read a pipeline layout of the wgpu 29 build. -/
theorem not_read_without_ranges {rid : Option RequestId} {id : PipelineLayoutId}
    {desc : PipelineLayoutDescriptor} {bs : Bytes}
    (h : encode_frame Build.Wgpu29.frame ⟨rid, .CreatePipelineLayout id desc⟩ = .ok bs) :
    decode_frame Build.Wgpu27.frame bs = .error (.Decode (.UnexpectedEnd 1)) := by
  obtain ⟨body, hbody, hcap, rfl⟩ := encode_frame_ok _ h
  rcases desc with ⟨l, bgls, _ | ⟨range, ranges⟩⟩
  · obtain ⟨x, hx, hbody⟩ := bind_eq_ok.mp hbody
    obtain ⟨y, hy, hbody⟩ := bind_eq_ok.mp hbody
    obtain ⟨z, hz, hy⟩ := bind_eq_ok.mp
      (show (((Wire.id .PipelineLayout).seq <|
        Wire.label.seq (Wire.id .BindGroupLayout).list).encode (id, l, bgls) >>= fun z =>
          .ok (varint_encode 10 ++ z)) = .ok y from hy)
    obtain ⟨i, hi, hz⟩ := bind_eq_ok.mp hz
    obtain ⟨d, hd, hz⟩ := bind_eq_ok.mp hz
    obtain ⟨l', hl, hd⟩ := bind_eq_ok.mp hd
    obtain ⟨b', hb, hd⟩ := bind_eq_ok.mp hd
    -- the reader goes through the same fields, and then there is nothing left
    have hranges : PushConstantRange.codec.list.decode ([] : Bytes) = .error (.UnexpectedEnd 1) := rfl
    have hdesc : Wire.pipeline_layout_descriptor.decode (l' ++ (b' ++ [])) =
        .error (.UnexpectedEnd 1) := by
      unfold Wire.pipeline_layout_descriptor Codec.map
      dsimp only
      rw [Codec.seq_decode_error hl (Codec.seq_decode_error hb hranges)]
      rfl
    have hfields : Build.Wgpu27.action.decode (varint_encode 10 ++ (i ++ (l' ++ (b' ++ [])))) =
        .error (.UnexpectedEnd 1) :=
      Codec.decode_variant_error (v := Wire.create_pipeline_layout) (by omega) rfl
        (Codec.seq_decode_error hi hdesc)
    have hread : Build.Wgpu27.frame.decode (x ++ (varint_encode 10 ++ (i ++ (l' ++ (b' ++ []))))) =
        .error (.UnexpectedEnd 1) := by
      unfold Build.frame Codec.map
      dsimp only
      rw [Codec.seq_decode_error hx hfields]
      rfl
    have hbytes : body = x ++ (varint_encode 10 ++ (i ++ (l' ++ (b' ++ [])))) := by
      rw [← Except.ok.inj hbody, ← Except.ok.inj hy, ← Except.ok.inj hz, ← Except.ok.inj hd,
        List.append_nil]
    have hframe := decode_frame_body Build.Wgpu27.frame hcap []
    rw [List.append_nil] at hframe
    rw [hframe, hbytes, hread]
  · -- that build has no such layout
    obtain ⟨x, hx, hbody⟩ := bind_eq_ok.mp hbody
    obtain ⟨y, hy, hbody⟩ := bind_eq_ok.mp hbody
    exact absurd (show Except.error _ = Except.ok y from hy) (by simp)

/-! ## Which frames mean the same -/

/-- **Two builds that shake hands** read a frame of each other as it was written
exactly if their `Agree` holds of its action. -/
theorem same_format_iff (c s : Build) (f : Frame) (bs : Bytes) (hhandshake : Acknowledged c s)
    (henc : encode_frame c.frame f = .ok bs) :
    decode_frame s.frame bs = .ok (f, bs.length) ↔ Agree c s f.action := by
  by_cases hbuild : c = s
  · subst hbuild
    exact ⟨fun _ => Or.inl rfl, fun _ => decode_frame_encode_frame c.frame henc⟩
  by_cases hlayout : ∀ id desc, f.action ≠ .CreatePipelineLayout id desc
  · refine ⟨fun _ => Or.inr (Or.inl hlayout), fun _ => ?_⟩
    rw [encode_frame_eq c s (action_encode_eq c s hlayout)] at henc
    exact decode_frame_encode_frame s.frame henc
  push Not at hlayout
  obtain ⟨id, ⟨l, bgls, ranges⟩, haction⟩ := hlayout
  obtain ⟨rid, action⟩ := f
  have haction' : action = .CreatePipelineLayout id ⟨l, bgls, ranges⟩ := haction
  subst haction'
  rcases c
  · -- the ranges are dropped
    obtain rfl : s = .Wgpu29 := by
      rcases s
      · exact absurd rfl hbuild
      · rfl
    rw [read_without_ranges henc]
    constructor
    · intro heq
      have hranges : [] = ranges := by
        simpa using heq
      refine Or.inr (Or.inr ⟨rfl, fun id' desc' heq' => ?_⟩)
      obtain ⟨-, hdesc⟩ := Action.CreatePipelineLayout.inj heq'
      rw [← hdesc]
      exact hranges.symm
    · rintro (habs | hne | ⟨-, hempty⟩)
      · exact absurd habs hbuild
      · exact absurd rfl (hne _ _)
      · rw [show ranges = [] from hempty _ _ rfl]
  · -- the ranges are missed
    obtain rfl : s = .Wgpu27 := by
      rcases s
      · rfl
      · exact absurd rfl hbuild
    rw [not_read_without_ranges henc]
    refine ⟨fun habs => absurd habs (by simp), ?_⟩
    rintro (habs | hne | ⟨habs, -⟩)
    · exact absurd habs hbuild
    · exact absurd rfl (hne _ _)
    · exact absurd habs hbuild

end Build

end Builds

/-! ## A layout with a range -/

section Runs

attribute [local instance] WgpuTypes.numeric

/-- The handshake of a wgpu 27 client with a wgpu 29 server. -/
theorem acknowledged_27_29 : Build.Acknowledged .Wgpu27 .Wgpu29 :=
  ⟨⟨1⟩, [0, 0, 0, 4, 1, 1, 0, 1], 8, 1, rfl, rfl, rfl⟩

/-- A layout without ranges is read as it was written. -/
theorem no_ranges_same_format :
    decode_frame Build.Wgpu29.frame [0, 0, 0, 6, 0, 10, 1, 0, 0, 0] =
      .ok ((⟨none, .CreatePipelineLayout ⟨1⟩ ⟨none, [], []⟩⟩ : Frame), 10) :=
  (Build.same_format_iff .Wgpu27 .Wgpu29 _ _ acknowledged_27_29 rfl).mpr
    (Or.inr (Or.inr ⟨rfl, fun _ _ h => by
      rw [← (Action.CreatePipelineLayout.inj h).2]⟩))

/-- **The range is lost**, and nothing is said about it. -/
theorem range_lost :
    ¬ ∀ (c s : Build) (f : Frame) (bs : Bytes), Build.Acknowledged c s →
      encode_frame c.frame f = .ok bs → decode_frame s.frame bs = .ok (f, bs.length) := by
  intro h
  have hread := h .Wgpu27 .Wgpu29 ⟨none, .CreatePipelineLayout ⟨1⟩ ⟨none, [], [(3 : UInt32)]⟩⟩
    [0, 0, 0, 7, 0, 10, 1, 0, 0, 1, 3] acknowledged_27_29 rfl
  have hlost : decode_frame Build.Wgpu29.frame [0, 0, 0, 7, 0, 10, 1, 0, 0, 1, 3] =
      .ok ((⟨none, .CreatePipelineLayout ⟨1⟩ ⟨none, [], []⟩⟩ : Frame), 11) := rfl
  rw [hlost] at hread
  simp at hread

end Runs

end WgpuRemote
