/-
`transport::read_frame`, and the loop both ends run over a receive stream.

A transport delivers a byte stream in pieces of its own choosing. A `Source` is
the list of pieces still to be delivered before the end of the stream;
`read_exact` fills a buffer across them, as tokio's does. Nothing read from a
source depends on where it is cut (`read_exact_eq`), so everything below is
about the concatenated bytes.
-/
import WgpuRemote.Protocol.Codec

set_option autoImplicit false

namespace WgpuRemote

open Bincode

/-- The pieces of a receive stream, up to its end. -/
abbrev Source := List Bytes

/-- `std::io::Error`, as `read_exact` reports it. -/
inductive IoError where
  | UnexpectedEof
deriving DecidableEq

/-- Fill a buffer of `n` bytes from the source. -/
def read_exact : ℕ → Source → Except IoError (Bytes × Source)
  | 0, src => .ok ([], src)
  | _ + 1, [] => .error .UnexpectedEof
  | n + 1, piece :: src =>
      if n + 1 ≤ piece.length then .ok (piece.take (n + 1), piece.drop (n + 1) :: src)
      else do
        let (bs, src) ← read_exact (n + 1 - piece.length) src
        return (piece ++ bs, src)

/-- `read_frame`: the length prefix and the body, as one buffer. -/
def read_frame (src : Source) : Except IoError (Bytes × Source) := do
  let (len_buf, src) ← read_exact 4 src
  let (body, src) ← read_exact (from_be_bytes len_buf) src
  return (len_buf ++ body, src)

/-! ## Reading does not depend on the pieces -/

/-- Enough bytes left: the first `n` of them, whatever the pieces. -/
theorem read_exact_ok (n : ℕ) (src : Source) (h : n ≤ src.flatten.length) :
    ∃ src', read_exact n src = .ok (src.flatten.take n, src')
      ∧ src'.flatten = src.flatten.drop n := by
  induction src generalizing n with
  | nil =>
      have hn : n = 0 := by simpa using h
      subst hn
      exact ⟨[], rfl, rfl⟩
  | cons piece src ih =>
      rcases n with _ | n
      · exact ⟨piece :: src, by simp [read_exact], by simp⟩
      by_cases hle : n + 1 ≤ piece.length
      · refine ⟨piece.drop (n + 1) :: src, ?_, ?_⟩
        · rw [read_exact, if_pos hle, List.flatten_cons, List.take_append_of_le_length hle]
        · rw [List.flatten_cons, List.flatten_cons, List.drop_append_of_le_length hle]
      · simp only [List.flatten_cons, List.length_append] at h
        obtain ⟨src', hread, hrest⟩ := ih (n + 1 - piece.length) (by omega)
        have htake : piece.take (n + 1) = piece := List.take_of_length_le (by omega)
        have hdrop : piece.drop (n + 1) = [] := List.drop_of_length_le (by omega)
        refine ⟨src', ?_, ?_⟩
        · rw [read_exact, if_neg hle, hread, List.flatten_cons, List.take_append, htake]
          rfl
        · rw [hrest, List.flatten_cons, List.drop_append, hdrop, List.nil_append]

/-- Not enough bytes left: the end of the stream is reported. -/
theorem read_exact_eof (n : ℕ) (src : Source) (h : src.flatten.length < n) :
    read_exact n src = .error .UnexpectedEof := by
  induction src generalizing n with
  | nil =>
      rcases n with _ | n
      · simp at h
      · rfl
  | cons piece src ih =>
      rcases n with _ | n
      · simp at h
      simp only [List.flatten_cons, List.length_append] at h
      rw [read_exact, if_neg (by omega), ih _ (by omega)]
      rfl

/-- What a successful `read_frame` returns is a prefix of the stream, of four
bytes at least, and it leaves the rest. -/
theorem read_frame_ok {src src' : Source} {raw : Bytes} (h : read_frame src = .ok (raw, src')) :
    src.flatten = raw ++ src'.flatten ∧ 4 ≤ raw.length := by
  obtain ⟨⟨hdr, s1⟩, h1, h⟩ := bind_eq_ok.mp h
  obtain ⟨⟨body, s2⟩, h2, h⟩ := bind_eq_ok.mp h
  simp only [pure, Except.pure, Except.ok.injEq, Prod.mk.injEq] at h
  obtain ⟨rfl, rfl⟩ := h
  -- the header was there, or reading it would have failed
  have hlen4 : 4 ≤ src.flatten.length := by
    by_contra hc
    rw [read_exact_eof 4 src (by omega)] at h1
    simp at h1
  obtain ⟨s1', hr1, hs1⟩ := read_exact_ok 4 src hlen4
  rw [hr1] at h1
  simp only [Except.ok.injEq, Prod.mk.injEq] at h1
  obtain ⟨rfl, rfl⟩ := h1
  -- and so was the body it announces
  have hlenb : from_be_bytes (src.flatten.take 4) ≤ s1'.flatten.length := by
    by_contra hc
    rw [read_exact_eof _ s1' (by omega)] at h2
    simp at h2
  obtain ⟨s2', hr2, hs2⟩ := read_exact_ok _ s1' hlenb
  rw [hr2] at h2
  simp only [Except.ok.injEq, Prod.mk.injEq] at h2
  obtain ⟨rfl, rfl⟩ := h2
  refine ⟨?_, ?_⟩
  · rw [hs2, List.append_assoc, List.take_append_drop, hs1, List.take_append_drop]
  · rw [List.length_append, List.length_take]
    omega

section Loop

variable {α : Type} (c : Codec α)

/-- Why a receive loop ended. -/
inductive Stop where
  | Read (e : IoError)
  | Decode (e : CodecError)

/-- The receive loop: `read_frame`, then `decode_frame` on what it returned,
until one of them fails. Yields each value with the count `decode_frame`
reported for it, and the reason for stopping. -/
def recv_frames (src : Source) : List (α × ℕ) × Stop :=
  match _h : read_frame src with
  | .error e => ([], .Read e)
  | .ok (raw, src') =>
      match decode_frame c raw with
      | .error e => ([], .Decode e)
      | .ok (value, n) =>
          let (values, stop) := recv_frames src'
          ((value, n) :: values, stop)
termination_by src.flatten.length
decreasing_by
  obtain ⟨heq, hlen⟩ := read_frame_ok _h
  rw [heq, List.length_append]
  omega

/-- The read fails: the loop stops there. -/
theorem recv_frames_of_read {src : Source} {e : IoError} (h : read_frame src = .error e) :
    recv_frames c src = ([], .Read e) := by
  rw [recv_frames]
  split
  · rename_i e' he
    rw [h] at he
  · rename_i raw s2 he
    rw [h] at he
    simp at he

/-- What was read does not decode: the loop stops there. -/
theorem recv_frames_of_refused {src src' : Source} {raw : Bytes} {e : CodecError}
    (h : read_frame src = .ok (raw, src')) (hdec : decode_frame c raw = .error e) :
    recv_frames c src = ([], .Decode e) := by
  rw [recv_frames]
  split
  · rename_i e' he
    rw [h] at he
    simp at he
  · rename_i raw' s2 he
    rw [h] at he
    obtain ⟨rfl, rfl⟩ := Prod.mk.inj (Except.ok.inj he)
    simp only [hdec]

/-- It does: the loop yields the value and goes on with the rest. -/
theorem recv_frames_of_frame {src src' : Source} {raw : Bytes} {value : α} {n : ℕ}
    (h : read_frame src = .ok (raw, src')) (hdec : decode_frame c raw = .ok (value, n)) :
    recv_frames c src = ((value, n) :: (recv_frames c src').1, (recv_frames c src').2) := by
  rw [recv_frames]
  split
  · rename_i e' he
    rw [h] at he
    simp at he
  · rename_i raw' s2 he
    rw [h] at he
    obtain ⟨rfl, rfl⟩ := Prod.mk.inj (Except.ok.inj he)
    simp only [hdec]

/-- The head of a stream that starts with the bytes of one frame. -/
theorem read_frame_of_decode {value : α} {raw rest : Bytes} {src : Source}
    (h : decode_frame c raw = .ok (value, raw.length)) (hsrc : src.flatten = raw ++ rest) :
    ∃ src', read_frame src = .ok (raw, src') ∧ src'.flatten = rest := by
  -- what `decode_frame` checked of the length prefix
  obtain ⟨-, hwhole, hlen, -⟩ := decode_frame_ok c h
  unfold announced at hwhole hlen
  have h4 : 4 ≤ raw.length := by omega
  have hall : src.flatten.length = raw.length + rest.length := by
    rw [hsrc, List.length_append]
  obtain ⟨s1, hr1, hs1⟩ := read_exact_ok 4 src (by omega)
  have htake : src.flatten.take 4 = raw.take 4 := by
    rw [hsrc, List.take_append_of_le_length h4]
  have hdrop : s1.flatten = raw.drop 4 ++ rest := by
    rw [hs1, hsrc, List.drop_append_of_le_length h4]
  have hbody : (raw.drop 4).length = from_be_bytes (raw.take 4) := by
    rw [List.length_drop]
    omega
  rw [htake] at hr1
  obtain ⟨s2, hr2, hs2⟩ := read_exact_ok (from_be_bytes (raw.take 4)) s1
    (by rw [hdrop, List.length_append]; omega)
  rw [hdrop, ← hbody, List.take_left] at hr2
  rw [hdrop, ← hbody, List.drop_left] at hs2
  rw [hbody] at hr2
  refine ⟨s2, ?_, hs2⟩
  refine bind_eq_ok.mpr ⟨_, hr1, ?_⟩
  refine bind_eq_ok.mpr ⟨_, hr2, ?_⟩
  dsimp only
  rw [List.take_append_drop]
  rfl

/-- The head of a stream that starts with a frame that was encoded. -/
theorem read_frame_encode_frame {value : α} {bs rest : Bytes} {src : Source}
    (h : encode_frame c value = .ok bs) (hsrc : src.flatten = bs ++ rest) :
    ∃ src', read_frame src = .ok (bs, src') ∧ src'.flatten = rest :=
  read_frame_of_decode c (decode_frame_encode_frame c h) hsrc

/-- A stream that ends before its first frame is complete yields nothing: the
end of the stream is reported while reading it. -/
theorem read_frame_of_cut {value : α} {bs : Bytes} {src : Source}
    (h : encode_frame c value = .ok bs) (hp : src.flatten <+: bs) (hne : src.flatten ≠ bs) :
    read_frame src = .error .UnexpectedEof := by
  obtain ⟨body, -, hcap, rfl⟩ := encode_frame_ok c h
  have hlt : src.flatten.length < 4 + body.length := by
    have hle := hp.length_le
    have hneq : src.flatten.length ≠ (to_be_bytes body.length ++ body).length :=
      fun heq => hne (hp.eq_of_length heq)
    simp only [List.length_append, to_be_bytes_length] at hle hneq
    omega
  by_cases h4 : src.flatten.length < 4
  · rw [read_frame, read_exact_eof 4 src h4]
    rfl
  · obtain ⟨s1, hr1, hs1⟩ := read_exact_ok 4 src (by omega)
    rw [take_four_of_append hp (by omega)] at hr1
    have hshort : s1.flatten.length < body.length := by
      rw [hs1, List.length_drop]
      omega
    rw [read_frame, hr1]
    change (read_exact (from_be_bytes (to_be_bytes body.length)) s1 >>= _) = _
    rw [from_be_bytes_header hcap, read_exact_eof _ s1 hshort]
    rfl

/-- One whole frame at the head of the stream: the loop yields it and goes on
with the rest. -/
theorem recv_frames_cons {value : α} {bs rest : Bytes} {src : Source}
    (h : encode_frame c value = .ok bs) (hsrc : src.flatten = bs ++ rest) :
    ∃ src', src'.flatten = rest ∧
      recv_frames c src
        = ((value, bs.length) :: (recv_frames c src').1, (recv_frames c src').2) := by
  obtain ⟨src', hread, hrest⟩ := read_frame_encode_frame c h hsrc
  exact ⟨src', hrest, recv_frames_of_frame c hread (decode_frame_encode_frame c h)⟩

/-! ## Round trip over a stream -/

/-- `bss` are the frames of `values`, one each. -/
abbrev Encoded (values : List α) (bss : List Bytes) : Prop :=
  List.Forall₂ (fun v bs => encode_frame c v = .ok bs) values bss

/-- What a receiver must see of the encoded values: each with its length. -/
def received (values : List α) (bss : List Bytes) : List (α × ℕ) :=
  values.zip (bss.map List.length)

/-- The whole stream, in any pieces, yields exactly the values, in order. -/
theorem recv_frames_encoded {values : List α} {bss : List Bytes} (h : Encoded c values bss)
    (src : Source) (hsrc : src.flatten = bss.flatten) :
    recv_frames c src = (received values bss, .Read .UnexpectedEof) := by
  induction h generalizing src with
  | nil =>
      refine recv_frames_of_read c ?_
      rw [read_frame, read_exact_eof 4 src (by simp [hsrc])]
      rfl
  | cons hv _ ih =>
      obtain ⟨src', hrest, hrec⟩ := recv_frames_cons c hv (by simpa using hsrc)
      rw [hrec, ih src' hrest]
      rfl

/-- Any prefix of the stream, in any pieces, yields a prefix of the values. -/
theorem recv_frames_of_cut {values : List α} {bss : List Bytes} (h : Encoded c values bss)
    (src : Source) (hsrc : src.flatten <+: bss.flatten) :
    (recv_frames c src).1 <+: received values bss := by
  induction h generalizing src with
  | nil =>
      have hnil : src.flatten = [] := by simpa using hsrc
      rw [recv_frames_of_read c (by rw [read_frame, read_exact_eof 4 src (by simp [hnil])]; rfl)]
      exact List.nil_prefix
  | @cons v bs vs bss hv _ ih =>
      rw [List.flatten_cons] at hsrc
      by_cases hle : bs.length ≤ src.flatten.length
      · -- the first frame is complete; the induction hypothesis has the rest
        obtain ⟨rest, hrest⟩ : bs <+: src.flatten :=
          List.prefix_of_prefix_length_le (List.prefix_append bs bss.flatten) hsrc hle
        obtain ⟨src', hsrc', hrec⟩ := recv_frames_cons c hv hrest.symm
        have hpre : src'.flatten <+: bss.flatten := by
          rw [hsrc']
          rwa [← hrest, List.prefix_append_right_inj] at hsrc
        rw [hrec]
        exact (List.prefix_cons_inj _).mpr (ih src' hpre)
      · have hpre : src.flatten <+: bs :=
          List.prefix_of_prefix_length_le hsrc (List.prefix_append bs bss.flatten) (by omega)
        have hne : src.flatten ≠ bs := fun heq => hle (heq ▸ Nat.le_refl _)
        rw [recv_frames_of_read c (read_frame_of_cut c hv hpre hne)]
        exact List.nil_prefix

/-- A codec whose values survive the framed stream: the whole stream yields
all of them, a prefix of it a prefix of them, and part of one frame nothing. -/
structure SurvivesStream : Prop where
  whole : ∀ values bss, Encoded c values bss → ∀ src : Source, src.flatten = bss.flatten →
    recv_frames c src = (received values bss, .Read .UnexpectedEof)
  pre : ∀ values bss, Encoded c values bss → ∀ src : Source, src.flatten <+: bss.flatten →
    (recv_frames c src).1 <+: received values bss
  part : ∀ value bs, encode_frame c value = .ok bs → ∀ p, p <+: bs → p ≠ bs →
    ∃ needed got, decode_frame c p = .error (.Truncated needed got) ∧ got < needed

/-- Every codec's values do. -/
theorem survives_stream : SurvivesStream c where
  whole _ _ h src hsrc := recv_frames_encoded c h src hsrc
  pre _ _ h src hsrc := recv_frames_of_cut c h src hsrc
  part _ _ h _ hp hne := decode_frame_of_cut c h hp hne

end Loop

section Messages

variable [WgpuTypes]

/-- The payloads of a `Submit` are the encodings of these recordings. -/
abbrev EncodedRecordings (recordings : List CommandBufferRecording) (payloads : List Bytes) : Prop :=
  List.Forall₂ (fun (r : CommandBufferRecording) p => r.encode = .ok p) recordings payloads

/-- The payloads a server receives decode to the recordings that were encoded. -/
theorem decode_recordings {recordings : List CommandBufferRecording} {payloads : List Bytes}
    (h : EncodedRecordings recordings payloads) :
    List.Forall₂ (fun p r => CommandBufferRecording.decode p = .ok r) payloads recordings := by
  induction h with
  | nil => exact .nil
  | @cons r p _ _ hr _ ih => exact .cons (r.decode_encode p hr) ih

/-- **Wire round trip.** Both message types survive the framed stream, however
it is cut, and the recordings inside a `Submit` survive the frame around them. -/
theorem wire_round_trip :
    SurvivesStream Wire.frame ∧ SurvivesStream Wire.response_frame ∧
      ∀ (rid : Option RequestId) recordings payloads bs, EncodedRecordings recordings payloads →
        encode_frame Wire.frame ⟨rid, .Submit payloads⟩ = .ok bs →
        ∃ payloads', decode_frame Wire.frame bs = .ok (⟨rid, .Submit payloads'⟩, bs.length)
          ∧ List.Forall₂ (fun p r => CommandBufferRecording.decode p = .ok r)
              payloads' recordings := by
  refine ⟨survives_stream _, survives_stream _, ?_⟩
  intro rid recordings payloads bs hrec henc
  exact ⟨payloads, decode_frame_encode_frame _ henc, decode_recordings hrec⟩

end Messages

/-! ## Two frames, one of them a submission -/

section Runs

attribute [local instance] WgpuTypes.numeric

/-- One compute pass with one dispatch. -/
def one_dispatch : CommandBufferRecording :=
  ⟨none, [.BeginComputePass none [.SetPipeline ⟨1⟩, .DispatchWorkgroups 4 1 1]]⟩

/-- A request and a submission arrive in three pieces, the first of which ends
inside a header. Both are received, and the recording decodes. -/
theorem submission_received :
    ∃ payload, one_dispatch.encode = .ok payload ∧
      recv_frames Wire.frame
          [[0, 0, 0, 3, 1, 1, 1, 0, 0], [0, 15, 0, 19, 1, 11, 0, 1, 4, 0], [2, 0, 1, 3, 4, 1, 1]] =
        ([(⟨some ⟨1⟩, .RequestAdapter⟩, 7), (⟨none, .Submit [payload]⟩, 19)], .Read .UnexpectedEof) ∧
      ∃ payloads', decode_frame Wire.frame
          [0, 0, 0, 15, 0, 19, 1, 11, 0, 1, 4, 0, 2, 0, 1, 3, 4, 1, 1] =
            .ok (⟨none, .Submit payloads'⟩, 19) ∧
          List.Forall₂ (fun p r => CommandBufferRecording.decode p = .ok r) payloads' [one_dispatch] := by
  have hpayload : one_dispatch.encode = .ok [0, 1, 4, 0, 2, 0, 1, 3, 4, 1, 1] := rfl
  have hadapter : encode_frame Wire.frame ⟨some ⟨1⟩, .RequestAdapter⟩ = .ok [0, 0, 0, 3, 1, 1, 1] := rfl
  have hsubmit : encode_frame Wire.frame ⟨none, .Submit [[0, 1, 4, 0, 2, 0, 1, 3, 4, 1, 1]]⟩ =
      .ok [0, 0, 0, 15, 0, 19, 1, 11, 0, 1, 4, 0, 2, 0, 1, 3, 4, 1, 1] := rfl
  obtain ⟨hstream, -, hrecordings⟩ := wire_round_trip
  exact ⟨_, hpayload, hstream.whole _ _ (.cons hadapter (.cons hsubmit .nil)) _ rfl,
    hrecordings none [one_dispatch] _ _ (.cons hpayload .nil) hsubmit⟩

end Runs

end WgpuRemote
