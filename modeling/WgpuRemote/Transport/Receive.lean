/-
Two parsers of one framing: the receive loop over a stream, and `decode_frame`
repeated over a buffer that holds all of it.

`decode_frame` looks at the four bytes of the header before anything else, and a
frame above the cap is an error there. `read_frame` does not know the cap: it
allocates a body of whatever length the header announces, waits for the stream to
fill it, and only what it returns goes to `decode_frame`. So the two agree on
every stream up to the first header above the cap, and at that header they never
do (`streams_agree_iff`): the body is buffered, and a stream that ends inside
it is reported as its end.
-/
import WgpuRemote.Transport.Stream

set_option autoImplicit false

namespace WgpuRemote

open Bincode

/-! ## What `read_frame` buffers -/

/-- `read_frame`, beside the sizes of the buffers it allocates for the stream to
fill: `len_buf`, then `body`. -/
def read_frame_buffering (src : Source) : List ℕ × Except IoError (Bytes × Source) :=
  match read_exact 4 src with
  | .error e => ([4], .error e)
  | .ok (len_buf, src) =>
      let len := from_be_bytes len_buf
      match read_exact len src with
      | .error e => ([4, len], .error e)
      | .ok (body, src) => ([4, len], .ok (len_buf ++ body, src))

theorem read_frame_buffering_snd (src : Source) :
    (read_frame_buffering src).2 = read_frame src := by
  unfold read_frame_buffering read_frame
  cases read_exact 4 src with
  | error e => rfl
  | ok header =>
      show _ = (read_exact (from_be_bytes header.1) header.2 >>= _)
      dsimp only
      cases read_exact (from_be_bytes header.1) header.2 with
      | error e => rfl
      | ok body => rfl

/-- Without a whole header, only the header is waited for. -/
theorem read_frame_buffering_short {src : Source} (h : src.flatten.length < 4) :
    read_frame_buffering src = ([4], .error .UnexpectedEof) := by
  unfold read_frame_buffering
  rw [read_exact_eof 4 src h]

/-- With a whole header, the announced body is waited for, and the end of the
stream is reported if it is not all there. -/
theorem read_frame_buffering_cut {src : Source} (h4 : 4 ≤ src.flatten.length)
    (h : src.flatten.length < 4 + announced src.flatten) :
    read_frame_buffering src = ([4, announced src.flatten], .error .UnexpectedEof) := by
  obtain ⟨s1, hheader, hs1⟩ := read_exact_ok 4 src h4
  have hshort : s1.flatten.length < from_be_bytes (src.flatten.take 4) := by
    unfold announced at h
    rw [hs1, List.length_drop]
    omega
  unfold read_frame_buffering
  rw [hheader]
  dsimp only
  rw [read_exact_eof _ s1 hshort]
  rfl

/-- If it is all there, it is returned behind its header. -/
theorem read_frame_buffering_whole {src : Source}
    (h : 4 + announced src.flatten ≤ src.flatten.length) :
    ∃ src', read_frame_buffering src = ([4, announced src.flatten],
        .ok (src.flatten.take (4 + announced src.flatten), src'))
      ∧ src'.flatten = src.flatten.drop (4 + announced src.flatten) := by
  obtain ⟨s1, hheader, hs1⟩ := read_exact_ok 4 src (by omega)
  have hbody : from_be_bytes (src.flatten.take 4) ≤ s1.flatten.length := by
    unfold announced at h
    rw [hs1, List.length_drop]
    omega
  obtain ⟨s2, hread, hs2⟩ := read_exact_ok _ s1 hbody
  refine ⟨s2, ?_, ?_⟩
  · unfold read_frame_buffering
    rw [hheader]
    dsimp only
    rw [hread, hs1]
    dsimp only
    rw [← List.take_add]
    rfl
  · rw [hs2, hs1, List.drop_drop]
    rfl

section Loops

variable {α : Type} (c : Codec α)

/-! ## The two loops -/

/-- What a receive loop did: the values it yielded with the count `decode_frame`
reported for each, why it stopped, and what the read it stopped at buffered. -/
structure Receipt (α : Type) where
  values : List (α × ℕ)
  stop : Stop
  buffers : List ℕ

/-- The receive loop, with the buffers of its last read. -/
def receive (src : Source) : Receipt α :=
  match _h : read_frame_buffering src with
  | (buffers, .error e) => ⟨[], .Read e, buffers⟩
  | (buffers, .ok (raw, src')) =>
      match decode_frame c raw with
      | .error e => ⟨[], .Decode e, buffers⟩
      | .ok (value, n) =>
          let receipt := receive src'
          { receipt with values := (value, n) :: receipt.values }
termination_by src.flatten.length
decreasing_by
  have hread := read_frame_buffering_snd src
  rw [_h] at hread
  obtain ⟨heq, hlen⟩ := read_frame_ok hread.symm
  rw [heq, List.length_append]
  omega

/-- `decode_frame` over a buffer, again and again: each value with its count,
and the error that ends it. -/
def slice_frames (buf : Bytes) : List (α × ℕ) × CodecError :=
  match _h : decode_frame c buf with
  | .error e => ([], e)
  | .ok (value, n) =>
      let (values, stop) := slice_frames (buf.drop n)
      ((value, n) :: values, stop)
termination_by buf.length
decreasing_by
  obtain ⟨-, hle, hn, -⟩ := decode_frame_ok c _h
  rw [List.length_drop]
  omega

/-! ## One step of each -/

/-- The read fails: the loop stops there. -/
theorem receive_of_read {src : Source} {buffers : List ℕ} {e : IoError}
    (h : read_frame_buffering src = (buffers, .error e)) :
    receive c src = ⟨[], .Read e, buffers⟩ := by
  rw [receive]
  split
  · rename_i b e' he
    rw [h] at he
    obtain ⟨rfl, heq⟩ := Prod.mk.inj he
    rw [← Except.error.inj heq]
  · rename_i b raw src' he
    rw [h] at he
    simp at he

/-- What was read does not decode: the loop stops there. -/
theorem receive_of_refused {src src' : Source} {buffers : List ℕ} {raw : Bytes} {e : CodecError}
    (h : read_frame_buffering src = (buffers, .ok (raw, src')))
    (hdec : decode_frame c raw = .error e) : receive c src = ⟨[], .Decode e, buffers⟩ := by
  rw [receive]
  split
  · rename_i b e' he
    rw [h] at he
    simp at he
  · rename_i b raw' s2 he
    rw [h] at he
    obtain ⟨rfl, heq⟩ := Prod.mk.inj he
    obtain ⟨rfl, rfl⟩ := Prod.mk.inj (Except.ok.inj heq)
    simp only [hdec]

/-- It does: the loop goes on with the rest of the stream. -/
theorem receive_of_frame {src src' : Source} {buffers : List ℕ} {raw : Bytes} {value : α} {n : ℕ}
    (h : read_frame_buffering src = (buffers, .ok (raw, src')))
    (hdec : decode_frame c raw = .ok (value, n)) :
    receive c src = { receive c src' with values := (value, n) :: (receive c src').values } := by
  rw [receive]
  split
  · rename_i b e' he
    rw [h] at he
    simp at he
  · rename_i b raw' s2 he
    rw [h] at he
    obtain ⟨rfl, heq⟩ := Prod.mk.inj he
    obtain ⟨rfl, rfl⟩ := Prod.mk.inj (Except.ok.inj heq)
    simp only [hdec]

/-- The instrumented loop is the receive loop. -/
theorem receive_eq (src : Source) :
    recv_frames c src = ((receive c src).values, (receive c src).stop) := by
  induction hn : src.flatten.length using Nat.strongRecOn generalizing src with
  | ind n ih =>
      have hread := read_frame_buffering_snd src
      rcases hbuf : read_frame_buffering src with ⟨buffers, e | ⟨raw, src'⟩⟩
      · rw [hbuf] at hread
        rw [receive_of_read c hbuf, recv_frames_of_read c hread.symm]
      · rw [hbuf] at hread
        obtain ⟨hflat, hlen⟩ := read_frame_ok hread.symm
        have hshorter : src'.flatten.length < n := by
          rw [← hn, hflat, List.length_append]
          omega
        cases hdec : decode_frame c raw with
        | error e => rw [receive_of_refused c hbuf hdec, recv_frames_of_refused c hread.symm hdec]
        | ok p =>
            rw [receive_of_frame c hbuf hdec, recv_frames_of_frame c hread.symm hdec,
              ih _ hshorter src' rfl]

/-- The body is all there: `decode_frame` decides as it does on the whole of the
stream. -/
theorem receive_of_whole {src : Source} (h : 4 + announced src.flatten ≤ src.flatten.length) :
    (∀ e, decode_frame c src.flatten = .error e →
      receive c src = ⟨[], .Decode e, [4, announced src.flatten]⟩)
    ∧ ∀ value n, decode_frame c src.flatten = .ok (value, n) →
      ∃ src', src'.flatten = src.flatten.drop n ∧
        receive c src =
          { receive c src' with values := (value, n) :: (receive c src').values } := by
  obtain ⟨src', hread, hrest⟩ := read_frame_buffering_whole h
  refine ⟨?_, ?_⟩
  · intro e he
    exact receive_of_refused c hread ((decode_frame_take c h).trans he)
  · intro value n he
    obtain ⟨-, -, rfl, -⟩ := decode_frame_ok c he
    exact ⟨src', hrest, receive_of_frame c hread ((decode_frame_take c h).trans he)⟩

theorem slice_frames_error {buf : Bytes} {e : CodecError} (h : decode_frame c buf = .error e) :
    slice_frames c buf = ([], e) := by
  rw [slice_frames]
  split
  · rename_i e' he
    rw [h] at he
    rw [Except.error.inj he]
  · rename_i value n he
    rw [h] at he
    simp at he

theorem slice_frames_ok {buf : Bytes} {value : α} {n : ℕ}
    (h : decode_frame c buf = .ok (value, n)) :
    slice_frames c buf =
      ((value, n) :: (slice_frames c (buf.drop n)).1, (slice_frames c (buf.drop n)).2) := by
  rw [slice_frames]
  split
  · rename_i e' he
    rw [h] at he
    simp at he
  · rename_i value' n' he
    rw [h] at he
    obtain ⟨rfl, rfl⟩ := Prod.mk.inj (Except.ok.inj he)
    rfl

/-! ## Where they agree -/

/-- The reason the receive loop has to give where `decode_frame` reports this. -/
def Stop.of_slice : CodecError → Stop
  | .Truncated _ _ => .Read .UnexpectedEof
  | e => .Decode e

/-- The receive loop does what the slice decoder does on the same bytes: the same
values with the same counts, and the same reason for stopping. A frame above the
cap is refused on its header, before its body is buffered. -/
structure StreamsAgree (src : Source) : Prop where
  values : (receive c src).values = (slice_frames c src.flatten).1
  stop : (receive c src).stop = .of_slice (slice_frames c src.flatten).2
  header_only : ∀ len, (slice_frames c src.flatten).2 = .FrameTooLarge len →
    (receive c src).buffers = [4]

/-- What holds of every stream: the values agree, and so does the reason unless it
is the cap, where the body was waited for. -/
structure UpToCap (src : Source) : Prop where
  values : (receive c src).values = (slice_frames c src.flatten).1
  within : (∀ len, (slice_frames c src.flatten).2 ≠ .FrameTooLarge len) →
    (receive c src).stop = .of_slice (slice_frames c src.flatten).2
  above : ∀ len, (slice_frames c src.flatten).2 = .FrameTooLarge len →
    (receive c src).buffers = [4, len]

/-- A stream that ends before its first frame does. -/
theorem up_to_cap_eof {src : Source} {buffers : List ℕ} {needed got : ℕ}
    (hread : read_frame_buffering src = (buffers, .error .UnexpectedEof))
    (hdec : decode_frame c src.flatten = .error (.Truncated needed got)) : UpToCap c src := by
  have hslice := slice_frames_error c hdec
  have hloop := receive_of_read c hread
  refine ⟨?_, ?_, ?_⟩
  · rw [hslice, hloop]
  · intro _
    rw [hslice, hloop]
    rfl
  · intro len h
    rw [hslice] at h
    simp at h

/-- A first header above the cap. Whether the body it announces is there or not,
it was waited for. -/
theorem up_to_cap_oversized {src : Source} (h4 : 4 ≤ src.flatten.length)
    (hcap : MAX_FRAME_BYTES < announced src.flatten) : UpToCap c src := by
  have hdec := decode_frame_oversized c h4 hcap
  have hslice := slice_frames_error c hdec
  obtain ⟨stop, hloop⟩ : ∃ stop, receive c src = ⟨[], stop, [4, announced src.flatten]⟩ := by
    by_cases hall : 4 + announced src.flatten ≤ src.flatten.length
    · exact ⟨_, (receive_of_whole c hall).1 _ hdec⟩
    · exact ⟨_, receive_of_read c (read_frame_buffering_cut h4 (by omega))⟩
  refine ⟨?_, ?_, ?_⟩
  · rw [hslice, hloop]
  · intro h
    rw [hslice] at h
    exact absurd rfl (h _)
  · intro len h
    rw [hslice] at h
    rw [hloop, CodecError.FrameTooLarge.inj h]

/-- A first body that does not decode. -/
theorem up_to_cap_malformed {src : Source} {e : DecodeError}
    (hall : 4 + announced src.flatten ≤ src.flatten.length)
    (hdec : decode_frame c src.flatten = .error (.Decode e)) : UpToCap c src := by
  have hslice := slice_frames_error c hdec
  have hloop := (receive_of_whole c hall).1 _ hdec
  refine ⟨?_, ?_, ?_⟩
  · rw [hslice, hloop]
  · intro _
    rw [hslice, hloop]
    rfl
  · intro len h
    rw [hslice] at h
    simp at h

/-- By the cases of `decode_frame`, frame after frame. -/
theorem up_to_cap (src : Source) : UpToCap c src := by
  induction hn : src.flatten.length using Nat.strongRecOn generalizing src with
  | ind n ih =>
      rcases decode_frame_cases c src.flatten with ⟨h4, hdec⟩ | ⟨h4, hcap, -⟩ | ⟨h4, hall, hdec⟩ |
        ⟨-, hwhole, ⟨e, hdec⟩ | ⟨value, left, -, hframe⟩⟩
      · exact up_to_cap_eof c (read_frame_buffering_short h4) hdec
      · exact up_to_cap_oversized c h4 hcap
      · exact up_to_cap_eof c (read_frame_buffering_cut h4 hall) hdec
      · exact up_to_cap_malformed c hwhole hdec
      · -- one frame, and what is left of the stream is shorter
        obtain ⟨src', hrest, hloop⟩ := (receive_of_whole c hwhole).2 _ _ hframe
        have hslice := slice_frames_ok c hframe
        have hle : src'.flatten.length < n := by
          rw [hrest, ← hn, List.length_drop]
          omega
        obtain ⟨hvalues, hreason, habove⟩ := ih _ hle src' rfl
        rw [← hrest] at hslice
        refine ⟨?_, ?_, ?_⟩
        · rw [hslice, hloop, hvalues]
        · rw [hslice, hloop]
          exact hreason
        · rw [hslice, hloop]
          exact habove

/-! ## Exactly when -/

/-- The bytes of one frame: a header within the cap, a body of as many bytes as it
announces, and a value at the head of the body. -/
structure WholeFrame (raw : Bytes) : Prop where
  header : 4 ≤ raw.length
  capped : announced raw ≤ MAX_FRAME_BYTES
  whole : raw.length = 4 + announced raw
  decodes : ∃ value left, c.decode (raw.drop 4) = .ok (value, left)

/-- After some whole frames comes a header that announces more than the cap. -/
def Oversized (buf : Bytes) : Prop :=
  ∃ (frames : List Bytes) (rest : Bytes), buf = frames.flatten ++ rest
    ∧ (∀ raw ∈ frames, WholeFrame c raw)
    ∧ 4 ≤ rest.length ∧ MAX_FRAME_BYTES < announced rest

/-- The slice decoder passes a whole frame at the head of its buffer. -/
theorem slice_frames_append {raw : Bytes} (h : WholeFrame c raw) (rest : Bytes) :
    (slice_frames c (raw ++ rest)).2 = (slice_frames c rest).2 := by
  obtain ⟨h4, hcap, hlen, value, left, hdec⟩ := h
  have hannounced : announced (raw ++ rest) = announced raw := by
    unfold announced
    rw [List.take_append_of_le_length h4]
  have hbody : body_of (raw ++ rest) = raw.drop 4 := by
    unfold body_of
    rw [hannounced, ← hlen, List.take_left]
  have hall : 4 + announced (raw ++ rest) ≤ (raw ++ rest).length := by
    rw [hannounced, List.length_append]
    omega
  have hframe := decode_frame_whole c (by omega) hall
  rw [hbody, hdec, hannounced, ← hlen] at hframe
  rw [slice_frames_ok c hframe, List.drop_left]

/-- The head that `decode_frame` accepts is a whole frame. -/
theorem whole_frame_of_decode {buf : Bytes} {value : α} {n : ℕ}
    (h : decode_frame c buf = .ok (value, n)) : WholeFrame c (buf.take n) := by
  obtain ⟨hcap, hle, rfl, left, hdec⟩ := decode_frame_ok c h
  have hannounced := announced_take buf
  refine ⟨?_, ?_, ?_, value, left, hdec⟩
  · rw [List.length_take]
    omega
  · rw [hannounced]
    exact hcap
  · rw [hannounced, List.length_take]
    omega

/-- It stops at the cap exactly if the buffer reaches a header above it. -/
theorem slice_oversized_iff (buf : Bytes) :
    (∃ len, (slice_frames c buf).2 = .FrameTooLarge len) ↔ Oversized c buf := by
  constructor
  · induction hn : buf.length using Nat.strongRecOn generalizing buf with
    | ind n ih =>
        rintro ⟨len, h⟩
        cases hframe : decode_frame c buf with
        | error e =>
            rw [slice_frames_error c hframe] at h
            obtain ⟨h4, hcap⟩ := decode_frame_too_large c (hframe.trans (congrArg _ h))
            exact ⟨[], buf, rfl, by simp, h4, hcap⟩
        | ok p =>
            -- the frame goes in front of what the rest of the buffer reaches
            obtain ⟨-, hle, hp, -⟩ := decode_frame_ok c hframe
            rw [slice_frames_ok c hframe] at h
            have hshorter : (buf.drop p.2).length < n := by
              rw [← hn, List.length_drop]
              omega
            obtain ⟨frames, rest, hrest, hframes, h4, hcap⟩ := ih _ hshorter _ rfl ⟨len, h⟩
            refine ⟨buf.take p.2 :: frames, rest, ?_, ?_, h4, hcap⟩
            · rw [List.flatten_cons, List.append_assoc, ← hrest, List.take_append_drop]
            · intro raw hraw
              rcases List.mem_cons.mp hraw with rfl | hraw
              · exact whole_frame_of_decode c hframe
              · exact hframes raw hraw
  · rintro ⟨frames, rest, rfl, hframes, h4, hcap⟩
    induction frames with
    | nil =>
        refine ⟨announced rest, ?_⟩
        rw [List.flatten_nil, List.nil_append,
          slice_frames_error c (decode_frame_oversized c h4 hcap)]
    | cons raw frames ih =>
        rw [List.flatten_cons, List.append_assoc,
          slice_frames_append c (hframes raw List.mem_cons_self)]
        exact ih fun raw hraw => hframes raw (List.mem_cons_of_mem _ hraw)

/-- The two agree exactly if no header above the cap is reached. -/
theorem agree_iff (src : Source) : StreamsAgree c src ↔ ¬ Oversized c src.flatten := by
  obtain ⟨hvalues, hwithin, habove⟩ := up_to_cap c src
  rw [← slice_oversized_iff]
  constructor
  · rintro ⟨-, -, hheader⟩ ⟨len, hlen⟩
    -- the header is not all that was buffered
    have h := (habove len hlen).symm.trans (hheader len hlen)
    simp at h
  · intro h
    exact ⟨hvalues, hwithin fun len hlen => h ⟨len, hlen⟩, fun len hlen => absurd ⟨len, hlen⟩ h⟩

end Loops

section Frames

variable [WgpuTypes]

/-- **Two parsers, one framing.** On a stream of any bytes in any pieces, the
server's receive loop and repeated `decode_frame` yield the same frames and stop
for the same reason, a frame above the cap refused on its header alone, exactly
if no header after whole frames announces more than the cap. -/
theorem streams_agree_iff (src : Source) :
    StreamsAgree Wire.frame src ↔ ¬ Oversized Wire.frame src.flatten :=
  agree_iff Wire.frame src

end Frames

section Examples

attribute [local instance] WgpuTypes.numeric

/-- Four bytes and the end of the stream: the header announces one byte more than
the cap. The loop allocates all of it, and reports the end of the stream. -/
theorem oversized_header_waits :
    receive Wire.frame [[4, 0, 0, 1]] = ⟨[], .Read .UnexpectedEof, [4, 67108865]⟩
      ∧ slice_frames Wire.frame [4, 0, 0, 1] = ([], .FrameTooLarge 67108865)
      ∧ ¬ StreamsAgree Wire.frame [[4, 0, 0, 1]] := by
  have hloop : receive Wire.frame [[4, 0, 0, 1]] = ⟨[], .Read .UnexpectedEof, [4, 67108865]⟩ :=
    receive_of_read _ (read_frame_buffering_cut (by decide) (by decide))
  have hslice : slice_frames Wire.frame [4, 0, 0, 1] = ([], .FrameTooLarge 67108865) :=
    slice_frames_error _ (decode_frame_oversized _ (by decide) (by decide))
  refine ⟨hloop, hslice, ?_⟩
  intro h
  have hstop := h.stop
  rw [hloop, show ([[4, 0, 0, 1]] : Source).flatten = [4, 0, 0, 1] from rfl, hslice] at hstop
  simp [Stop.of_slice] at hstop

end Examples

end WgpuRemote
