/-
`protocol::codec`: length-delimited framing.

A frame on the wire is `[u32 big-endian length][bincode bytes]`. `encode_frame`
and `decode_frame` are the source's two functions, generic in the codec of the
value. The two facts the rest of the development uses are that a frame in front
of anything decodes to its value and its own length (`decode_frame_append`),
and that no strict prefix of a frame decodes to anything
(`decode_frame_of_cut`).
-/
import WgpuRemote.Protocol.Actions

set_option autoImplicit false

namespace WgpuRemote

open Bincode

def MAX_FRAME_BYTES : ℕ := 64 * 1024 * 1024

inductive CodecError where
  | Encode (e : EncodeError)
  | Decode (e : DecodeError)
  | FrameTooLarge (len : ℕ)
  | Truncated (needed got : ℕ)

/-- `u32::to_be_bytes` of a length. -/
def to_be_bytes (n : ℕ) : Bytes := (to_le_bytes 4 n).reverse

/-- `u32::from_be_bytes`. -/
def from_be_bytes (bs : Bytes) : ℕ := from_le_bytes bs.reverse

@[simp] theorem to_be_bytes_length (n : ℕ) : (to_be_bytes n).length = 4 := by
  rw [to_be_bytes, List.length_reverse, to_le_bytes_length]

theorem from_be_bytes_to_be_bytes (n : ℕ) (h : n < 2 ^ 32) :
    from_be_bytes (to_be_bytes n) = n := by
  rw [from_be_bytes, to_be_bytes, List.reverse_reverse]
  exact from_le_bytes_to_le_bytes 4 n (by omega)

/-- A prefix of a frame that is at least four bytes long holds the whole
length prefix. -/
theorem take_four_of_append {n : ℕ} {body p : Bytes} (hp : p <+: to_be_bytes n ++ body)
    (h4 : 4 ≤ p.length) : p.take 4 = to_be_bytes n := by
  obtain ⟨t, ht⟩ := hp
  have happ : (p ++ t).take 4 = p.take 4 := List.take_append_of_le_length h4
  rw [ht, List.take_left' (to_be_bytes_length n)] at happ
  exact happ.symm

/-- The length a header announces. -/
def announced (buf : Bytes) : ℕ := from_be_bytes (buf.take 4)

/-- The head of a buffer up to the end of its first frame has the same header. -/
theorem announced_take (buf : Bytes) :
    announced (buf.take (4 + announced buf)) = announced buf := by
  have htake : (buf.take (4 + announced buf)).take 4 = buf.take 4 := by
    rw [List.take_take, Nat.min_eq_left (by omega)]
  exact congrArg from_be_bytes htake

section Framing

variable {α : Type} (c : Codec α)

/-- Serialize `value` and prepend a 4-byte big-endian length. -/
def encode_frame (value : α) : Except CodecError Bytes :=
  match c.encode value with
  | .error e => .error (.Encode e)
  | .ok body =>
      if MAX_FRAME_BYTES < body.length then .error (.FrameTooLarge body.length)
      else .ok (to_be_bytes body.length ++ body)

/-- Decode one length-prefixed frame from the head of `buf`: the value and the
number of bytes consumed. The bytes of the body the value does not use are
dropped with it. -/
def decode_frame (buf : Bytes) : Except CodecError (α × ℕ) :=
  if buf.length < 4 then .error (.Truncated 4 buf.length)
  else
    let len := from_be_bytes (buf.take 4)
    if MAX_FRAME_BYTES < len then .error (.FrameTooLarge len)
    else
      let total := 4 + len
      if buf.length < total then .error (.Truncated total buf.length)
      else
        match c.decode ((buf.take total).drop 4) with
        | .error e => .error (.Decode e)
        | .ok (value, _) => .ok (value, total)

/-! ## The shape of an encoded frame -/

/-- An encoded frame is the length of a body within the cap, then the body,
and the body is the value's encoding. -/
theorem encode_frame_ok {value : α} {bs : Bytes} (h : encode_frame c value = .ok bs) :
    ∃ body, c.encode value = .ok body ∧ body.length ≤ MAX_FRAME_BYTES
      ∧ bs = to_be_bytes body.length ++ body := by
  unfold encode_frame at h
  cases hb : c.encode value with
  | error e => simp only [hb, reduceCtorEq] at h
  | ok body =>
      simp only [hb] at h
      by_cases hle : MAX_FRAME_BYTES < body.length
      · simp only [if_pos hle, reduceCtorEq] at h
      · simp only [if_neg hle, Except.ok.injEq] at h
        exact ⟨body, rfl, by omega, h.symm⟩

/-- And a value whose encoding is within the cap has its frame. -/
theorem encode_frame_of_body {value : α} {body : Bytes} (hbody : c.encode value = .ok body)
    (hcap : body.length ≤ MAX_FRAME_BYTES) :
    encode_frame c value = .ok (to_be_bytes body.length ++ body) := by
  unfold encode_frame
  rw [hbody]
  exact if_neg (by omega)

/-- The length prefix of a body within the cap reads back as its length. -/
theorem from_be_bytes_header {body : Bytes} (h : body.length ≤ MAX_FRAME_BYTES) :
    from_be_bytes (to_be_bytes body.length) = body.length := by
  refine from_be_bytes_to_be_bytes _ ?_
  have : MAX_FRAME_BYTES < 2 ^ 32 := by decide
  omega

/-! ## What `decode_frame` sees of a header -/

theorem decode_frame_short {buf : Bytes} (h : buf.length < 4) :
    decode_frame c buf = .error (.Truncated 4 buf.length) := by
  unfold decode_frame
  rw [if_pos h]

theorem decode_frame_oversized {buf : Bytes} (h4 : 4 ≤ buf.length)
    (h : MAX_FRAME_BYTES < announced buf) :
    decode_frame c buf = .error (.FrameTooLarge (announced buf)) := by
  unfold announced at h
  unfold decode_frame
  rw [if_neg (by omega)]
  dsimp only
  rw [if_pos h]
  rfl

theorem decode_frame_cut {buf : Bytes} (h4 : 4 ≤ buf.length)
    (hcap : announced buf ≤ MAX_FRAME_BYTES) (h : buf.length < 4 + announced buf) :
    decode_frame c buf = .error (.Truncated (4 + announced buf) buf.length) := by
  unfold announced at hcap h
  unfold decode_frame
  rw [if_neg (by omega)]
  dsimp only
  rw [if_neg (by omega), if_pos h]
  rfl

/-- The bytes between the header and the end of the frame it announces. -/
def body_of (buf : Bytes) : Bytes := (buf.take (4 + announced buf)).drop 4

/-- With header and body there, the body alone decides. -/
theorem decode_frame_whole {buf : Bytes} (hcap : announced buf ≤ MAX_FRAME_BYTES)
    (h : 4 + announced buf ≤ buf.length) :
    decode_frame c buf =
      ((c.decode (body_of buf)).mapError .Decode).map fun p => (p.1, 4 + announced buf) := by
  unfold body_of announced at *
  unfold decode_frame
  rw [if_neg (by omega)]
  dsimp only
  rw [if_neg (by omega), if_neg (by omega)]
  cases c.decode ((buf.take (4 + from_be_bytes (buf.take 4))).drop 4) with
  | error e => rfl
  | ok p => rfl

/-- Which is why the bytes after the body do not count. -/
theorem decode_frame_take {buf : Bytes} (h : 4 + announced buf ≤ buf.length) :
    decode_frame c (buf.take (4 + announced buf)) = decode_frame c buf := by
  have hannounced := announced_take buf
  have hbody : body_of (buf.take (4 + announced buf)) = body_of buf := by
    unfold body_of
    rw [hannounced, List.take_take, Nat.min_self]
  have hlen : (buf.take (4 + announced buf)).length = 4 + announced buf := by
    rw [List.length_take, Nat.min_eq_left h]
  by_cases hcap : announced buf ≤ MAX_FRAME_BYTES
  · rw [decode_frame_whole c (by omega) (by omega), decode_frame_whole c hcap h, hbody, hannounced]
  · rw [decode_frame_oversized c (by omega) (by omega),
      decode_frame_oversized c (by omega) (by omega), hannounced]

/-- What `decode_frame` can do, in the order it checks. -/
theorem decode_frame_cases (buf : Bytes) :
    (buf.length < 4 ∧ decode_frame c buf = .error (.Truncated 4 buf.length))
      ∨ (4 ≤ buf.length ∧ MAX_FRAME_BYTES < announced buf
        ∧ decode_frame c buf = .error (.FrameTooLarge (announced buf)))
      ∨ (4 ≤ buf.length ∧ buf.length < 4 + announced buf
        ∧ decode_frame c buf = .error (.Truncated (4 + announced buf) buf.length))
      ∨ (announced buf ≤ MAX_FRAME_BYTES ∧ 4 + announced buf ≤ buf.length
        ∧ ((∃ e, decode_frame c buf = .error (.Decode e))
          ∨ ∃ value left, c.decode (body_of buf) = .ok (value, left)
            ∧ decode_frame c buf = .ok (value, 4 + announced buf))) := by
  by_cases h4 : buf.length < 4
  · exact Or.inl ⟨h4, decode_frame_short c h4⟩
  by_cases hcap : MAX_FRAME_BYTES < announced buf
  · exact Or.inr (Or.inl ⟨by omega, hcap, decode_frame_oversized c (by omega) hcap⟩)
  by_cases hall : buf.length < 4 + announced buf
  · exact Or.inr (Or.inr (Or.inl
      ⟨by omega, hall, decode_frame_cut c (by omega) (by omega) hall⟩))
  have hcap' : announced buf ≤ MAX_FRAME_BYTES := by omega
  -- a whole frame within the cap: what the body decodes to decides
  have hwhole := decode_frame_whole c hcap' (by omega)
  refine Or.inr (Or.inr (Or.inr ⟨hcap', by omega, ?_⟩))
  cases hdec : c.decode (body_of buf) with
  | error e =>
      rw [hdec] at hwhole
      exact Or.inl ⟨e, hwhole⟩
  | ok p =>
      rw [hdec] at hwhole
      exact Or.inr ⟨p.1, p.2, rfl, hwhole⟩

/-- What `decode_frame` accepts is a header within the cap and the body it
announces, and it consumes both. -/
theorem decode_frame_ok {buf : Bytes} {value : α} {n : ℕ}
    (h : decode_frame c buf = .ok (value, n)) :
    announced buf ≤ MAX_FRAME_BYTES ∧ 4 + announced buf ≤ buf.length ∧ n = 4 + announced buf
      ∧ ∃ left, c.decode (body_of buf) = .ok (value, left) := by
  rcases decode_frame_cases c buf with ⟨-, hdec⟩ | ⟨-, -, hdec⟩ | ⟨-, -, hdec⟩ |
    ⟨hcap, hwhole, ⟨e, hdec⟩ | ⟨value', left, hbody, hdec⟩⟩
  -- in all cases but the last it fails
  iterate 4
    rw [hdec] at h
    simp at h
  · rw [hdec] at h
    obtain ⟨rfl, rfl⟩ := Prod.mk.inj (Except.ok.inj h)
    exact ⟨hcap, hwhole, rfl, left, hbody⟩

/-- Only a header above the cap is refused for its size. -/
theorem decode_frame_too_large {buf : Bytes} {len : ℕ}
    (h : decode_frame c buf = .error (.FrameTooLarge len)) :
    4 ≤ buf.length ∧ MAX_FRAME_BYTES < announced buf := by
  rcases decode_frame_cases c buf with ⟨-, hdec⟩ | ⟨h4, hcap, -⟩ | ⟨-, -, hdec⟩ |
    ⟨-, -, ⟨e, hdec⟩ | ⟨value, left, -, hdec⟩⟩
  · rw [hdec] at h
    simp at h
  · exact ⟨h4, hcap⟩
  iterate 3
    rw [hdec] at h
    simp at h

/-! ## Decoding what was encoded -/

/-- A body behind its length prefix is decoded on its own, whatever comes after
it and whatever it leaves. -/
theorem decode_frame_body {body : Bytes} (h : body.length ≤ MAX_FRAME_BYTES) (rest : Bytes) :
    decode_frame c (to_be_bytes body.length ++ body ++ rest) =
      match c.decode body with
      | .error e => .error (.Decode e)
      | .ok (value, _) => .ok (value, 4 + body.length) := by
  have hlen : (to_be_bytes body.length ++ body ++ rest).length = 4 + body.length + rest.length := by
    simp only [List.length_append, to_be_bytes_length]
  have hannounced : announced (to_be_bytes body.length ++ body ++ rest) = body.length := by
    unfold announced
    rw [List.append_assoc, List.take_left' (to_be_bytes_length _), from_be_bytes_header h]
  have hbody : body_of (to_be_bytes body.length ++ body ++ rest) = body := by
    unfold body_of
    rw [hannounced, List.take_left' (by simp only [List.length_append, to_be_bytes_length]),
      List.drop_left' (to_be_bytes_length _)]
  rw [decode_frame_whole c (by omega) (by omega), hbody, hannounced]
  cases c.decode body with
  | error e => rfl
  | ok p => rfl

/-- A frame at the head of a buffer decodes to its value and consumes exactly
its own bytes. -/
theorem decode_frame_append {value : α} {bs : Bytes} (h : encode_frame c value = .ok bs)
    (rest : Bytes) : decode_frame c (bs ++ rest) = .ok (value, bs.length) := by
  obtain ⟨body, hbody, hcap, rfl⟩ := encode_frame_ok c h
  have hdec := c.decode_encode value body [] hbody
  rw [List.append_nil] at hdec
  rw [decode_frame_body c hcap, hdec]
  simp only [List.length_append, to_be_bytes_length]

/-- A frame on its own decodes to its value. -/
theorem decode_frame_encode_frame {value : α} {bs : Bytes} (h : encode_frame c value = .ok bs) :
    decode_frame c bs = .ok (value, bs.length) := by
  have := decode_frame_append c h []
  rwa [List.append_nil] at this

/-- Two values with the same frame are equal. -/
theorem encode_frame_inj {v w : α} {bs : Bytes} (hv : encode_frame c v = .ok bs)
    (hw : encode_frame c w = .ok bs) : v = w := by
  have h1 := decode_frame_encode_frame c hv
  rw [decode_frame_encode_frame c hw] at h1
  simpa using h1.symm

/-- No value comes out of part of a frame: a strict prefix is reported as
truncated, with more bytes needed than there are. -/
theorem decode_frame_of_cut {value : α} {bs p : Bytes} (h : encode_frame c value = .ok bs)
    (hp : p <+: bs) (hne : p ≠ bs) :
    ∃ needed got, decode_frame c p = .error (.Truncated needed got) ∧ got < needed := by
  obtain ⟨body, -, hcap, rfl⟩ := encode_frame_ok c h
  have hlt : p.length < 4 + body.length := by
    have hle := hp.length_le
    have hneq : p.length ≠ (to_be_bytes body.length ++ body).length :=
      fun heq => hne (hp.eq_of_length heq)
    simp only [List.length_append, to_be_bytes_length] at hle hneq
    omega
  by_cases h4 : p.length < 4
  · exact ⟨4, p.length, decode_frame_short c h4, h4⟩
  · have hannounced : announced p = body.length := by
      unfold announced
      rw [take_four_of_append hp (by omega), from_be_bytes_header hcap]
    rw [← hannounced] at hcap hlt
    exact ⟨4 + announced p, p.length, decode_frame_cut c (by omega) hcap hlt, hlt⟩

end Framing

section Frames

variable [WgpuTypes]

/-- A request is the tag of its id, the id, and its action. -/
theorem frame_encode_ok {request_id : UInt64} {action : Action} {body : Bytes} :
    Wire.frame.encode ⟨some ⟨request_id⟩, action⟩ = .ok body ↔
      ∃ x, Wire.action.encode action = .ok x ∧
        body = 1 :: (varint_encode request_id.toNat ++ x) := by
  constructor
  · intro h
    obtain ⟨id, hid, h⟩ := bind_eq_ok.mp h
    obtain ⟨id', hid', hid⟩ := bind_eq_ok.mp hid
    obtain ⟨x, hx, h⟩ := bind_eq_ok.mp h
    refine ⟨x, hx, ?_⟩
    rw [← Except.ok.inj h, ← Except.ok.inj hid, ← Except.ok.inj hid']
    rfl
  · rintro ⟨x, hx, rfl⟩
    exact bind_eq_ok.mpr ⟨1 :: varint_encode request_id.toNat, rfl, bind_eq_ok.mpr ⟨x, hx, rfl⟩⟩

/-- When only the size can be in the way, a request has a frame exactly if it is
within the cap. -/
theorem frame_encodes_iff {action : Action} {size : ℕ}
    (hsize : ∀ x, Wire.action.encode action = .ok x → x.length = size)
    (hencodes : size ≤ MAX_FRAME_BYTES → ∃ x, Wire.action.encode action = .ok x)
    (request_id : UInt64) :
    (∃ bytes, encode_frame Wire.frame ⟨some ⟨request_id⟩, action⟩ = .ok bytes) ↔
      1 + (varint_encode request_id.toNat).length + size ≤ MAX_FRAME_BYTES := by
  -- the presence byte, the id and the action
  have hlength : ∀ x, Wire.action.encode action = .ok x →
      (1 :: (varint_encode request_id.toNat ++ x)).length =
        1 + (varint_encode request_id.toNat).length + size := by
    intro x hx
    rw [List.length_cons, List.length_append, hsize x hx]
    omega
  constructor
  · rintro ⟨bytes, h⟩
    obtain ⟨body, hbody, hcap, -⟩ := encode_frame_ok _ h
    obtain ⟨x, hx, rfl⟩ := frame_encode_ok.mp hbody
    rw [← hlength x hx]
    exact hcap
  · intro h
    obtain ⟨x, hx⟩ := hencodes (by omega)
    refine ⟨_, encode_frame_of_body _ (frame_encode_ok.mpr ⟨x, hx, rfl⟩) ?_⟩
    rw [hlength x hx]
    exact h

end Frames

end WgpuRemote
