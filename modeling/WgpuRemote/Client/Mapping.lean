/-
The drop-in's `Buffer`: what it holds while it is mapped.

The state is one slot. A readback puts the bytes it fetched there, a buffer
mapped at creation starts with a zeroed staging there, `get_mapped_range` cuts
windows out of it, and `unmap` empties it. The readback's bytes come from the
facade's `read_range`, which turns a range into an offset and a size.
-/
import WgpuRemote.Client.Handles
import WgpuRemote.Client.Mux
import WgpuRemote.Lib.Overlay

set_option autoImplicit false

namespace WgpuRemote.Client

open Bincode
open Overlay (view overwrite)

/-! ## Ranges -/

/-- `std::ops::Bound<u64>`. -/
inductive Bound where
  | Included (n : UInt64)
  | Excluded (n : UInt64)
  | Unbounded

/-- The release build's `n + 1` wraps. -/
def bounds_to_offset_size (start_bound end_bound : Bound) (total : UInt64) : UInt64 × UInt64 :=
  let start := match start_bound with
    | .Included n => n
    | .Excluded n => n + 1
    | .Unbounded => 0
  let stop := match end_bound with
    | .Included n => n + 1
    | .Excluded n => n
    | .Unbounded => total
  (start, saturating_sub stop start)

/-- `std::ops::Range<BufferAddress>`. -/
structure AddressRange where
  start : BufferAddress
  stop : BufferAddress

def AddressRange.start_bound (r : AddressRange) : Bound := .Included r.start

def AddressRange.end_bound (r : AddressRange) : Bound := .Excluded r.stop

/-- A range is its start, and the size up to its end. -/
theorem bounds_of_range {r : AddressRange} (h : r.start ≤ r.stop) (total : UInt64) :
    bounds_to_offset_size r.start_bound r.end_bound total = (r.start, r.stop - r.start) := by
  show (r.start, saturating_sub r.stop r.start) = _
  rw [saturating_sub, if_pos h]

/-! ## The slot -/

/-- What a mapped buffer is currently holding. -/
inductive MapState where
  /-- The bytes fetched from the server. -/
  | Read (bytes : Bytes)
  /-- A local staging the caller writes into. -/
  | Write (staging : Bytes)

/-- The drop-in's `Buffer`. -/
structure DropinBuffer where
  facade : Handle .Buffer
  mapped : Option MapState

/-- What `get_mapped_range` hands out. -/
inductive BufferMappedRange where
  | Read (bytes : Bytes)
  /-- A copy of part of the staging, from `offset` on. -/
  | Write (owned : Bytes) (offset : ℕ)

namespace DropinBuffer

/-- `Buffer::new`. -/
def new (facade : Handle .Buffer) : DropinBuffer := ⟨facade, none⟩

/-- `Buffer::new_mapped_at_creation`. -/
def new_mapped_at_creation (facade : Handle .Buffer) (size : UInt64) : DropinBuffer :=
  ⟨facade, some (.Write (List.replicate size.toNat 0))⟩

end DropinBuffer

/-- `bytes[start..end]`; out of bounds it panics. -/
def slice (bytes : Bytes) (start stop : ℕ) : Option Bytes :=
  if start ≤ stop ∧ stop ≤ bytes.length then some (view bytes start stop) else none

/-- `get_mapped_range`; `none` is a panic. -/
def DropinBuffer.get_mapped_range (b : DropinBuffer) (sub_range : AddressRange) :
    Option BufferMappedRange :=
  let start := sub_range.start.toNat
  let stop := sub_range.stop.toNat
  match b.mapped with
  | none => none
  | some (.Read bytes) => (slice bytes start stop).map .Read
  | some (.Write vec) => (slice vec start stop).map fun owned => .Write owned start

/-- The bytes behind a range. -/
def BufferMappedRange.slice : BufferMappedRange → Bytes
  | .Read bytes => bytes
  | .Write owned _ => owned

/-- The caller writes into the bytes behind a range, from `pos` on; past their
end it panics, and so does `slice_mut` on a read range. -/
def BufferMappedRange.write (r : BufferMappedRange) (pos : ℕ) (data : Bytes) :
    Option BufferMappedRange :=
  match r with
  | .Write owned offset =>
      if pos + data.length ≤ owned.length then some (.Write (overwrite owned pos data) offset)
      else none
  | .Read _ => none

/-- `Drop` of a range: a write range folds its copy back into the staging. -/
def DropinBuffer.drop_range (b : DropinBuffer) (r : BufferMappedRange) : DropinBuffer :=
  match r, b.mapped with
  | .Write owned offset, some (.Write vec) =>
      if offset + owned.length ≤ vec.length then
        { b with mapped := some (.Write (overwrite vec offset owned)) }
      else b
  | _, _ => b

/-- A window of bytes is cut out exactly if it is in bounds. -/
theorem slice_eq_some {bytes out : Bytes} {start stop : ℕ} :
    slice bytes start stop = some out ↔
      (start ≤ stop ∧ stop ≤ bytes.length) ∧ out = view bytes start stop := by
  unfold slice
  by_cases h : start ≤ stop ∧ stop ≤ bytes.length
  · rw [if_pos h]
    exact ⟨fun heq => ⟨h, (Option.some.inj heq).symm⟩, fun heq => by rw [heq.2]⟩
  · rw [if_neg h]
    exact ⟨fun heq => absurd heq (by simp), fun heq => absurd heq.1 h⟩

/-! ## Maps -/

/-- `wgpu::BufferAsyncError`. -/
structure BufferAsyncError where

/-- The errors of `read_range`. -/
inductive ReadError where
  | Request (e : ClientError)
  | ServerError (code : ErrorCode) (message : String)

/-- The task of `map_async` once the readback has ended: the slot is filled, and
the callback called with the outcome. -/
def DropinBuffer.finish_map (b : DropinBuffer) (result : Except ReadError Bytes) :
    DropinBuffer × Except BufferAsyncError Unit :=
  match result with
  | .ok bytes => ({ b with mapped := some (.Read bytes) }, .ok ())
  | .error _ => (b, .error ⟨⟩)

/-- A map completes with success exactly when the readback brings bytes, and
then it holds them. -/
theorem finish_map_ok {b : DropinBuffer} {result : Except ReadError Bytes}
    (h : (b.finish_map result).2 = .ok ()) :
    ∃ bytes, result = .ok bytes ∧ (b.finish_map result).1 = ⟨b.facade, some (.Read bytes)⟩ := by
  rcases result with e | bytes
  · exact absurd h (by simp [DropinBuffer.finish_map])
  · exact ⟨bytes, rfl, rfl⟩

/-- `{:?}` of the responses `read_range` does not expect. -/
def debug : Response → String
  | .HelloAck protocol_version => s!"HelloAck \x7b protocol_version: {protocol_version} \x7d"
  | .Ok => "Ok"
  | .BufferData _ => "BufferData"
  | .SubmissionComplete fence_value => s!"SubmissionComplete \x7b fence_value: {fence_value} \x7d"
  | .Error _ _ => "Error"

section Calls

variable [WgpuTypes]

/-- The facade's `Buffer::read_range`, on a client whose `request` is given. -/
def Handle.read_range (b : Handle .Buffer) (request : Action → Except ClientError Response)
    (start_bound end_bound : Bound) : Except ReadError Bytes :=
  let (offset, size) := bounds_to_offset_size start_bound end_bound b.size
  match request (.MapBufferForRead b.id offset size) with
  | .error e => .error (.Request e)
  | .ok (.BufferData data) => .ok data
  | .ok (.Error code message) => .error (.ServerError code message)
  | .ok other => .error (.ServerError .Internal s!"expected BufferData, got {debug other}")

/-- The readback brings the bytes of a `BufferData`, and nothing else. -/
theorem read_range_ok {b : Handle .Buffer} {request : Action → Except ClientError Response}
    {start_bound end_bound : Bound} {bytes : Bytes}
    (h : b.read_range request start_bound end_bound = .ok bytes) :
    request (.MapBufferForRead b.id (bounds_to_offset_size start_bound end_bound b.size).1
      (bounds_to_offset_size start_bound end_bound b.size).2) = .ok (.BufferData bytes) := by
  unfold Handle.read_range at h
  dsimp only at h
  split at h
  · exact absurd h (by simp)
  · rename_i data hdata
    rw [hdata, Except.ok.inj h]
  · exact absurd h (by simp)
  · exact absurd h (by simp)

/-- The facade's `Buffer::write_range`. -/
def Handle.write_range (b : Handle .Buffer) (client : Mux) (offset : UInt64) (data : Bytes) : Mux :=
  client.send_action (.WriteBuffer b.id offset data)

namespace DropinBuffer

/-- `map_async`, with its task run to the end. The mode is ignored. -/
def map_async (b : DropinBuffer) (request : Action → Except ClientError Response)
    (range : AddressRange) : DropinBuffer × Except BufferAsyncError Unit :=
  b.finish_map (b.facade.read_range request range.start_bound range.end_bound)

/-- `unmap`: the slot is emptied, and what a staging held is shipped. -/
def unmap (b : DropinBuffer) (client : Mux) : DropinBuffer × Mux :=
  match b.mapped with
  | some (.Write data) => ({ b with mapped := none }, b.facade.write_range client 0 data)
  | some (.Read _) | none => ({ b with mapped := none }, client)

end DropinBuffer

end Calls

end WgpuRemote.Client
