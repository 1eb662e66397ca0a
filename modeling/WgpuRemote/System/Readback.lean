/-
A read map of the drop-in, down to the server's buffer and back.

`map_async(a..b)` asks the server for offset `a` and size `b - a`, the server
shows `a..a + (b - a)` of the buffer, and the reply is cached as it comes.
`get_mapped_range(c..d)` then cuts `c..d` out of the cache, which starts at
`a`: what it shows is `a + c..a + d` of the buffer, if the cache is that long.
-/
import WgpuRemote.Client.Mapping
import WgpuRemote.Server.Contract

set_option autoImplicit false

namespace WgpuRemote

open Bincode Client Server
open Overlay (view view_view view_length_of_le)
open Wgpu (Gpu Obj)

namespace Readback

section Readback

variable [WgpuTypes]

/-! ## A request, served -/

/-- A `request` that the engine serves while the stream stays up. Both frames
decode to what was encoded, so only the two encodings show: the client's own
error, and a response that is longer than a frame, which ends the stream. -/
def served (gpu : Gpu) (e : Engine) (rid : RequestId) (action : Action) :
    Except ClientError Response :=
  match encode_frame Wire.frame ⟨some rid, action⟩ with
  | .error e => .error (.Codec e)
  | .ok _ =>
      match (e.dispatch gpu ⟨some rid, action⟩).1 with
      | none => .error .ConnectionClosed
      | some frame =>
          match encode_frame Wire.response_frame frame with
          | .error _ => .error .ConnectionClosed
          | .ok _ => .ok frame.response

/-- A request that is served has the engine's own answer. -/
theorem served_ok {gpu : Gpu} {e : Engine} {rid : RequestId} {action : Action} {r : Response}
    (h : served gpu e rid action = .ok r) : (e.handle gpu action).1 = some r := by
  unfold served at h
  split at h
  · exact absurd h (by simp)
  · rw [dispatch_eq] at h
    rcases hr : (e.handle gpu action).1 with _ | resp
    · rw [hr] at h
      exact absurd h (by simp)
    · rw [hr] at h
      dsimp only [Option.map_some] at h
      split at h
      · exact absurd h (by simp)
      · rw [Except.ok.inj h]

/-! ## What the server holds -/

/-- The server's buffer under an id holds `content`: the view of a range of it
shows that range. -/
def Holds (gpu : Gpu) (e : Engine) (id : BufferId) (content : Bytes) : Prop :=
  ∃ obj : Obj .Buffer, lookup e.tables id = .ok obj ∧
    ∀ occ (start stop : BufferAddress), start ≤ stop → stop.toNat ≤ content.length →
      gpu.mapped_bytes e.log occ ⟨obj, start, some stop⟩ = view content start.toNat stop.toNat

/-- A readback that brings data brings the range it asked for. -/
theorem read_brings {gpu : Gpu} {e : Engine} {id : BufferId} {content data : Bytes}
    {offset size : BufferAddress} (hholds : Holds gpu e id content) (hle : offset ≤ offset + size)
    (hstop : (offset + size).toNat ≤ content.length)
    (h : (e.handle gpu (.MapBufferForRead id offset size)).1 = some (.BufferData data)) :
    data = view content offset.toNat (offset + size).toNat := by
  obtain ⟨obj, hobj, hshows⟩ := hholds
  have hread := exec_read_buffer gpu e hobj offset size
  rcases hexec : Dispatch.exec (e.reply gpu) e.dispatched
    (handle_arm (.MapBufferForRead id offset size)) ⟨e.tables, []⟩ with ⟨r, m⟩
  change (Dispatch.exec _ _ (handle_arm (.MapBufferForRead id offset size)) _).1 = _ at hread
  rw [hexec] at hread
  rw [handle_eq gpu e _ hexec, show r = _ from hread] at h
  have hdata : read_response gpu e.log e.dispatched ⟨obj, offset, some (offset + size)⟩ =
      .BufferData data := Option.some.inj h
  unfold read_response at hdata
  split at hdata
  · rw [← Response.BufferData.inj hdata]
    exact hshows _ offset (offset + size) hle hstop
  · exact absurd hdata (by simp)
  · exact absurd hdata (by simp)

/-! ## The map -/

/-- What a completed map caches: the bytes of its range. -/
theorem map_caches {gpu : Gpu} {e : Engine} {rid : RequestId} {b : DropinBuffer} {content : Bytes}
    {range : AddressRange} (hholds : Holds gpu e b.facade.id content) (hle : range.start ≤ range.stop)
    (hstop : range.stop.toNat ≤ content.length)
    (h : (b.map_async (served gpu e rid) range).2 = .ok ()) :
    (b.map_async (served gpu e rid) range).1 =
      ⟨b.facade, some (.Read (view content range.start.toNat range.stop.toNat))⟩ := by
  obtain ⟨data, hdata, hmapped⟩ := finish_map_ok h
  have hread := served_ok (read_range_ok hdata)
  rw [bounds_of_range hle] at hread
  -- the size is added to the offset again, and that is the end of the range
  have hend : range.start + (range.stop - range.start) = range.stop := by
    rw [UInt64.add_comm, UInt64.sub_add_cancel]
  have hbrings := read_brings hholds (by rw [hend]; exact hle) (by rw [hend]; exact hstop) hread
  rw [hend] at hbrings
  rw [← hbrings]
  exact hmapped

/-- `get_mapped_range` shows `sub_range` of the buffer. -/
def Shows (b : DropinBuffer) (content : Bytes) (sub_range : AddressRange) : Prop :=
  ∃ r, b.get_mapped_range sub_range = some r ∧
    r.slice = view content sub_range.start.toNat sub_range.stop.toNat

/-- The map starts at 0, or the sub-range shifted by the map's start is within
the map and happens to hold the same bytes. -/
def Unshifted (content : Bytes) (range sub_range : AddressRange) : Prop :=
  range.start = 0 ∨
    (range.start.toNat + sub_range.stop.toNat ≤ range.stop.toNat ∧
      view content sub_range.start.toNat sub_range.stop.toNat =
        view content (range.start.toNat + sub_range.start.toNat)
          (range.start.toNat + sub_range.stop.toNat))

/-- **A read map shows its range exactly if it starts at 0**, or by coincidence. -/
theorem shows_iff_unshifted (gpu : Gpu) (e : Engine) (rid : RequestId) (b : DropinBuffer)
    (content : Bytes) (range sub_range : AddressRange)
    (hholds : Holds gpu e b.facade.id content) (hsize : content.length = b.facade.size.toNat)
    (hrange : range.start < range.stop) (hstop : range.stop ≤ b.facade.size)
    (hsub : sub_range.start ≤ sub_range.stop) (hsub_stop : sub_range.stop ≤ range.stop)
    (hcompleted : (b.map_async (served gpu e rid) range).2 = .ok ()) :
    Shows (b.map_async (served gpu e rid) range).1 content sub_range ↔
      Unshifted content range sub_range := by
  rw [UInt64.le_iff_toNat_le] at hstop hsub hsub_stop
  rw [UInt64.lt_iff_toNat_lt] at hrange
  have hcache := map_caches hholds (UInt64.le_iff_toNat_le.mpr (by omega)) (by omega) hcompleted
  have hlen : (view content range.start.toNat range.stop.toNat).length =
      range.stop.toNat - range.start.toNat := view_length_of_le (by omega)
  rw [hcache]
  unfold Shows Unshifted DropinBuffer.get_mapped_range
  dsimp only
  by_cases hfit : range.start.toNat + sub_range.stop.toNat ≤ range.stop.toNat
  · -- the cache is long enough: what is shown is further on by the map's start
    have hslice := slice_eq_some.mpr
      ⟨⟨hsub, (by rw [hlen]; omega : sub_range.stop.toNat ≤ _)⟩, rfl⟩
    rw [hslice, view_view _ _ _ _ _ hfit]
    constructor
    · rintro ⟨r, hr, hview⟩
      rw [← Option.some.inj hr] at hview
      exact Or.inr ⟨hfit, hview.symm⟩
    · rintro (hzero | ⟨-, hview⟩)
      · refine ⟨_, rfl, ?_⟩
        rw [hzero]
        show view content (0 + _) (0 + _) = _
        rw [Nat.zero_add, Nat.zero_add]
      · exact ⟨_, rfl, hview.symm⟩
  · -- the cache ends before the sub-range does
    have hslice : Client.slice (view content range.start.toNat range.stop.toNat) sub_range.start.toNat
        sub_range.stop.toNat = none := by
      unfold Client.slice
      rw [if_neg (by rw [hlen]; omega)]
    rw [hslice]
    constructor
    · rintro ⟨r, hr, -⟩
      exact absurd hr (by simp)
    · rintro (hzero | ⟨hle, -⟩)
      · rw [hzero] at hfit
        exact absurd (show 0 + sub_range.stop.toNat ≤ range.stop.toNat by omega) hfit
      · exact absurd hle hfit

end Readback

/-! ## A buffer that counts its bytes -/

section Runs

attribute [local instance] WgpuTypes.numeric

/-- 0, 1, 2, .., `n - 1`. -/
def ramp (n : ℕ) : Bytes := (List.range n).map UInt8.ofNat

/-- Every buffer holds a ramp. A map succeeds if its offset is a multiple of 8 and
its size one of 4, as wgpu wants them. -/
def ramp_gpu (n : ℕ) : Gpu where
  map_result _ _ s :=
    if s.start % 8 = 0 ∧ s.stop.all (fun stop => (stop - s.start) % 4 = 0) then .Ok else .Err
  mapped_bytes _ _ s := view (ramp n) s.start.toNat ((s.stop.map UInt64.toNat).getD n)

/-- The engine that has made a buffer of `n` bytes. -/
def ramp_engine (n : ℕ) : Engine :=
  (Engine.new.dispatch (ramp_gpu n)
    ⟨none, .CreateBuffer ⟨1⟩ ⟨none, UInt64.ofNat n, (9 : UInt32), false⟩⟩).2

/-- The client's buffer. -/
def ramp_buffer (n : ℕ) : DropinBuffer := .new ⟨⟨1⟩, UInt64.ofNat n⟩

/-- The buffer, mapped over `range`. -/
def mapped (n : ℕ) (range : AddressRange) : DropinBuffer × Except BufferAsyncError Unit :=
  (ramp_buffer n).map_async (served (ramp_gpu n) (ramp_engine n) ⟨1⟩) range

theorem holds_ramp (n : ℕ) : Holds (ramp_gpu n) (ramp_engine n) ⟨1⟩ (ramp n) :=
  ⟨⟨⟨0, 0⟩⟩, rfl, fun _ _ _ _ _ => rfl⟩

/-- A window of a map of the whole buffer. -/
theorem whole_map_shows : (mapped 16 ⟨0, 16⟩).2 = .ok () ∧
    Shows (mapped 16 ⟨0, 16⟩).1 (ramp 16) ⟨8, 16⟩ :=
  ⟨rfl, (shows_iff_unshifted (ramp_gpu 16) (ramp_engine 16) ⟨1⟩ (ramp_buffer 16) _ ⟨0, 16⟩ ⟨8, 16⟩
    (holds_ramp 16) rfl (by decide) (by decide) (by decide) (by decide) rfl).mpr (Or.inl rfl)⟩

/-- **The second half cannot be looked at**: its cache has eight bytes, and
`get_mapped_range` cuts from the eighth to the sixteenth. -/
theorem second_half_panics : Holds (ramp_gpu 16) (ramp_engine 16) ⟨1⟩ (ramp 16) ∧
    (mapped 16 ⟨8, 16⟩).2 = .ok () ∧ (mapped 16 ⟨8, 16⟩).1.get_mapped_range ⟨8, 16⟩ = none ∧
    ¬ Shows (mapped 16 ⟨8, 16⟩).1 (ramp 16) ⟨8, 16⟩ := by
  have hnone : (mapped 16 ⟨8, 16⟩).1.get_mapped_range ⟨8, 16⟩ = none := rfl
  refine ⟨holds_ramp 16, rfl, hnone, ?_⟩
  rintro ⟨r, hr, -⟩
  rw [hnone] at hr
  exact absurd hr (by simp)

/-- A window near the start of a shifted map that is long enough shows the bytes
from 16 on. -/
example : (mapped 32 ⟨8, 32⟩).1.get_mapped_range ⟨8, 12⟩ = some (.Read [16, 17, 18, 19]) := rfl

end Runs

end Readback

end WgpuRemote
