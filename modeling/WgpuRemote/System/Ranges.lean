/-
Buffer ranges, from the caller's bounds to the slice wgpu gets.

A range passes three places that compute with its ends. The facade turns the
bounds into an offset and a size, and adds one to a bound that is on the other
side of the convention. The server adds the size back to the offset, once for a
readback and once for every vertex or index buffer a render pass sets, and slices
the buffer there. No place checks its addition, and the server does not check that
its slice is one of the buffer either: an addition that is no `u64` wraps or panics,
and wgpu panics on a slice that is empty or too long. What is said here is when
neither happens: for the ranges that are not empty and end within their buffer.
-/
import WgpuRemote.Server.Sites
import WgpuRemote.Server.Risks
import WgpuRemote.Client.Mapping

set_option autoImplicit false

namespace WgpuRemote

open Bincode
open Wgpu (Occ Obj Call Event Gpu BufferSlice)
open Server
open Client (Bound bounds_to_offset_size saturating_sub)

/-- `u64::MAX` -/
def u64_max : UInt64 := 0xFFFFFFFFFFFFFFFF

/-! ## The facade's side -/

namespace Client

/-- The additions of `bounds_to_offset_size`. -/
def bounds_sums (start_bound end_bound : Bound) : List (UInt64 × UInt64) :=
  (match start_bound with
    | .Excluded n => [(n, 1)]
    | .Included _ | .Unbounded => []) ++
  match end_bound with
    | .Included n => [(n, 1)]
    | .Excluded _ | .Unbounded => []

/-- The offset is not before a range that starts so. -/
def Bound.after : Bound → UInt64 → Prop
  | .Included n, o => n ≤ o
  | .Excluded n, o => n < o
  | .Unbounded, _ => True

/-- The offset is not behind a range that ends so. Without a bound, the end of the
buffer is. -/
def Bound.before (total : UInt64) : Bound → UInt64 → Prop
  | .Included n, o => o ≤ n
  | .Excluded n, o => o < n
  | .Unbounded, o => o < total

/-- The first offset of a range that starts so. -/
def Bound.start : Bound → UInt64
  | .Included n => n
  | .Excluded n => n + 1
  | .Unbounded => 0

/-- The first offset behind a range that ends so. -/
def Bound.stop (total : UInt64) : Bound → UInt64
  | .Included n => n + 1
  | .Excluded n => n
  | .Unbounded => total

/-- The offset is the start, and the size what is left to the end, never less than zero. -/
theorem bounds_to_offset_size_eq (start_bound end_bound : Bound) (total : UInt64) :
    bounds_to_offset_size start_bound end_bound total =
      (start_bound.start, saturating_sub (end_bound.stop total) start_bound.start) := by
  rcases start_bound with n | n | _
  all_goals rcases end_bound with m | m | _
  all_goals rfl

/-- One more than `n` is a `u64` exactly if `n` is not the last one. -/
theorem fits_one_iff (n : UInt64) : SumFits (n, 1) ↔ n ≠ u64_max := by
  have hlt := n.toNat_lt
  have hone : (1 : UInt64).toNat = 1 := rfl
  have hmax : u64_max.toNat = 2 ^ 64 - 1 := rfl
  have heq : n = u64_max ↔ n.toNat = 2 ^ 64 - 1 := by
    rw [← hmax]
    exact UInt64.toNat_inj.symm
  show n.toNat + (1 : UInt64).toNat < 2 ^ 64 ↔ ¬ n = u64_max
  rw [heq, hone]
  omega

/-- The additions fit exactly if neither bound is on the last `u64` on its far
side. -/
theorem bounds_fit_iff (start_bound end_bound : Bound) :
    (∀ s ∈ bounds_sums start_bound end_bound, SumFits s) ↔
      start_bound ≠ .Excluded u64_max ∧ end_bound ≠ .Included u64_max := by
  unfold bounds_sums
  rw [List.forall_mem_append]
  refine and_congr ?_ ?_
  · rcases start_bound with n | n | _
    · simp
    · simp [fits_one_iff]
    · simp
  · rcases end_bound with n | n | _
    · simp [fits_one_iff]
    · simp
    · simp

/-- A bound that fits has the offsets behind its start. -/
theorem Bound.start_le_iff {start_bound : Bound} (h : start_bound ≠ .Excluded u64_max)
    (o : UInt64) : start_bound.start ≤ o ↔ start_bound.after o := by
  rcases start_bound with n | n | _
  · exact Iff.rfl
  · -- the bound is one before the start
    have hfits : SumFits (n, 1) := (fits_one_iff n).mpr fun hn => h (congrArg _ hn)
    have hsum : (n + 1).toNat = n.toNat + 1 := by
      rw [UInt64.toNat_add]
      exact Nat.mod_eq_of_lt hfits
    show n + 1 ≤ o ↔ n < o
    rw [UInt64.le_iff_toNat_le, UInt64.lt_iff_toNat_lt, hsum]
    exact Nat.succ_le_iff
  · exact ⟨fun _ => trivial, fun _ => UInt64.zero_le⟩

/-- A bound that fits has the offsets in front of its stop. -/
theorem Bound.lt_stop_iff {end_bound : Bound} (h : end_bound ≠ .Included u64_max)
    (total o : UInt64) : o < end_bound.stop total ↔ end_bound.before total o := by
  rcases end_bound with n | n | _
  · have hfits : SumFits (n, 1) := (fits_one_iff n).mpr fun hn => h (congrArg _ hn)
    have hsum : (n + 1).toNat = n.toNat + 1 := by
      rw [UInt64.toNat_add]
      exact Nat.mod_eq_of_lt hfits
    show o < n + 1 ↔ o ≤ n
    rw [UInt64.le_iff_toNat_le, UInt64.lt_iff_toNat_lt, hsum]
    exact Nat.lt_succ_iff
  · exact Iff.rfl
  · exact Iff.rfl

/-- The size that separates two offsets leads from the one to the other, and is
nothing if they are the wrong way round. -/
theorem saturating_sub_spec (start stop : UInt64) :
    SumFits (start, saturating_sub stop start) ∧
      ∀ o, (start ≤ o ∧ o < start + saturating_sub stop start) ↔ (start ≤ o ∧ o < stop) := by
  have hstart := start.toNat_lt
  have hstop := stop.toNat_lt
  unfold saturating_sub
  by_cases h : start ≤ stop
  · have hle : start.toNat ≤ stop.toNat := UInt64.le_iff_toNat_le.mp h
    have hsize : (stop - start).toNat = stop.toNat - start.toNat := UInt64.toNat_sub_of_le _ _ h
    rw [if_pos h]
    refine ⟨?_, fun o => ?_⟩
    · show start.toNat + (stop - start).toNat < 2 ^ 64
      omega
    · rw [UInt64.add_comm, UInt64.sub_add_cancel]
  · have hlt : stop.toNat < start.toNat := by
      rw [UInt64.le_iff_toNat_le] at h
      omega
    rw [if_neg h]
    refine ⟨?_, fun o => ?_⟩
    · show start.toNat + (0 : UInt64).toNat < 2 ^ 64
      exact hstart
    · -- both sides are empty
      rw [UInt64.add_zero, UInt64.le_iff_toNat_le, UInt64.lt_iff_toNat_lt, UInt64.lt_iff_toNat_lt]
      omega

/-- What the size leads to ends where the range stops, unless there is no size. -/
theorem saturating_sub_inside_iff (start stop n : UInt64) :
    0 < (saturating_sub stop start).toNat ∧
        start.toNat + (saturating_sub stop start).toNat ≤ n.toNat ↔
      start < stop ∧ stop ≤ n := by
  rw [UInt64.lt_iff_toNat_lt, UInt64.le_iff_toNat_le]
  unfold saturating_sub
  by_cases h : start ≤ stop
  · have hle : start.toNat ≤ stop.toNat := UInt64.le_iff_toNat_le.mp h
    rw [if_pos h, UInt64.toNat_sub_of_le _ _ h]
    omega
  · have hlt : ¬ start.toNat ≤ stop.toNat := fun hle => h (UInt64.le_iff_toNat_le.mpr hle)
    have hzero : (0 : UInt64).toNat = 0 := rfl
    rw [if_neg h, hzero]
    omega

end Client

/-! ## The server's side -/

section Ranges

variable [WgpuTypes]

/-- The wgpu calls of a dispatch. -/
def dispatch_events (gpu : Gpu) (e : Engine) (a : Action) : List Event :=
  ((Server.handle a).run (e.reply gpu) e.dispatched ⟨e.tables, []⟩).2.events

/-- The slice a call maps. -/
def mapped : Call → Option (BufferSlice Obj)
  | .map_async s | .get_mapped_range s => some s
  | _ => none

/-- The risks of the dispatch of an action. -/
def dispatch_risks (gpu : Gpu) (e : Engine) (a : Action) : List Risk :=
  (Server.handle a).risks (e.reply gpu) e.dispatched ⟨e.tables, []⟩

/-- A dispatch computes its ranges safely: no addition exceeds a `u64`, and no sum is
another number than that of its operands; and it neither panics at an addition that
is checked nor at a slice, but gets to its answer. A readback that wgpu refuses is
answered with an error. -/
structure RangesSafe (size : Obj .Buffer → BufferAddress) (gpu : Gpu) (e : Engine) (a : Action) :
    Prop where
  fits : ∀ x y, .sum x y ∈ dispatch_risks gpu e a → SumFits (x, y)
  unwrapped : ∀ x y, .sum x y ∈ dispatch_risks gpu e a → (x + y).toNat = x.toNat + y.toNat
  answered : (Server.handle a).checked size (e.reply gpu) e.dispatched ⟨e.tables, []⟩ =
    some ((Server.handle a).run (e.reply gpu) e.dispatched ⟨e.tables, []⟩)
  refused : ∀ buffer offset size, a = .MapBufferForRead buffer offset size →
    (∀ o, e.tables buffer.ref = some o →
      gpu.map_result e.log ⟨e.dispatched, 0⟩ ⟨⟨o⟩, offset, some (offset + size)⟩ ≠ .Ok) →
    ∃ code message, (e.handle gpu a).1 = some (.Error code message)

omit [WgpuTypes] in
/-- An addition that fits does not wrap. -/
theorem toNat_add_of_fits {s : UInt64 × UInt64} (h : SumFits s) :
    (s.1 + s.2).toNat = s.1.toNat + s.2.toNat := by
  rw [UInt64.toNat_add]
  exact Nat.mod_eq_of_lt h

/-- A readback is answered with an error if wgpu refuses the map, or if there is
no buffer to map. -/
theorem readback_refused (gpu : Gpu) (e : Engine) (buffer : BufferId) (offset size : UInt64)
    (h : ∀ o, e.tables buffer.ref = some o →
      gpu.map_result e.log ⟨e.dispatched, 0⟩ ⟨⟨o⟩, offset, some (offset + size)⟩ ≠ .Ok) :
    ∃ code message, (e.handle gpu (.MapBufferForRead buffer offset size)).1 =
      some (.Error code message) := by
  cases ht : e.tables buffer.ref with
  | none =>
      -- the buffer is unknown, so nothing is mapped
      have hadm : ¬ Admitted (.MapBufferForRead buffer offset size) e.tables := by
        rintro ⟨-, hpresent⟩
        have := hpresent buffer.ref List.mem_cons_self
        rw [ht] at this
        cases this
      obtain ⟨-, r, hresp, hr⟩ := handle_rejected gpu e _ hadm
      rcases hr with ⟨what, raw, rfl⟩ | ⟨-, message, rfl⟩
      · exact ⟨_, _, hresp⟩
      · exact ⟨_, _, hresp⟩
  | some o =>
      have hb : lookup e.tables buffer = .ok ⟨o⟩ := lookup_as_some _ ht
      have hexec := exec_read_buffer gpu e hb offset size
      have hrefused := h o ht
      rcases hrun : Dispatch.exec (e.reply gpu) e.dispatched
        (handle_arm (.MapBufferForRead buffer offset size)) ⟨e.tables, []⟩ with ⟨r, m⟩
      rw [handle_eq gpu e _ hrun]
      have hr : r = .ok (read_response gpu e.log e.dispatched ⟨⟨o⟩, offset, some (offset + size)⟩) := by
        rw [← hexec]
        exact (congrArg Prod.fst hrun).symm
      rw [hr, settle, read_response]
      cases hmap : gpu.map_result e.log ⟨e.dispatched, 0⟩ ⟨⟨o⟩, offset, some (offset + size)⟩ with
      | Ok => exact absurd hmap hrefused
      | Err => exact ⟨_, _, rfl⟩
      | Dropped => exact ⟨_, _, rfl⟩

/-- One condition decides all of it: every slice the dispatch gets to is inside its
buffer. -/
theorem safe_iff_inside (size : Obj .Buffer → BufferAddress) (gpu : Gpu) (e : Engine) (a : Action) :
    RangesSafe size gpu e a ↔ ∀ x ∈ reached e.tables (Action.steps a), x.Inside size := by
  rw [← arm_safe_iff size (e.reply gpu) e.dispatched a e.tables [],
    ← handle_risks (e.reply gpu) e.dispatched a ⟨e.tables, []⟩]
  constructor
  · intro h
    exact (Prog.checked_eq_run_iff _ _ _ _ _).mp h.answered
  · intro h
    have hfits : ∀ x y, .sum x y ∈ dispatch_risks gpu e a → SumFits (x, y) := fun x y hr => h _ hr
    refine ⟨hfits, fun x y hr => toNat_add_of_fits (hfits x y hr),
      (Prog.checked_eq_run_iff _ _ _ _ _).mpr h, ?_⟩
    rintro buffer offset size rfl hrefused
    exact readback_refused gpu e buffer offset size hrefused

omit [WgpuTypes] in
/-- The slice of a readback counts if its buffer is there. -/
theorem readback_inside_iff {size : Obj .Buffer → BufferAddress} {t : ResourceTables}
    {buffer : BufferId} {offset n : BufferAddress} :
    (∀ x ∈ reached t [.slice buffer offset (some n)], x.Inside size) ↔
      ∀ o, t buffer.ref = some o →
        0 < n.toNat ∧ offset.toNat + n.toNat ≤ (size ⟨o⟩).toNat := by
  rw [reached]
  rcases t buffer.ref with _ | o
  · exact ⟨fun _ o ho => absurd ho (by simp), fun _ x hx => absurd hx List.not_mem_nil⟩
  · constructor
    · intro h o' ho
      rw [← Option.some.inj ho]
      exact h _ List.mem_cons_self
    · intro h x hx
      rw [List.mem_singleton.mp hx]
      exact h o rfl

/-- What a readback maps, if there is a buffer. -/
theorem readback_slices (gpu : Gpu) (e : Engine) (buffer : BufferId) (offset size : UInt64) :
    ∀ ev ∈ dispatch_events gpu e (.MapBufferForRead buffer offset size), ∀ slice,
      mapped ev.call = some slice → slice.start = offset ∧ slice.stop = some (offset + size) := by
  -- the two mapping calls of a readback are for one slice
  have hmakes : Makes (fun _ c => ∀ slice, mapped c = some slice →
      slice.start = offset ∧ slice.stop = some (offset + size)) false
      (read_buffer buffer offset size) := by
    refine Makes.read_buffer ?_ ?_ ?_
    · rintro b slice hslice
      rw [← Option.some.inj hslice]
      exact ⟨rfl, rfl⟩
    · rintro b slice hslice
      rw [← Option.some.inj hslice]
      exact ⟨rfl, rfl⟩
    · rintro b slice hslice
      cases hslice
  obtain ⟨evs, hevents, hslices⟩ := hmakes.events (e.reply gpu) e.dispatched ⟨e.tables, []⟩
  have hdispatch : dispatch_events gpu e (.MapBufferForRead buffer offset size) = evs := by
    unfold dispatch_events
    rw [run_handle]
    exact hevents
  rw [hdispatch]
  intro ev hev
  obtain ⟨-, hslice⟩ := hslices ev hev
  exact hslice

/-! ## A range read by the facade -/

/-- The facade's `read_range` on a buffer of size `total` known by `id`. Neither
side overflows, the server answers, and what it maps is the offsets the range
contains. -/
structure ReadsRange (size : Obj .Buffer → BufferAddress) (gpu : Gpu) (e : Engine) (id : BufferId)
    (total : UInt64) (start_bound end_bound : Bound) : Prop where
  client : ∀ s ∈ Client.bounds_sums start_bound end_bound, SumFits s
  server : RangesSafe size gpu e (.MapBufferForRead id
    (bounds_to_offset_size start_bound end_bound total).1
    (bounds_to_offset_size start_bound end_bound total).2)
  slices : ∀ ev ∈ dispatch_events gpu e (.MapBufferForRead id
      (bounds_to_offset_size start_bound end_bound total).1
      (bounds_to_offset_size start_bound end_bound total).2),
    ∀ slice, mapped ev.call = some slice → ∃ stop, slice.stop = some stop ∧
      ∀ o, (slice.start ≤ o ∧ o < stop) ↔ (start_bound.after o ∧ end_bound.before total o)

/-- The condition spelled out: no bound at the end of the integers, and for a buffer that is
held a range that is not empty and within it. -/
theorem reads_range_iff (size : Obj .Buffer → BufferAddress) (gpu : Gpu) (e : Engine) (id : BufferId)
    (total : UInt64) (start_bound end_bound : Bound) :
    ReadsRange size gpu e id total start_bound end_bound ↔
      (start_bound ≠ .Excluded u64_max ∧ end_bound ≠ .Included u64_max) ∧
        ∀ o, e.tables id.ref = some o → start_bound.start < end_bound.stop total ∧
          end_bound.stop total ≤ size ⟨o⟩ := by
  -- the server's part, in terms of where the range starts and stops
  have hserver : RangesSafe size gpu e (.MapBufferForRead id
      (bounds_to_offset_size start_bound end_bound total).1
      (bounds_to_offset_size start_bound end_bound total).2) ↔
      ∀ o, e.tables id.ref = some o → start_bound.start < end_bound.stop total ∧
        end_bound.stop total ≤ size ⟨o⟩ := by
    rw [safe_iff_inside, Client.bounds_to_offset_size_eq]
    exact readback_inside_iff.trans
      (forall₂_congr fun o _ => Client.saturating_sub_inside_iff _ _ _)
  rw [← Client.bounds_fit_iff, ← hserver]
  constructor
  · intro h
    exact ⟨h.client, h.server⟩
  · rintro ⟨hclient, hsafe⟩
    obtain ⟨hstart, hend⟩ := (Client.bounds_fit_iff start_bound end_bound).mp hclient
    obtain ⟨-, hrange⟩ :=
      Client.saturating_sub_spec start_bound.start (end_bound.stop total)
    refine ⟨hclient, hsafe, ?_⟩
    intro ev hev slice hslice
    obtain ⟨hlo, hhi⟩ := readback_slices gpu e id _ _ ev hev slice hslice
    rw [Client.bounds_to_offset_size_eq] at hlo hhi
    refine ⟨_, hhi, ?_⟩
    intro o
    rw [hlo, hrange o, Bound.start_le_iff hstart, Bound.lt_stop_iff hend]

/-- **When ranges are safe.** A readback is if its buffer is unknown, or the range is
not empty and ends within the buffer. A submission is if that holds of every vertex
and index buffer that its replay gets to: what it gets to is what stands before the
first id the tables do not hold and before the first recording that does not decode.
And the facade's range is the range the server maps, and is answered, exactly if it
neither starts behind the last `u64` nor ends with it, and is itself not empty and
within the server's buffer, if there is one. `size` is what wgpu has kept as the size
of each buffer. -/
theorem ranges_safe_iff (size : Obj .Buffer → BufferAddress) :
    (∀ (gpu : Gpu) (e : Engine) (buffer : BufferId) (offset n : UInt64),
      RangesSafe size gpu e (.MapBufferForRead buffer offset n) ↔
        ∀ o, e.tables buffer.ref = some o →
          0 < n.toNat ∧ offset.toNat + n.toNat ≤ (size ⟨o⟩).toNat) ∧
    (∀ (gpu : Gpu) (e : Engine) (recordings : List Bytes),
      RangesSafe size gpu e (.Submit recordings) ↔
        ∀ x ∈ reached e.tables (recordings.flatMap payload_steps), x.Inside size) ∧
    ∀ (gpu : Gpu) (e : Engine) (id : BufferId) (total : UInt64) (start_bound end_bound : Bound),
      ReadsRange size gpu e id total start_bound end_bound ↔
        (start_bound ≠ .Excluded u64_max ∧ end_bound ≠ .Included u64_max) ∧
          ∀ o, e.tables id.ref = some o → start_bound.start < end_bound.stop total ∧
            end_bound.stop total ≤ size ⟨o⟩ := by
  refine ⟨?_, ?_, reads_range_iff size⟩
  · intro gpu e buffer offset n
    rw [safe_iff_inside]
    exact readback_inside_iff
  · intro gpu e recordings
    rw [safe_iff_inside, Action.steps]

end Ranges

section Examples

attribute [local instance] WgpuTypes.numeric

/-- An engine that holds one buffer of 8 bytes, under the id 1. -/
def one_buffer : Engine :=
  (Engine.new.handle idle_gpu (.CreateBuffer ⟨1⟩ ⟨none, 8, (9 : UInt32), false⟩)).2

/-- The size a buffer was made with. -/
def made_size (e : Engine) (b : Obj .Buffer) : BufferAddress :=
  match e.log.find? fun ev => ev.occ = b.made with
  | some ⟨_, .create_buffer desc⟩ => desc.size
  | _ => 0

/-- A readback of the second half of the buffer is safe. -/
theorem second_half_safe : RangesSafe (made_size one_buffer) idle_gpu one_buffer
    (.MapBufferForRead ⟨1⟩ 4 4) := by
  refine ((ranges_safe_iff (made_size one_buffer)).1 idle_gpu one_buffer ⟨1⟩ 4 4).mpr ?_
  intro o ho
  rw [← Option.some.inj ho]
  decide

/-- A recording with one render pass, which sets one vertex buffer: the buffer 1
from the last `u64` on, with a size of one. -/
def last_vertex_buffer : Bytes :=
  [0, 1, 5, 0, 0, 0, 1, 2, 0, 1, 253, 255, 255, 255, 255, 255, 255, 255, 255, 1, 1]

/-- An offset at the last `u64`, in a readback and in a vertex buffer: its sum with
the size is no `u64`. A readback of more than there is, and of nothing, whose slices
panic. And a range that ends with the last `u64`. -/
theorem last_offset_overflows :
    ¬ RangesSafe (made_size one_buffer) idle_gpu one_buffer (.MapBufferForRead ⟨1⟩ u64_max 1) ∧
      ¬ RangesSafe (made_size one_buffer) idle_gpu one_buffer (.Submit [last_vertex_buffer]) ∧
      ¬ RangesSafe (made_size one_buffer) idle_gpu one_buffer (.MapBufferForRead ⟨1⟩ 0 16) ∧
      ¬ RangesSafe (made_size one_buffer) idle_gpu one_buffer (.MapBufferForRead ⟨1⟩ 0 0) ∧
      ¬ ReadsRange (made_size one_buffer) idle_gpu one_buffer ⟨1⟩ 8 .Unbounded
        (.Included u64_max) := by
  have hfits : ¬ SumFits (u64_max, 1) := by decide
  have hread : ∀ offset n, RangesSafe (made_size one_buffer) idle_gpu one_buffer
      (.MapBufferForRead ⟨1⟩ offset n) → 0 < n.toNat ∧ offset.toNat + n.toNat ≤ 8 :=
    fun offset n h => readback_inside_iff.mp ((safe_iff_inside _ _ _ _).mp h) ⟨0, 0⟩ rfl
  refine ⟨?_, ?_, ?_, ?_, ?_⟩
  · intro h
    exact hfits (h.fits u64_max 1 List.mem_cons_self)
  · intro h
    have hsafe := (Prog.checked_eq_run_iff _ _ _ _ _).mp h.answered
    exact hfits (hsafe (.sum u64_max 1) List.mem_cons_self)
  · intro h
    exact absurd (hread 0 16 h).2 (by decide)
  · intro h
    exact absurd (hread 0 0 h).1 (by decide)
  · intro h
    exact hfits (h.client (u64_max, 1) (List.mem_singleton.mpr rfl))

end Examples

end WgpuRemote
