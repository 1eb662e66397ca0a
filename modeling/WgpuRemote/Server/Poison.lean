/-
A wgpu call that panics.

wgpu panics on an uncaptured validation error, and on a slice that is empty or out
of range. The panic unwinds the task of its stream; a guard of the tables that is
alive there is dropped while panicking and poisons the mutex, and every later
`self.tables.lock().unwrap()` panics. So one frame disables the server for
everybody if the call that panics is made under the guard. A panic without it can
still be noticed, if the dispatch has left something with wgpu: a write that is
scheduled, a buffer that is mapped, or what wgpu has kept of the very call that
panicked. Whether it keeps anything is its own affair, and a part of the `Fault`
here. A panic is contained exactly if neither happens (`panic_contained_iff`).

The dispatches of one engine are taken one after the other here.
-/
import WgpuRemote.Server.Failure
import WgpuRemote.Server.Isolation
import WgpuRemote.Lib.Transition

set_option autoImplicit false

namespace WgpuRemote.Server

open Bincode Footprint
open Wgpu (Occ Obj Call Event Gpu CommandBuffer BufferSlice)
open Dispatch (attempt issue make add store with_tables insert respond exec)
open Prog (Mem)

section Poison

variable [WgpuTypes]

/-! ## Code that panics -/

/-- What panics at a wgpu call. -/
inductive Fault where
  /-- The slice the call is made on or given. The call is not made. -/
  | slice
  /-- The call itself. wgpu may have `kept` it by then, and go on as if it had
  returned, or have done nothing. -/
  | call (kept : Bool)
  /-- `device.poll`, which a `map_async` is followed by. It runs on a thread of its
  own, and the dispatch waits for a callback that does not come. -/
  | poll

namespace Fault

/-- The fault can happen at this call. -/
def at_call : Fault → Call → Bool
  | .slice, c => (slice_of c).isSome
  | .call _, _ => true
  | .poll, .map_async _ => true
  | .poll, _ => false

/-- What wgpu keeps of the call. -/
def left : Fault → Event → List Event
  | .slice, _ | .call false, _ => []
  | .call true, ev | .poll, ev => [ev]

/-- A guard that is alive is dropped while panicking. No guard is dropped on the
thread of a poll. -/
def poisons : Fault → Bool → Bool
  | .slice, held | .call _, held => held
  | .poll, _ => false

end Fault

/-- What a panic leaves behind. -/
structure Crash where
  /-- The call that panicked. -/
  call : Call
  /-- A guard was dropped while panicking. -/
  poisoned : Bool
  mem : Mem

namespace Prog

/-- Run until the wgpu call number `k`, counted from 0, where the fault happens. -/
def crash (reply : Occ → Call → Answer) (d : ℕ) (f : Fault) {α : Type} :
    Prog α → ℕ → Bool → Mem → Option Crash
  | .done _, _, _, _ => none
  | .lock next, k, _, m => (next m.tables).crash reply d f k true m
  | .store t next, k, held, m => next.crash reply d f k held { m with tables := t }
  | .unlock next, k, _, m => next.crash reply d f k false m
  | .call c _, 0, held, m =>
      if f.at_call c then
        some ⟨c, f.poisons held, { m with events := m.events ++ f.left ⟨m.next_occ d, c⟩ }⟩
      else none
  | .call c next, k + 1, held, m =>
      (next (reply (m.next_occ d) c)).crash reply d f k held (m.log d c)
  | .add a b next, k, held, m => (next (a + b)).crash reply d f k held m

/-- Run on a poisoned mutex: the first `lock().unwrap()` panics. -/
def until_lock (reply : Occ → Call → Answer) (d : ℕ) {α : Type} : Prog α → Mem → Option α × Mem
  | .done a, m => (some a, m)
  | .lock _, m => (none, m)
  | .store t next, m => next.until_lock reply d { m with tables := t }
  | .unlock next, m => next.until_lock reply d m
  | .call c next, m => (next (reply (m.next_occ d) c)).until_lock reply d (m.log d c)
  | .add a b next, m => (next (a + b)).until_lock reply d m

/-- A panic happens at a site, after the calls of the sites before it. -/
theorem crash_eq (reply : Occ → Call → Answer) (d : ℕ) (f : Fault) {α : Type} (p : Prog α) (k : ℕ)
    (held : Bool) (m : Mem) :
    p.crash reply d f k held m = (p.sites reply d held m)[k]?.bind fun s =>
      if f.at_call s.event.call then
        some ⟨s.event.call, f.poisons s.held, s.tables,
          m.events ++ ((p.sites reply d held m).take k).map Site.event ++ f.left s.event⟩
      else none := by
  induction p generalizing k held m with
  | done a => rfl
  | lock next ih => exact ih m.tables k true m
  | store t next ih => exact ih k held { m with tables := t }
  | unlock next ih => exact ih k false m
  | add a b next ih => exact ih (a + b) k held m
  | call c next ih =>
      rcases k with _ | k
      · -- this is the call, and nothing was made here before it
        rw [crash, sites, List.getElem?_cons_zero, Option.bind_some, List.take_zero, List.map_nil,
          List.append_nil]
      · have hrest := ih (reply (m.next_occ d) c) k held (m.log d c)
        rw [Mem.log_events, List.append_assoc m.events] at hrest
        exact hrest

end Prog

/-! ## The engine of several connections -/

/-- The engine, and whether its mutex is poisoned. -/
structure Shared where
  engine : Engine
  poisoned : Bool

namespace Shared

def new : Shared := ⟨Engine.new, false⟩

/-- The engine after a dispatch that has left `m`. -/
def after (s : Shared) (m : Mem) (poisoned : Bool) : Shared where
  engine :=
    { tables := m.tables, log := s.engine.log ++ m.events, dispatched := s.engine.dispatched + 1 }
  poisoned

/-- One frame, whose wgpu calls return normally. There is no answer if the task
panics at the mutex. -/
def dispatch (gpu : Gpu) (s : Shared) (frame : Frame) : Option (Option ResponseFrame) × Shared :=
  let e := s.engine
  if s.poisoned then
    let (r, m) := (Server.dispatch frame).until_lock (e.reply gpu) e.dispatched ⟨e.tables, []⟩
    (r, s.after m true)
  else
    let (r, m) := (Server.dispatch frame).run (e.reply gpu) e.dispatched ⟨e.tables, []⟩
    (some r, s.after m false)

/-- What becomes of the frame when there is a fault at its wgpu call number `k`. -/
def panic (gpu : Gpu) (s : Shared) (frame : Frame) (k : ℕ) (f : Fault) : Option Crash :=
  let e := s.engine
  (Server.dispatch frame).crash (e.reply gpu) e.dispatched f k false ⟨e.tables, []⟩

/-- The frame is never sent. Its number, which only names things, is used up. -/
def pass (s : Shared) : Shared := s.after ⟨s.engine.tables, []⟩ s.poisoned

/-- The answers to frames that come later. -/
def answers (gpu : Gpu) : Shared → List Frame → List (Option (Option ResponseFrame))
  | _, [] => []
  | s, frame :: later => (s.dispatch gpu frame).1 :: answers gpu (s.dispatch gpu frame).2 later

inductive Label where
  | dispatch (frame : Frame)
  /-- There is a fault at the wgpu call number `k` of the frame. -/
  | panic (frame : Frame) (k : ℕ) (f : Fault)

/-- A panic on a poisoned mutex is no other than the one at the mutex. -/
def step (gpu : Gpu) (s : Shared) : Label → Option Shared
  | .dispatch frame => some (s.dispatch gpu frame).2
  | .panic frame k f =>
      if s.poisoned then none
      else (s.panic gpu frame k f).map fun crash => s.after crash.mem crash.poisoned

/-! ## The property -/

/-- The panic is contained: the mutex is not poisoned, the tables are as they
were, and whatever comes later is answered as if the frame had not been sent. -/
def Contained (gpu : Gpu) (s : Shared) (frame : Frame) (k : ℕ) (f : Fault) : Prop :=
  ∀ crash, s.panic gpu frame k f = some crash →
    crash.poisoned = false ∧ crash.mem.tables = s.engine.tables ∧
      ∀ later, (s.after crash.mem crash.poisoned).answers gpu later = s.pass.answers gpu later

end Shared

/-! ## wgpu -/

/-- Calls that record commands. -/
def on_encoder : Call → Bool
  | .create_command_encoder _ | .encode _ _ | .finish _ => true
  | _ => false

/-- The two answers of wgpu, to a log of calls. -/
def Answers (gpu : Gpu) (log log' : List Event) : Prop :=
  ∀ occ slice, gpu.map_result log occ slice = gpu.map_result log' occ slice ∧
    gpu.mapped_bytes log occ slice = gpu.mapped_bytes log' occ slice

/-- Commands that are recorded and never submitted change nothing: a dispatch
that has only recorded, and whose command buffers no submission names, might as
well not have been. -/
def IgnoresUnsubmitted (gpu : Gpu) : Prop :=
  ∀ (log : List Event) (d : ℕ), (∀ ev ∈ log, ev.occ.dispatch = d → on_encoder ev.call = true) →
    (∀ ev ∈ log, ∀ cbs, ev.call = .submit cbs → ∀ cb ∈ cbs, cb.made.dispatch ≠ d) →
    Answers gpu log (log.filter fun ev => ev.occ.dispatch ≠ d)

/-- The two have answered alike so far. -/
def SamePast (gpu gpu' : Gpu) (log : List Event) : Prop :=
  ∀ past, past <+: log → gpu'.map_result past = gpu.map_result past ∧
    gpu'.mapped_bytes past = gpu.mapped_bytes past

/-- The calls that are made without the guard and after none that wgpu could tell
from nothing: those of the create actions that need no other resource, the first one
of a readback, and all of a `Submit` that are not made on an encoder. -/
def outside : Action → Call → Bool
  | .MapBufferForRead _ _ _, .map_async _ => true
  | .Submit _, .create_command_encoder _ | .Submit _, .finish _ | .Submit _, .submit _ => true
  | a, _ => creates_alone a

/-- wgpu keeps nothing of the call, or no more than a recorded command. -/
def Fault.quiet : Fault → Call → Bool
  | .slice, _ => true
  | .call kept, c => !kept || on_encoder c
  | .poll, _ => false

/-- The faults that are contained. -/
def contains (a : Action) (c : Call) (f : Fault) : Bool := outside a c && f.quiet c

namespace Fault

variable {f : Fault} {ev : Event}

/-- What a quiet fault leaves with wgpu are recorded commands. -/
theorem recorded_of_quiet (h : f.quiet ev.call = true) : ∀ x ∈ f.left ev, on_encoder x.call = true := by
  intro x hx
  rcases f with _ | ⟨_ | _⟩ | _
  · exact absurd hx List.not_mem_nil
  · exact absurd hx List.not_mem_nil
  · rw [List.mem_singleton.mp hx]
    exact h
  · exact absurd h (by simp [quiet])

/-- What is kept of a call that is not quiet is the call, and it is no command. -/
theorem kept_of_not_quiet (h : f.quiet ev.call = false) (hat : f.at_call ev.call = true) :
    ev ∈ f.left ev ∧ on_encoder ev.call = false := by
  rcases f with _ | ⟨_ | _⟩ | _
  · exact absurd h (by simp [quiet])
  · exact absurd h (by simp [quiet])
  · exact ⟨List.mem_singleton_self _, h⟩
  · -- only a map is polled for
    refine ⟨List.mem_singleton_self _, ?_⟩
    obtain ⟨occ, c⟩ := ev
    rcases c
    case map_async => rfl
    all_goals exact absurd hat (by simp [at_call])

/-- A quiet fault poisons a guard that is held, and no other. -/
theorem poisons_of_quiet {held : Bool} {c : Call} (h : f.quiet c = true) : f.poisons held = held := by
  rcases f with _ | kept | _
  · rfl
  · rfl
  · exact absurd h (by simp [quiet])

/-- A fault leaves nothing but the call it is at. -/
theorem left_own : ∀ x ∈ f.left ev, x = ev := by
  intro x hx
  rcases f with _ | ⟨_ | _⟩ | _
  · exact absurd hx List.not_mem_nil
  · exact absurd hx List.not_mem_nil
  · exact List.mem_singleton.mp hx
  · exact List.mem_singleton.mp hx

end Fault

/-! ## The sites of an action -/

section Arms

variable (reply : Occ → Call → Answer) (d : ℕ) (m : Mem)

/-- The sites of a dispatch are those of its action's arm. -/
theorem sites_dispatch (frame : Frame) (held : Bool) :
    (Server.dispatch frame).sites reply d held m =
      Dispatch.sites reply d (handle_arm frame.action) held m := by
  have hhandle : (Server.handle frame.action).sites reply d held m =
      Dispatch.sites reply d (handle_arm frame.action) held m := by
    unfold Server.handle
    rw [Prog.sites_bind, Dispatch.sites_respond]
    exact List.append_nil _
  obtain ⟨rid, action⟩ := frame
  unfold Server.dispatch
  rw [Prog.sites_bind, hhandle]
  -- no call is made once there is a response
  rcases (Prog.run reply d (Server.handle action) m).1 with _ | response
  · rcases rid with _ | rid
    · exact List.append_nil _
    · exact List.append_nil _
  · rcases rid with _ | rid
    · exact List.append_nil _
    · exact List.append_nil _

/-- A buffer is written without the guard, if it is held. -/
theorem sites_write_buffer (buffer : BufferId) (offset : BufferAddress) (data : Bytes) :
    Dispatch.sites reply d (write_buffer buffer offset data) false m =
      match lookup m.tables buffer with
      | .ok b =>
          [⟨⟨m.next_occ d, .write_buffer b offset data⟩, true, m.tables⟩,
            ⟨⟨(m.log d (.write_buffer b offset data)).next_occ d, .submit []⟩, false, m.tables⟩]
      | .error _ => [] := by
  rw [write_buffer, with_buffer, Dispatch.sites_bind, Dispatch.sites_with_tables,
    Dispatch.held_after_with_tables, Dispatch.exec_with_tables, Dispatch.sites_bind,
    Dispatch.exec_bind, Dispatch.exec_attempt]
  rcases lookup m.tables buffer with r | b
  · rfl
  · rfl

/-- And so is a texture. -/
theorem sites_write_texture (texture : TextureId) (mip_level : UInt32) (origin : Origin3d)
    (aspect : TextureAspect) (data : Bytes) (data_layout : TexelCopyBufferLayout)
    (size : Extent3d) :
    Dispatch.sites reply d
        (write_texture texture mip_level origin aspect data data_layout size) false m =
      match lookup m.tables texture with
      | .ok x =>
          let write := Call.write_texture { texture := x, mip_level, origin, aspect }
            data data_layout size
          [⟨⟨m.next_occ d, write⟩, true, m.tables⟩,
            ⟨⟨(m.log d write).next_occ d, .submit []⟩, true, m.tables⟩]
      | .error _ => [] := by
  rw [write_texture, Dispatch.sites_with_tables, Dispatch.sites_bind, Dispatch.exec_attempt]
  rcases lookup m.tables texture with r | x
  · rfl
  · rfl

/-- What a readback has left with wgpu at each of its calls. -/
theorem sites_read_buffer (buffer : BufferId) (offset size : BufferAddress) :
    Dispatch.sites reply d (read_buffer buffer offset size) false m =
      match lookup m.tables buffer with
      | .ok b =>
          let slice : BufferSlice Obj := ⟨b, offset, some (offset + size)⟩
          let m1 := m.log d (.map_async slice)
          ⟨⟨m.next_occ d, .map_async slice⟩, false, m.tables⟩ ::
            match (reply (m.next_occ d) (.map_async slice)).map_result with
            | .Ok =>
                [⟨⟨m1.next_occ d, .get_mapped_range slice⟩, false, m.tables⟩,
                  ⟨⟨(m1.log d (.get_mapped_range slice)).next_occ d, .unmap b⟩, false, m.tables⟩]
            | .Err | .Dropped => []
      | .error _ => [] := by
  rw [read_buffer, Dispatch.sites_bind, Dispatch.sites_with_tables,
    Dispatch.held_after_with_tables, Dispatch.exec_with_tables, Dispatch.exec_attempt]
  -- without the buffer nothing is called
  rcases lookup m.tables buffer with r | b
  · rfl
  · change (_ :: _ : List Site) = _
    congr 1
    dsimp only
    generalize reply (m.next_occ d) (.map_async ⟨b, offset, some (offset + size)⟩) = answer
    obtain ⟨made, map_result, bytes⟩ := answer
    rcases map_result with _ | _ | _
    · rfl
    · rfl
    · rfl

end Arms

/-! ## Where a panic is contained -/

/-- A replay makes calls on encoders under the guard, and makes and finishes
encoders without it. -/
theorem replays_cases {held : Bool} {c : Call} (h : replays held c) :
    (held = true ∧ ∃ encoder call, c = .encode encoder call) ∨
      held = false ∧ ((∃ desc, c = .create_command_encoder desc) ∨ ∃ encoder, c = .finish encoder) := by
  unfold replays at h
  split at h
  · exact Or.inl ⟨rfl, _, _, rfl⟩
  · exact Or.inr ⟨rfl, Or.inl ⟨_, rfl⟩⟩
  · exact Or.inr ⟨rfl, Or.inr ⟨_, rfl⟩⟩
  · exact absurd h id

/-- The calls of a replay record commands. -/
theorem on_encoder_of_replays {held : Bool} {c : Call} (h : replays held c) : on_encoder c = true := by
  rcases replays_cases h with ⟨-, encoder, call, rfl⟩ | ⟨-, ⟨desc, rfl⟩ | ⟨encoder, rfl⟩⟩
  · rfl
  · rfl
  · rfl

/-- Of the calls of a replay, those without the guard. -/
theorem outside_of_replays (recordings : List Bytes) {held : Bool} {c : Call}
    (h : replays held c) : outside (.Submit recordings) c = !held := by
  rcases replays_cases h with ⟨rfl, encoder, call, rfl⟩ | ⟨rfl, ⟨desc, rfl⟩ | ⟨encoder, rfl⟩⟩
  · rfl
  · rfl
  · rfl

/-- A call of an action, after the calls `before`: if it is one of those `outside`,
the guard is not alive and only commands have been recorded. Otherwise the guard is
alive, or a buffer has been written or mapped. -/
structure Spot (d : ℕ) (a : Action) (t : ResourceTables) (before : List Site) (s : Site) :
    Prop where
  tables : s.tables = t
  /-- A submission names command buffers of its own dispatch. -/
  submits : ∀ cbs, s.event.call = .submit cbs → ∀ cb ∈ cbs, cb.made.dispatch = d
  recorded : outside a s.event.call = true →
    s.held = false ∧ ∀ x ∈ before, on_encoder x.event.call = true
  used : outside a s.event.call = false → s.held = true ∨
    ∃ x ∈ before, on_encoder x.event.call = false

namespace Spot

variable {d : ℕ} {a : Action} {t : ResourceTables} {before : List Site} {s : Site}

/-- A call under the guard. -/
theorem under_guard (ht : s.tables = t) (hheld : s.held = true)
    (houtside : outside a s.event.call = false)
    (hsubmits : ∀ cbs, s.event.call = .submit cbs → ∀ cb ∈ cbs, cb.made.dispatch = d) :
    Spot d a t before s :=
  ⟨ht, hsubmits, fun h => absurd (houtside.symm.trans h) (by simp), fun _ => Or.inl hheld⟩

/-- A call without the guard, when only commands have been recorded. -/
theorem recorded_only (ht : s.tables = t) (hheld : s.held = false)
    (houtside : outside a s.event.call = true)
    (hbefore : ∀ x ∈ before, on_encoder x.event.call = true)
    (hsubmits : ∀ cbs, s.event.call = .submit cbs → ∀ cb ∈ cbs, cb.made.dispatch = d) :
    Spot d a t before s :=
  ⟨ht, hsubmits, fun _ => ⟨hheld, hbefore⟩, fun h => absurd (houtside.symm.trans h) (by simp)⟩

/-- A call after another one that wrote or mapped a buffer. -/
theorem after_use {x : Site} (ht : s.tables = t) (hx : x ∈ before) (huse : on_encoder x.event.call = false)
    (houtside : outside a s.event.call = false)
    (hsubmits : ∀ cbs, s.event.call = .submit cbs → ∀ cb ∈ cbs, cb.made.dispatch = d) :
    Spot d a t before s :=
  ⟨ht, hsubmits, fun h => absurd (houtside.symm.trans h) (by simp),
    fun _ => Or.inr ⟨x, hx, huse⟩⟩

/-- A call that is no submission submits nothing foreign. -/
theorem not_submit {call : Call} (h : ∀ cbs, call ≠ .submit cbs) :
    ∀ cbs, call = .submit cbs → ∀ cb ∈ cbs, cb.made.dispatch = d :=
  fun cbs hcall => absurd hcall (h cbs)

/-- Nor does the empty submission. -/
theorem submit_nothing :
    ∀ cbs, (Call.submit [] : Call) = .submit cbs → ∀ cb ∈ cbs, cb.made.dispatch = d := by
  intro cbs hcall cb hcb
  rw [← Call.submit.inj hcall] at hcb
  exact absurd hcb List.not_mem_nil

end Spot

/-- What a create arm may lose does not depend on the call, only on whether the arm needs
another resource. -/
theorem outside_creation {a : Action} {c : Creation} (h : creation a = some c) (call : Call) :
    outside a call = creates_alone a := by
  rcases a
  case Submit recordings => exact absurd h (by simp [creation])
  case MapBufferForRead buffer offset size => exact absurd h (by simp [creation])
  all_goals rfl

/-- No create arm submits. -/
theorem creation_submits {a : Action} {c : Creation} (hc : creation a = some c)
    {t : ResourceTables} {call : Call} (hcall : c.call t = .ok call) (cbs : List CommandBuffer) :
    call ≠ .submit cbs := by
  rintro rfl
  exact absurd (creation_off_queue hc hcall) (by simp [on_queue])

section Spots

variable {reply : Occ → Call → Answer} {d : ℕ} {t : ResourceTables} {k : ℕ} {s : Site}

/-- A create arm that looks something up makes its object under the guard; one that does not has
made no call before. -/
theorem spot_creation {a : Action} {c : Creation} (hc : creation a = some c)
    (hs : (Dispatch.sites reply d (handle_arm a) false ⟨t, []⟩)[k]? = some s) :
    Spot d a t ((Dispatch.sites reply d (handle_arm a) false ⟨t, []⟩).take k) s := by
  rw [sites_creation reply d ⟨t, []⟩ hc] at hs ⊢
  rcases hcall : c.call t with r | call
  · rw [hcall] at hs
    exact absurd hs (by simp)
  · rw [hcall] at hs
    dsimp only at hs ⊢
    -- there is one call, so it is the one
    rcases k with _ | k
    · have hone := Option.some.inj hs
      rw [← hone]
      have hsubmits := creation_submits hc hcall
      -- and it is made under the guard unless the action creates alone
      rcases halone : creates_alone a with _ | _
      · refine Spot.under_guard rfl rfl ?_ (Spot.not_submit hsubmits)
        rw [outside_creation hc, halone]
      · refine Spot.recorded_only rfl rfl ?_ (fun x hx => absurd hx List.not_mem_nil)
          (Spot.not_submit hsubmits)
        rw [outside_creation hc, halone]
    · exact absurd hs (by simp)

/-- The calls of a `Submit` are those of its replays and, if these succeed, the
submission of command buffers that they finished. -/
theorem sites_submit (hnames : Names reply) (recordings : List Bytes) :
    ∃ last, Dispatch.sites reply d (submit recordings) false ⟨t, []⟩ =
        Dispatch.sites reply d (replay_recordings recordings) false ⟨t, []⟩ ++ last ∧
      (last = [] ∨ ∃ occ cbs, last = [⟨⟨occ, .submit cbs⟩, false, t⟩] ∧
        ∀ cb ∈ cbs, cb.made.dispatch = d) := by
  have hmakes := makes_recordings recordings
  have htables := hmakes.tables reply d ⟨t, []⟩
  rw [submit, Dispatch.sites_bind]
  refine ⟨_, rfl, ?_⟩
  -- a replay that fails is not followed by the submission
  rcases hexec : exec reply d (replay_recordings recordings) ⟨t, []⟩ with ⟨r | cbs, m⟩
  · exact Or.inl rfl
  · refine Or.inr ⟨m.next_occ d, cbs, ?_, ?_⟩
    · rw [hexec] at htables
      rw [hmakes.after, ← show m.tables = t from htables]
      rfl
    · -- a command buffer is named after a call of this dispatch
      intro cb hcb
      obtain ⟨rs, -, hcbs, hevents⟩ := replay_recordings_ok hnames hexec
      rw [← hcbs] at hcb
      obtain ⟨r, hr, rfl⟩ := List.mem_map.mp hcb
      have hlog := Dispatch.exec_sites reply d false ⟨t, []⟩ (replay_recordings recordings)
      rw [hexec, hevents] at hlog
      have hfinish : (⟨r.command_buffer.made, .finish r.encoder⟩ : Event) ∈
          rs.flatMap Replay.events := by
        refine List.mem_flatMap.mpr ⟨r, hr, ?_⟩
        exact List.mem_append_right _ (List.mem_singleton_self _)
      rw [List.append_cancel_left hlog] at hfinish
      obtain ⟨x, hx, hevent⟩ := List.mem_map.mp hfinish
      have hnumber := Prog.sites_dispatch reply d _ false ⟨t, []⟩ x hx
      rw [hevent] at hnumber
      exact hnumber

/-- A call of a replay. -/
theorem spot_replay {recordings : List Bytes} {before : List Site}
    (hcall : replays s.held s.event.call) (ht : s.tables = t)
    (hbefore : ∀ x ∈ before, on_encoder x.event.call = true) :
    Spot d (.Submit recordings) t before s := by
  have hsubmits : ∀ cbs, s.event.call ≠ .submit cbs := by
    intro cbs hcbs
    have hqueue := replays_off_queue hcall
    rw [hcbs] at hqueue
    exact absurd hqueue (by simp [on_queue])
  have houtside := outside_of_replays recordings hcall
  rcases hheld : s.held with _ | _
  · rw [hheld] at houtside
    exact Spot.recorded_only ht hheld houtside hbefore (Spot.not_submit hsubmits)
  · rw [hheld] at houtside
    exact Spot.under_guard ht hheld houtside (Spot.not_submit hsubmits)

/-- A submission's calls on its encoders are under the guard. Those that make, finish and submit
are not, and nothing but commands has gone before. -/
theorem spot_submit (hnames : Names reply) {recordings : List Bytes}
    (hs : (Dispatch.sites reply d (submit recordings) false ⟨t, []⟩)[k]? = some s) :
    Spot d (.Submit recordings) t
      ((Dispatch.sites reply d (submit recordings) false ⟨t, []⟩).take k) s := by
  have hreplay : ∀ x ∈ Dispatch.sites reply d (replay_recordings recordings) false ⟨t, []⟩,
      replays x.held x.event.call ∧ x.tables = t :=
    (makes_recordings recordings).site reply d ⟨t, []⟩
  have hrecord : ∀ x ∈ Dispatch.sites reply d (replay_recordings recordings) false ⟨t, []⟩,
      on_encoder x.event.call = true := fun x hx => on_encoder_of_replays (hreplay x hx).1
  obtain ⟨last, hsites, hlast⟩ := sites_submit (d := d) (t := t) hnames recordings
  rw [hsites] at hs ⊢
  by_cases hk : k < (Dispatch.sites reply d (replay_recordings recordings) false ⟨t, []⟩).length
  · -- a call of a replay: only calls of replays came before
    rw [List.getElem?_append_left hk] at hs
    rw [List.take_append_of_le_length (by omega)]
    obtain ⟨hcall, ht⟩ := hreplay s (List.mem_of_getElem? hs)
    exact spot_replay hcall ht fun x hx => hrecord x (List.mem_of_mem_take hx)
  · -- the submission: every replay came before
    rw [List.getElem?_append_right (by omega)] at hs
    rcases hlast with rfl | ⟨occ, cbs, rfl, hown⟩
    · exact absurd hs (by simp)
    · rw [List.getElem?_singleton] at hs
      by_cases hk0 : k - (Dispatch.sites reply d (replay_recordings recordings) false
          ⟨t, []⟩).length = 0
      · rw [if_pos hk0] at hs
        rw [← Option.some.inj hs, List.take_append, hk0, List.take_zero, List.append_nil]
        refine Spot.recorded_only rfl rfl rfl
          (fun x hx => hrecord x (List.mem_of_mem_take hx)) ?_
        intro cbs' hcbs
        rw [← Call.submit.inj hcbs]
        exact hown
      · rw [if_neg hk0] at hs
        exact absurd hs (by simp)

/-- `write_buffer` is called under the guard, the submission after it. -/
theorem spot_write_buffer {buffer : BufferId} {offset : BufferAddress} {data : Bytes}
    (hs : (Dispatch.sites reply d (write_buffer buffer offset data) false ⟨t, []⟩)[k]? = some s) :
    Spot d (.WriteBuffer buffer offset data) t
      ((Dispatch.sites reply d (write_buffer buffer offset data) false ⟨t, []⟩).take k) s := by
  rw [sites_write_buffer] at hs ⊢
  dsimp only at hs ⊢
  rcases hb : lookup t buffer with r | b
  · rw [hb] at hs
    exact absurd hs (by simp)
  · rw [hb] at hs
    rcases k with _ | _ | k
    · rw [← Option.some.inj hs]
      exact Spot.under_guard rfl rfl rfl (Spot.not_submit (by simp))
    · rw [← Option.some.inj hs]
      exact Spot.after_use rfl List.mem_cons_self rfl rfl Spot.submit_nothing
    · exact absurd hs (by simp)

/-- Both calls of a `WriteTexture` are made under the guard. -/
theorem spot_write_texture {texture : TextureId} {mip_level : UInt32} {origin : Origin3d}
    {aspect : TextureAspect} {data : Bytes} {data_layout : TexelCopyBufferLayout}
    {size : Extent3d} {before : List Site}
    (hs : (Dispatch.sites reply d (write_texture texture mip_level origin aspect data data_layout
      size) false ⟨t, []⟩)[k]? = some s) :
    Spot d (.WriteTexture texture mip_level origin aspect data data_layout size) t before s := by
  rw [sites_write_texture] at hs
  rcases hx : lookup t texture with r | x
  · rw [hx] at hs
    exact absurd hs (by simp)
  · rw [hx] at hs
    rcases k with _ | _ | k
    · rw [← Option.some.inj hs]
      exact Spot.under_guard rfl rfl rfl (Spot.not_submit (by simp))
    · rw [← Option.some.inj hs]
      exact Spot.under_guard rfl rfl rfl Spot.submit_nothing
    · exact absurd hs (by simp)

/-- A readback maps without the guard, and everything after that has mapped. -/
theorem spot_read_buffer {buffer : BufferId} {offset size : BufferAddress}
    (hs : (Dispatch.sites reply d (read_buffer buffer offset size) false ⟨t, []⟩)[k]? = some s) :
    Spot d (.MapBufferForRead buffer offset size) t
      ((Dispatch.sites reply d (read_buffer buffer offset size) false ⟨t, []⟩).take k) s := by
  rw [sites_read_buffer] at hs ⊢
  dsimp only at hs ⊢
  rcases hb : lookup t buffer with r | b
  · rw [hb] at hs
    exact absurd hs (by simp)
  · rw [hb] at hs
    -- the map comes first
    rcases k with _ | k
    · rw [← Option.some.inj hs]
      exact Spot.recorded_only rfl rfl rfl (fun x hx => absurd hx List.not_mem_nil)
        (Spot.not_submit (by simp))
    · -- the buffer is mapped by now
      dsimp only at hs ⊢
      have hmapped : s.tables = t ∧ (∀ cbs, s.event.call ≠ .submit cbs) ∧
          outside (.MapBufferForRead buffer offset size) s.event.call = false := by
        rw [List.getElem?_cons_succ] at hs
        split at hs
        · rcases k with _ | _ | k
          · rw [← Option.some.inj hs]
            exact ⟨rfl, fun cbs => by simp, rfl⟩
          · rw [← Option.some.inj hs]
            exact ⟨rfl, fun cbs => by simp, rfl⟩
          · exact absurd hs (by simp)
        · exact absurd hs (by simp)
        · exact absurd hs (by simp)
      obtain ⟨ht, hsubmits, houtside⟩ := hmapped
      exact Spot.after_use ht List.mem_cons_self rfl houtside (Spot.not_submit hsubmits)

/-- An arm without calls has no site. -/
theorem not_site {sites : List Site} (hsites : sites = []) (hs : sites[k]? = some s) : False := by
  rw [hsites] at hs
  exact absurd hs (by simp)

/-- **Every call of every action.** -/
theorem spot (hnames : Names reply) {a : Action}
    (hs : (Dispatch.sites reply d (handle_arm a) false ⟨t, []⟩)[k]? = some s) :
    Spot d a t ((Dispatch.sites reply d (handle_arm a) false ⟨t, []⟩).take k) s := by
  rcases hc : creation a with _ | c
  · rcases a
    case Submit recordings => exact spot_submit hnames hs
    case WriteBuffer buffer offset data => exact spot_write_buffer hs
    case WriteTexture texture mip_level origin aspect data data_layout size =>
      exact spot_write_texture hs
    case MapBufferForRead buffer offset size => exact spot_read_buffer hs
    case Destroy resource =>
      rcases resource
      all_goals exact (not_site rfl hs).elim
    case Hello v => exact (not_site rfl hs).elim
    case RequestAdapter => exact (not_site rfl hs).elim
    case RequestDevice label => exact (not_site rfl hs).elim
    case CreateCommandEncoder id desc => exact (not_site rfl hs).elim
    all_goals exact absurd hc (by simp [creation])
  · exact spot_creation hc hs

end Spots

/-! ## The names in a log -/

/-- A call of dispatch `d`, which submits nothing but its own command buffers. -/
def OwnCall (d : ℕ) (ev : Event) : Prop :=
  ev.occ.dispatch = d ∧ ∀ cbs, ev.call = .submit cbs → ∀ cb ∈ cbs, cb.made.dispatch = d

/-- The log names calls of past dispatches only. -/
structure Named (e : Engine) : Prop where
  calls : ∀ ev ∈ e.log, ev.occ.dispatch < e.dispatched
  submits : ∀ ev ∈ e.log, ∀ cbs, ev.call = .submit cbs → ∀ cb ∈ cbs,
    cb.made.dispatch < e.dispatched

/-- The calls of a frame carry the frame's number and submit its own command buffers. -/
theorem own_sites {reply : Occ → Call → Answer} {d : ℕ} (hnames : Names reply) (frame : Frame)
    (t : ResourceTables) :
    ∀ x ∈ (Server.dispatch frame).sites reply d false ⟨t, []⟩, OwnCall d x.event := by
  intro x hx
  refine ⟨Prog.sites_dispatch reply d _ false ⟨t, []⟩ x hx, ?_⟩
  rw [sites_dispatch] at hx
  obtain ⟨k, hk⟩ := List.getElem?_of_mem hx
  exact (spot hnames hk).submits

namespace Shared

variable {gpu : Gpu} {s s' : Shared}

/-- A log that is in order stays so when a dispatch adds calls of its own, all of them or the
first few. -/
theorem named_after (h : Named s.engine) {m : Mem} (poisoned : Bool)
    (hm : ∀ ev ∈ m.events, OwnCall s.engine.dispatched ev) : Named (s.after m poisoned).engine where
  calls := by
    intro ev hev
    rcases List.mem_append.mp hev with hev | hev
    · exact Nat.lt_succ_of_lt (h.calls ev hev)
    · rw [(hm ev hev).1]
      exact Nat.lt_succ_self _
  submits := by
    intro ev hev cbs hcbs cb hcb
    rcases List.mem_append.mp hev with hev | hev
    · exact Nat.lt_succ_of_lt (h.submits ev hev cbs hcbs cb hcb)
    · rw [(hm ev hev).2 cbs hcbs cb hcb]
      exact Nat.lt_succ_self _

/-- With the mutex free a frame is dispatched as the engine does it. -/
theorem dispatch_free (hfree : s.poisoned = false) (frame : Frame) :
    s.dispatch gpu frame =
      (some ((Server.dispatch frame).run (s.engine.reply gpu) s.engine.dispatched
          ⟨s.engine.tables, []⟩).1,
        s.after ((Server.dispatch frame).run (s.engine.reply gpu) s.engine.dispatched
          ⟨s.engine.tables, []⟩).2 false) := by
  unfold Shared.dispatch
  rw [hfree]
  rfl

/-- The calls a frame adds to the log are its own. -/
theorem own_events (gpu : Gpu) (s : Shared) (frame : Frame) :
    ∀ ev ∈ ((Server.dispatch frame).run (s.engine.reply gpu) s.engine.dispatched
      ⟨s.engine.tables, []⟩).2.events, OwnCall s.engine.dispatched ev := by
  intro ev hev
  rw [Prog.run_sites _ _ _ false] at hev
  obtain ⟨x, hx, rfl⟩ := List.mem_map.mp (List.mem_append.mp hev |>.resolve_left List.not_mem_nil)
  exact own_sites (names_reply gpu s.engine) frame s.engine.tables x hx

/-- The calls a frame makes before its call number `k`, if none panics. -/
def before (gpu : Gpu) (s : Shared) (frame : Frame) (k : ℕ) : List Site :=
  (Dispatch.sites (s.engine.reply gpu) s.engine.dispatched (handle_arm frame.action) false
    ⟨s.engine.tables, []⟩).take k

/-- A frame that panics, taken apart. -/
theorem panic_eq {frame : Frame} {k : ℕ} {f : Fault} {crash : Crash}
    (h : s.panic gpu frame k f = some crash) :
    ∃ x, (Dispatch.sites (s.engine.reply gpu) s.engine.dispatched (handle_arm frame.action) false
        ⟨s.engine.tables, []⟩)[k]? = some x ∧ f.at_call x.event.call = true ∧
      crash = ⟨x.event.call, f.poisons x.held, x.tables,
        (s.before gpu frame k).map Site.event ++ f.left x.event⟩ := by
  unfold Shared.panic at h
  rw [Prog.crash_eq, sites_dispatch] at h
  obtain ⟨x, hx, hcrash⟩ := Option.bind_eq_some_iff.mp h
  by_cases hat : f.at_call x.event.call = true
  · rw [if_pos hat] at hcrash
    exact ⟨x, hx, hat, (Option.some.inj hcrash).symm⟩
  · rw [if_neg hat] at hcrash
    exact absurd hcrash (by simp)

/-- What a frame has done before it panics are calls of its own. -/
theorem own_crash {frame : Frame} {k : ℕ} {f : Fault} {crash : Crash}
    (h : s.panic gpu frame k f = some crash) :
    ∀ ev ∈ crash.mem.events, OwnCall s.engine.dispatched ev := by
  obtain ⟨x, hx, -, rfl⟩ := panic_eq h
  intro ev hev
  have hown := own_sites (names_reply gpu s.engine) (d := s.engine.dispatched) frame s.engine.tables
  rw [sites_dispatch] at hown
  rcases List.mem_append.mp hev with hev | hev
  · obtain ⟨y, hy, rfl⟩ := List.mem_map.mp hev
    exact hown y (List.mem_of_mem_take hy)
  · rw [Fault.left_own ev hev]
    exact hown x (List.mem_of_getElem? hx)

/-- As long as the mutex is not poisoned, the log is in order. -/
theorem named_step {l : Label} (h : s.poisoned = false → Named s.engine)
    (hstep : s.step gpu l = some s') (hfree : s'.poisoned = false) : Named s'.engine := by
  rcases l with frame | ⟨frame, k, f⟩
  · rw [← Option.some.inj hstep] at hfree ⊢
    by_cases hs : s.poisoned = true
    · unfold Shared.dispatch at hfree
      rw [hs] at hfree
      exact absurd hfree (by simp [Shared.after])
    · rw [Bool.not_eq_true] at hs
      rw [dispatch_free hs]
      exact named_after (h hs) false (own_events gpu s frame)
  · simp only [Shared.step] at hstep
    split at hstep
    · exact absurd hstep (by simp)
    · rename_i hs
      rw [Bool.not_eq_true] at hs
      obtain ⟨crash, hcrash, rfl⟩ := Option.map_eq_some_iff.mp hstep
      exact named_after (h hs) _ (own_crash hcrash)

/-- The log of an engine that is not poisoned is in order, after any run of frames and panics.
-/
theorem named_run {labels : List Label} (hrun : Transition.run (step gpu) new labels = some s)
    (hfree : s.poisoned = false) : Named s.engine := by
  have hnew : new.poisoned = false → Named new.engine := fun _ =>
    ⟨fun ev hev => absurd hev List.not_mem_nil, fun ev hev => absurd hev List.not_mem_nil⟩
  exact Transition.run_invariant (step gpu) (fun _ _ _ h hstep => named_step h hstep) hnew hrun hfree

/-! ## A panic nobody notices -/

/-- Two engines that differ in what dispatch `d` has recorded, and in nothing else. -/
structure Twin (d : ℕ) (s s' : Shared) : Prop where
  free : s.poisoned = false
  free' : s'.poisoned = false
  tables : s.engine.tables = s'.engine.tables
  number : s.engine.dispatched = s'.engine.dispatched
  past : d < s.engine.dispatched
  log : (s.engine.log.filter fun ev => ev.occ.dispatch ≠ d) = s'.engine.log
  recorded : ∀ ev ∈ s.engine.log, ev.occ.dispatch = d → on_encoder ev.call = true
  unsubmitted : ∀ ev ∈ s.engine.log, ∀ cbs, ev.call = .submit cbs → ∀ cb ∈ cbs, cb.made.dispatch ≠ d

variable {d : ℕ}

/-- wgpu tells them apart nowhere. -/
theorem Twin.reply (h : Twin d s s') (hgpu : IgnoresUnsubmitted gpu) :
    s.engine.reply gpu = s'.engine.reply gpu := by
  have hanswers := hgpu s.engine.log d h.recorded h.unsubmitted
  rw [h.log] at hanswers
  funext occ c
  unfold Engine.reply
  congr 1
  · split
    · exact (hanswers occ _).1
    · rfl
  · split
    · exact (hanswers occ _).2
    · rfl

/-- A frame is answered the same by both, and leaves them alike. -/
theorem Twin.dispatch (h : Twin d s s') (hgpu : IgnoresUnsubmitted gpu) (frame : Frame) :
    (s.dispatch gpu frame).1 = (s'.dispatch gpu frame).1 ∧
      Twin d (s.dispatch gpu frame).2 (s'.dispatch gpu frame).2 := by
  have hown := own_events gpu s frame
  rw [dispatch_free h.free, dispatch_free h.free', ← h.reply hgpu, ← h.number, ← h.tables]
  generalize (Server.dispatch frame).run (s.engine.reply gpu) s.engine.dispatched
    ⟨s.engine.tables, []⟩ = result at hown
  obtain ⟨r, m⟩ := result
  have hpast := h.past
  refine ⟨rfl, rfl, rfl, rfl, congrArg (· + 1) h.number, Nat.lt_succ_of_lt hpast, ?_, ?_, ?_⟩
  · -- the new calls are of a later dispatch
    have hkeep : (m.events.filter fun ev => ev.occ.dispatch ≠ d) = m.events := by
      refine List.filter_eq_self.mpr ?_
      intro ev hev
      have hd := (hown ev hev).1
      refine decide_eq_true ?_
      omega
    show (s.engine.log ++ m.events).filter _ = s'.engine.log ++ m.events
    rw [List.filter_append, hkeep, h.log]
  -- what dispatch `d` recorded is still all it did
  · intro ev hev hd
    rcases List.mem_append.mp hev with hev | hev
    · exact h.recorded ev hev hd
    · have hd' := (hown ev hev).1
      omega
  -- and nobody has submitted it since
  · intro ev hev cbs hcbs cb hcb
    rcases List.mem_append.mp hev with hev | hev
    · exact h.unsubmitted ev hev cbs hcbs cb hcb
    · have hd' := (hown ev hev).2 cbs hcbs cb hcb
      omega

/-- Engines that differ in a forgotten dispatch answer every later frame alike: no frame can
name the objects of that dispatch, and wgpu ignores what was never submitted. -/
theorem Twin.answers (h : Twin d s s') (hgpu : IgnoresUnsubmitted gpu) (later : List Frame) :
    s.answers gpu later = s'.answers gpu later := by
  induction later generalizing s s' with
  | nil => rfl
  | cons frame later ih =>
      obtain ⟨hanswer, hnext⟩ := h.dispatch hgpu frame
      rw [Shared.answers, Shared.answers, hanswer, ih hnext]

/-- A fault that `contains` names is not noticed. -/
theorem contained_of_contains (hgpu : IgnoresUnsubmitted gpu) (hnamed : Named s.engine)
    (hfree : s.poisoned = false) {frame : Frame} {k : ℕ} {f : Fault}
    (hcontains : ∀ crash, s.panic gpu frame k f = some crash →
      contains frame.action crash.call f = true) :
    Contained gpu s frame k f := by
  intro crash hcrash
  have hcall := hcontains crash hcrash
  have hown := own_crash hcrash
  obtain ⟨x, hx, hat, rfl⟩ := panic_eq hcrash
  obtain ⟨houtside, hquiet⟩ := (Bool.and_eq_true _ _).mp hcall
  have hspot := spot (names_reply gpu s.engine) hx
  obtain ⟨hheld, hbefore⟩ := hspot.recorded houtside
  have hpoisoned : f.poisons x.held = false := by
    rw [Fault.poisons_of_quiet hquiet, hheld]
  have htables := hspot.tables
  refine ⟨hpoisoned, htables, fun later => ?_⟩
  -- what the dispatch has left with wgpu are recorded commands
  have hrecorded : ∀ ev ∈ (s.before gpu frame k).map Site.event ++ f.left x.event,
      on_encoder ev.call = true := by
    intro ev hev
    rcases List.mem_append.mp hev with hev | hev
    · obtain ⟨y, hy, rfl⟩ := List.mem_map.mp hev
      exact hbefore y hy
    · exact Fault.recorded_of_quiet hquiet ev hev
  -- and no submission, before or after, names their command buffers
  have htwin : Twin s.engine.dispatched (s.after ⟨x.tables, (s.before gpu frame k).map Site.event ++
      f.left x.event⟩ (f.poisons x.held)) s.pass := by
    refine ⟨hpoisoned, hfree, htables, rfl, Nat.lt_succ_self _, ?_, ?_, ?_⟩
    · have hkeep : (s.engine.log.filter fun ev => ev.occ.dispatch ≠ s.engine.dispatched) =
          s.engine.log := by
        refine List.filter_eq_self.mpr ?_
        intro ev hev
        have hd := hnamed.calls ev hev
        refine decide_eq_true ?_
        omega
      show (s.engine.log ++ _).filter _ = s.engine.log ++ []
      rw [List.filter_append, hkeep]
      congr 1
      refine List.filter_eq_nil_iff.mpr ?_
      intro ev hev
      have hd := (hown ev hev).1
      simp [hd]
    · intro ev hev hd
      rcases List.mem_append.mp hev with hev | hev
      · have hd' := hnamed.calls ev hev
        omega
      · exact hrecorded ev hev
    · intro ev hev cbs hcbs cb hcb
      rcases List.mem_append.mp hev with hev | hev
      · have hd' := hnamed.submits ev hev cbs hcbs cb hcb
        omega
      · have hnot := hrecorded ev hev
        rw [hcbs] at hnot
        exact absurd hnot (by simp [on_encoder])
  exact htwin.answers hgpu later

/-! ## A panic that is noticed -/

/-- The calls of a log that do more than record commands. -/
def weight (log : List Event) : ℕ := (log.filter fun ev => !on_encoder ev.call).length

theorem weight_append (log log' : List Event) : weight (log ++ log') = weight log + weight log' := by
  unfold weight
  rw [List.filter_append, List.length_append]

/-- A call that does more than record counts. -/
theorem weight_pos {log : List Event} {ev : Event} (hev : ev ∈ log)
    (h : on_encoder ev.call = false) : 0 < weight log := by
  refine List.length_pos_of_mem (a := ev) (List.mem_filter.mpr ⟨hev, ?_⟩)
  rw [h]
  rfl

/-- Leaving out a dispatch that has only recorded commands keeps the weight. -/
theorem weight_filter {log : List Event} {d : ℕ}
    (h : ∀ ev ∈ log, ev.occ.dispatch = d → on_encoder ev.call = true) :
    weight (log.filter fun ev => ev.occ.dispatch ≠ d) = weight log := by
  unfold weight
  rw [List.filter_filter]
  congr 1
  apply List.filter_congr
  intro ev hev
  by_cases hd : ev.occ.dispatch = d
  · rw [h ev hev hd]
    rfl
  · simp [hd]

/-- wgpu as it was up to `log`; from then on every map succeeds, and what is
mapped has one byte more than it would have had. -/
def one_more (gpu : Gpu) (log : List Event) : Gpu where
  map_result past occ slice :=
    if weight past ≤ weight log then gpu.map_result past occ slice else .Ok
  mapped_bytes past occ slice :=
    if weight past ≤ weight log then gpu.mapped_bytes past occ slice
    else 0 :: gpu.mapped_bytes log occ slice

/-- Up to the log the two have answered alike. -/
theorem one_more_same (gpu : Gpu) (log : List Event) : SamePast gpu (one_more gpu log) log := by
  rintro past ⟨rest, hrest⟩
  have hle : weight past ≤ weight log := by
    rw [← hrest, weight_append]
    omega
  refine ⟨?_, ?_⟩
  · funext occ slice
    exact if_pos hle
  · funext occ slice
    exact if_pos hle

/-- Counting only calls that do more than record, the new wgpu ignores what was never submitted
as the old one does. -/
theorem one_more_ignores (hgpu : IgnoresUnsubmitted gpu) (log : List Event) :
    IgnoresUnsubmitted (one_more gpu log) := by
  intro past d hrecorded hunsubmitted occ slice
  obtain ⟨hmap, hbytes⟩ := hgpu past d hrecorded hunsubmitted occ slice
  have hweight := weight_filter hrecorded
  unfold one_more
  dsimp only
  rw [hweight, hmap, hbytes]
  exact ⟨rfl, rfl⟩

/-- Make a buffer, without asking for an answer. -/
def make_buffer_frame (usage : BufferUsages) : Frame :=
  ⟨none, .CreateBuffer ⟨0⟩ ⟨none, 8, usage, false⟩⟩

/-- And read it. -/
def read_buffer_frame : Frame := ⟨some ⟨0⟩, .MapBufferForRead ⟨0⟩ 0 8⟩

/-- The call that makes the buffer, in dispatch `d`. -/
def made_buffer (usage : BufferUsages) (d : ℕ) : Event :=
  ⟨⟨d, 0⟩, .create_buffer ⟨none, 8, usage, false⟩⟩

/-- What a client that makes a buffer and reads it is answered. -/
theorem answers_read (hfree : s.poisoned = false) (usage : BufferUsages) :
    s.answers gpu [make_buffer_frame usage, read_buffer_frame] =
      [some none, some (some ⟨⟨0⟩, read_response gpu
        (s.engine.log ++ [made_buffer usage s.engine.dispatched]) (s.engine.dispatched + 1)
        ⟨⟨⟨s.engine.dispatched, 0⟩⟩, 0, some (0 + 8)⟩⟩)] := by
  have hmade : s.dispatch gpu (make_buffer_frame usage) = (some none, s.after
      ⟨s.engine.tables.insert (⟨0⟩ : BufferId) ⟨⟨s.engine.dispatched, 0⟩⟩,
        [made_buffer usage s.engine.dispatched]⟩ false) := by
    rw [dispatch_free hfree]
    rfl
  -- the buffer is under its id now
  generalize hs : s.after ⟨s.engine.tables.insert (⟨0⟩ : BufferId) ⟨⟨s.engine.dispatched, 0⟩⟩,
    [made_buffer usage s.engine.dispatched]⟩ false = s' at hmade
  have hfree' : s'.poisoned = false := by
    rw [← hs]
    rfl
  have hb : lookup s'.engine.tables (⟨0⟩ : BufferId) = .ok ⟨⟨s.engine.dispatched, 0⟩⟩ := by
    rw [← hs]
    have hget : (s.engine.tables.insert (⟨0⟩ : BufferId) ⟨⟨s.engine.dispatched, 0⟩⟩)
        (Id.ref (⟨0⟩ : BufferId)) = some ⟨s.engine.dispatched, 0⟩ := Store.insert_self _ _ _
    exact lookup_as_some _ hget
  have hread := exec_read_buffer gpu s'.engine hb 0 8
  rcases hexec : exec (s'.engine.reply gpu) s'.engine.dispatched
    (handle_arm (.MapBufferForRead ⟨0⟩ 0 8)) ⟨s'.engine.tables, []⟩ with ⟨r, m⟩
  change (exec _ _ (handle_arm (.MapBufferForRead ⟨0⟩ 0 8)) _).1 = _ at hread
  rw [hexec] at hread
  have hanswer : (s'.dispatch gpu read_buffer_frame).1 =
      some (s'.engine.dispatch gpu read_buffer_frame).1 := by
    rw [dispatch_free hfree']
    rfl
  rw [Shared.answers, Shared.answers, Shared.answers, hmade, hanswer, read_buffer_frame, dispatch_eq,
    handle_eq gpu s'.engine _ hexec, show r = _ from hread, ← hs]
  rfl

/-- What wgpu will answer later makes no difference to a panic now. -/
theorem panic_same {gpu' : Gpu} (h : SamePast gpu gpu' s.engine.log) (frame : Frame) (k : ℕ)
    (f : Fault) : s.panic gpu' frame k f = s.panic gpu frame k f := by
  obtain ⟨hmap, hbytes⟩ := h s.engine.log (List.prefix_refl _)
  have hreply : s.engine.reply gpu' = s.engine.reply gpu := by
    funext occ c
    unfold Engine.reply
    rw [hmap, hbytes]
  unfold Shared.panic
  dsimp only
  rw [hreply]

/-- A fault that `contains` does not name poisons the mutex, or wgpu keeps more than
commands. -/
theorem left_of_not_contains {frame : Frame} {k : ℕ} {f : Fault} {crash : Crash}
    (hcrash : s.panic gpu frame k f = some crash)
    (hcontains : contains frame.action crash.call f = false) :
    crash.poisoned = true ∨ ∃ ev ∈ crash.mem.events, on_encoder ev.call = false := by
  obtain ⟨x, hx, hat, rfl⟩ := panic_eq hcrash
  have hspot := spot (names_reply gpu s.engine) hx
  rcases hquiet : f.quiet x.event.call with _ | _
  · obtain ⟨hleft, hcall⟩ := Fault.kept_of_not_quiet hquiet hat
    exact Or.inr ⟨x.event, List.mem_append_right _ hleft, hcall⟩
  · have houtside : outside frame.action x.event.call = false := by
      unfold contains at hcontains
      rw [hquiet, Bool.and_true] at hcontains
      exact hcontains
    rcases hspot.used houtside with hheld | ⟨y, hy, hcall⟩
    · exact Or.inl ((Fault.poisons_of_quiet hquiet).trans hheld)
    · exact Or.inr ⟨y.event, List.mem_append_left _ (List.mem_map_of_mem hy), hcall⟩

/-- Once more than commands has been left with wgpu, wgpu can tell: a client that
makes a buffer and reads it is shown one byte more. -/
theorem noticed (usage : BufferUsages) (hfree : s.poisoned = false) {frame : Frame} {k : ℕ} {f : Fault}
    {crash : Crash} (hcrash : s.panic gpu frame k f = some crash)
    (hcontains : contains frame.action crash.call f = false) :
    ¬ Contained (one_more gpu (s.engine.log ++ [made_buffer usage (s.engine.dispatched + 1)])) s
      frame k f := by
  intro hcontained
  have hsame := one_more_same gpu (s.engine.log ++ [made_buffer usage (s.engine.dispatched + 1)])
  have hpast : SamePast gpu (one_more gpu
      (s.engine.log ++ [made_buffer usage (s.engine.dispatched + 1)])) s.engine.log :=
    fun past hle => hsame past (hle.trans (List.prefix_append _ _))
  obtain ⟨hpoisoned, -, hanswers⟩ := hcontained crash ((panic_same hpast frame k f).trans hcrash)
  rcases left_of_not_contains hcrash hcontains with htrue | ⟨ev, hev, hcall⟩
  · exact absurd (hpoisoned.symm.trans htrue) (by simp)
  · have hread := hanswers [make_buffer_frame usage, read_buffer_frame]
    have hpass : s.pass.poisoned = false := hfree
    rw [answers_read (s := s.pass) hpass, answers_read (s := s.after crash.mem crash.poisoned) hpoisoned]
      at hread
    obtain ⟨-, hread⟩ := List.cons.inj hread
    have hresponse := ResponseFrame.mk.inj (Option.some.inj (Option.some.inj (List.cons.inj hread).1))
    have hnothing : s.pass.engine.log = s.engine.log := List.append_nil _
    -- what was left weighs more than nothing
    have hmore : ¬ weight ((s.after crash.mem crash.poisoned).engine.log ++
        [made_buffer usage (s.engine.dispatched + 1)]) ≤
        weight (s.engine.log ++ [made_buffer usage (s.engine.dispatched + 1)]) := by
      have hpos := weight_pos hev hcall
      show ¬ weight ((s.engine.log ++ crash.mem.events) ++ _) ≤ _
      rw [weight_append, weight_append, weight_append]
      omega
    have heq := hresponse.2
    rw [hnothing] at heq
    unfold read_response one_more at heq
    dsimp only [Shared.pass, Shared.after] at heq hmore
    rw [if_neg hmore, if_neg hmore, if_pos (Nat.le_refl _), if_pos (Nat.le_refl _)] at heq
    dsimp only at heq
    split at heq
    · have hbytes := congrArg List.length (Response.BufferData.inj heq)
      rw [List.length_cons] at hbytes
      omega
    · exact absurd heq (by simp)
    · exact absurd heq (by simp)

/-! ## Every panic -/

/-- **When a panic is contained**, in every reachable state and for every fault at
every call of every frame, whatever wgpu answers from there on. There is a value of
the type of buffer usages. -/
theorem panic_contained_iff (usage : BufferUsages) (hgpu : IgnoresUnsubmitted gpu)
    {labels : List Label} (hrun : Transition.run (step gpu) new labels = some s)
    (hfree : s.poisoned = false) {frame : Frame} {k : ℕ} {f : Fault} {crash : Crash}
    (hcrash : s.panic gpu frame k f = some crash) :
    (∀ gpu', IgnoresUnsubmitted gpu' → SamePast gpu gpu' s.engine.log →
        Contained gpu' s frame k f) ↔
      contains frame.action crash.call f = true := by
  constructor
  · intro hall
    by_contra hnot
    rw [Bool.not_eq_true] at hnot
    refine noticed usage hfree hcrash hnot (hall _ (one_more_ignores hgpu _) fun past hle => ?_)
    exact one_more_same gpu _ past (hle.trans (List.prefix_append _ _))
  · intro hcontains gpu' hgpu' hpast
    refine contained_of_contains hgpu' (named_run hrun hfree) hfree ?_
    intro crash' hcrash'
    rw [panic_same hpast, hcrash] at hcrash'
    rw [← Option.some.inj hcrash']
    exact hcontains

end Shared

end Poison

/-! ## A write out of range -/

section Runs

open Shared

attribute [local instance] WgpuTypes.numeric

def eight_bytes : BufferDescriptor := ⟨none, 8, (8 : UInt32), false⟩

/-- A wgpu that answers everything alike ignores everything. -/
theorem idle_gpu_ignores : IgnoresUnsubmitted idle_gpu := fun _ _ _ _ _ _ => ⟨rfl, rfl⟩

/-- One client makes a buffer. -/
def with_buffer_made : Shared := (new.dispatch idle_gpu ⟨some ⟨1⟩, .CreateBuffer ⟨1⟩ eight_bytes⟩).2

/-- It reads past the end of it, and asks for an empty command buffer. -/
def read_past_end : Frame := ⟨some ⟨2⟩, .MapBufferForRead ⟨1⟩ 0 16⟩

def submit_nothing : Frame := ⟨some ⟨3⟩, .Submit [[0, 0]]⟩

/-- The slice of the readback panics, and after it a `finish`, of which wgpu keeps
what it was given. Both panics are contained. -/
theorem panics_contained :
    let s : Shared := with_buffer_made.after ⟨with_buffer_made.engine.tables, []⟩ false
    (∃ crash, with_buffer_made.panic idle_gpu read_past_end 0 .slice = some crash ∧
      s = with_buffer_made.after crash.mem crash.poisoned) ∧
    (∀ gpu', IgnoresUnsubmitted gpu' → SamePast idle_gpu gpu' with_buffer_made.engine.log →
      Contained gpu' with_buffer_made read_past_end 0 .slice) ∧
    (∃ crash, s.panic idle_gpu submit_nothing 1 (.call true) = some crash ∧
      crash.mem.events.length = 2) ∧
    ∀ gpu', IgnoresUnsubmitted gpu' → SamePast idle_gpu gpu' s.engine.log →
      Contained gpu' s submit_nothing 1 (.call true) := by
  intro s
  -- one dispatch leads to `with_buffer_made`, and the slice that panics to `s`
  have hmade : Transition.run (step idle_gpu) new
      [.dispatch ⟨some ⟨1⟩, .CreateBuffer ⟨1⟩ eight_bytes⟩] = some with_buffer_made := rfl
  have hslice : with_buffer_made.panic idle_gpu read_past_end 0 .slice =
      some ⟨.map_async ⟨⟨⟨0, 0⟩⟩, 0, some 16⟩, false, with_buffer_made.engine.tables, []⟩ := rfl
  have hread : Transition.run (step idle_gpu) new [.dispatch ⟨some ⟨1⟩, .CreateBuffer ⟨1⟩ eight_bytes⟩,
      .panic read_past_end 0 .slice] = some s := rfl
  -- the second panic is at the `finish` of a submission
  obtain ⟨crash, hfinish, hcall, hevents⟩ : ∃ crash,
      s.panic idle_gpu submit_nothing 1 (.call true) = some crash ∧
        contains submit_nothing.action crash.call (.call true) = true ∧
        crash.mem.events.length = 2 := ⟨_, rfl, rfl, rfl⟩
  exact ⟨⟨_, hslice, rfl⟩,
    (panic_contained_iff (8 : UInt32) idle_gpu_ignores hmade rfl hslice).mpr rfl,
    ⟨crash, hfinish, hevents⟩,
    (panic_contained_iff (8 : UInt32) idle_gpu_ignores hread rfl hfinish).mpr hcall⟩

/-- It writes past the end of it. -/
def write_past_end : Frame := ⟨some ⟨2⟩, .WriteBuffer ⟨1⟩ 8 [1]⟩

/-- **And the mutex is poisoned**: `write_buffer` is called under the guard. -/
theorem write_past_end_poisons :
    ¬ ∀ (gpu : Gpu) (labels : List Label) (s : Shared) (frame : Frame) (k : ℕ) (f : Fault),
      IgnoresUnsubmitted gpu → Transition.run (step gpu) new labels = some s →
        Contained gpu s frame k f := by
  intro h
  have hcontained := h idle_gpu [.dispatch ⟨some ⟨1⟩, .CreateBuffer ⟨1⟩ eight_bytes⟩]
    with_buffer_made write_past_end 0 (.call false) idle_gpu_ignores rfl
  obtain ⟨crash, hcrash, hpoisoned⟩ : ∃ crash,
      with_buffer_made.panic idle_gpu write_past_end 0 (.call false) = some crash ∧
        crash.poisoned = true := ⟨_, rfl, rfl⟩
  exact absurd (hpoisoned.symm.trans (hcontained crash hcrash).1) (by simp)

end Runs

end WgpuRemote.Server
