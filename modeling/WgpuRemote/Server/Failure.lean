/-
What a failed action leaves behind, and when an action fails.

An action that is acknowledged is exactly an admitted one. An action that is
answered an error has changed no table and has given the wgpu queue nothing: the
arms look everything up before they use the queue, and a `Submit` replays all its
recordings before it submits any. An acknowledged `Submit` makes one submission,
of one command buffer for each recording.
-/
import WgpuRemote.Server.Sites

set_option autoImplicit false

namespace WgpuRemote.Server

open Bincode Footprint
open Wgpu (Occ Obj Call Event Gpu CommandBuffer)
open Dispatch (attempt issue make add store with_tables insert respond exec)
open Prog (Mem)

section Failure

variable [WgpuTypes]

/-- The calls on the queue. -/
def on_queue : Call → Bool
  | .write_buffer _ _ _ | .write_texture _ _ _ _ | .submit _ => true
  | _ => false

/-- What of a log reached the queue. -/
def queue_calls (events : List Event) : List Call := (events.map Event.call).filter on_queue

/-- What reaches the queue, in two parts. -/
theorem queue_calls_append (events events' : List Event) :
    queue_calls (events ++ events') = queue_calls events ++ queue_calls events' := by
  unfold queue_calls
  rw [List.map_append, List.filter_append]

/-- A log without a call on the queue leaves nothing there. -/
theorem queue_calls_eq_nil {events : List Event} (h : ∀ ev ∈ events, on_queue ev.call = false) :
    queue_calls events = [] := by
  refine List.filter_eq_nil_iff.mpr ?_
  intro c hc
  obtain ⟨ev, hev, rfl⟩ := List.mem_map.mp hc
  rw [h ev hev]
  exact Bool.false_ne_true

/-! ## One recording replayed -/

/-- The replay of one recording of a `Submit`: an encoder is made, every call
goes to it, and it is finished. -/
structure Replay where
  raw : Bytes
  recording : CommandBufferRecording
  decoded : CommandBufferRecording.decode raw = .ok recording
  encoder : Occ
  body : List Event
  encodes : ∀ ev ∈ body, ∃ call, ev.call = .encode encoder call
  command_buffer : CommandBuffer

def Replay.events (r : Replay) : List Event :=
  ⟨r.encoder, .create_command_encoder r.recording.label⟩ ::
    r.body ++ [⟨r.command_buffer.made, .finish r.encoder⟩]

/-- A replay is off the queue: it makes an encoder, encodes and finishes it. -/
theorem Replay.off_queue (r : Replay) : ∀ ev ∈ r.events, on_queue ev.call = false := by
  intro ev hev
  rcases List.mem_cons.mp hev with rfl | hev
  · rfl
  rcases List.mem_append.mp hev with hev | hev
  · obtain ⟨call, hcall⟩ := r.encodes ev hev
    rw [hcall]
    rfl
  · rw [List.mem_singleton.mp hev]
    rfl

/-- The same of the calls a replay is allowed to make. -/
theorem replays_off_queue {held : Bool} {c : Call} (h : replays held c) : on_queue c = false := by
  unfold replays at h
  split at h
  · rfl
  · rfl
  · rfl
  · exact absurd h id

section Exec

variable (d : ℕ)

/-- wgpu names what an encoder call made after that call. -/
def Names (reply : Occ → Call → Answer) : Prop := ∀ occ c, (reply occ c).made = occ

/-- The engine's wgpu names its objects by occurrence. -/
theorem names_reply (gpu : Gpu) (e : Engine) : Names (e.reply gpu) := fun _ _ => rfl

variable {reply : Occ → Call → Answer} {d}

/-- A replay that succeeds. -/
theorem replay_recording_ok (hnames : Names reply) {raw : Bytes} {recording : CommandBufferRecording}
    (hraw : CommandBufferRecording.decode raw = .ok recording) {m m' : Mem} {cb : CommandBuffer}
    (h : exec reply d (replay_recording recording) m = (.ok cb, m')) :
    ∃ r : Replay, r.raw = raw ∧ r.command_buffer = cb ∧ m'.events = m.events ++ r.events := by
  -- the calls of the commands, all of them on the encoder made first
  have hcommands := Makes.for_each (makes_encoder_command m.tables (m.next_occ d)) recording.commands
  obtain ⟨body, hbody, hencodes⟩ := hcommands.events reply d
    (m.log d (.create_command_encoder recording.label))
  rw [replay_recording, Dispatch.exec_bind, Dispatch.exec_issue] at h
  dsimp only at h
  rw [hnames, Dispatch.exec_bind, Dispatch.exec_with_tables, Mem.log_tables] at h
  rcases hexec : exec reply d
    (for_each (replay_encoder_command m.tables (m.next_occ d)) recording.commands)
    (m.log d (.create_command_encoder recording.label)) with ⟨r | u, m1⟩
  · rw [hexec] at h
    exact absurd h (by simp)
  · rw [hexec] at h hbody
    dsimp only at h hbody
    rw [Dispatch.exec_bind, Dispatch.exec_issue] at h
    dsimp only at h
    rw [Dispatch.exec_pure, hnames] at h
    obtain ⟨hcb, hm⟩ := Prod.mk.inj h
    refine ⟨⟨raw, recording, hraw, m.next_occ d, body, ?_, cb⟩, rfl, rfl, ?_⟩
    · intro ev hev
      obtain ⟨held, -, hcall⟩ := hencodes ev hev
      exact hcall
    · rw [← hm, ← Except.ok.inj hcb, Mem.log_events, hbody, Mem.log_events]
      simp [Replay.events]

/-- All the recordings of a `Submit`, replayed one after the other. -/
theorem replay_recordings_ok (hnames : Names reply) {recordings : List Bytes} {m m' : Mem}
    {cbs : List CommandBuffer}
    (h : exec reply d (replay_recordings recordings) m = (.ok cbs, m')) :
    ∃ rs : List Replay, rs.map Replay.raw = recordings ∧ rs.map Replay.command_buffer = cbs ∧
      m'.events = m.events ++ rs.flatMap Replay.events := by
  induction recordings generalizing m cbs with
  | nil =>
      obtain ⟨hcbs, hm⟩ := Prod.mk.inj h
      refine ⟨[], rfl, Except.ok.inj hcbs, ?_⟩
      rw [← hm]
      exact (List.append_nil _).symm
  | cons raw recordings ih =>
      rw [replay_recordings] at h
      rcases hraw : CommandBufferRecording.decode raw with e | recording
      · rw [hraw] at h
        exact absurd (congrArg Prod.fst h) (by simp [Dispatch.exec_bind])
      · -- the first recording is replayed, then the rest
        rw [hraw] at h
        change exec reply d (replay_recording recording >>= fun cb =>
          replay_recordings recordings >>= fun cbs => pure (cb :: cbs)) m = _ at h
        rw [Dispatch.exec_bind] at h
        rcases hfirst : exec reply d (replay_recording recording) m with ⟨r | cb, m1⟩
        · rw [hfirst] at h
          exact absurd (congrArg Prod.fst h) (by simp)
        · rw [hfirst] at h
          dsimp only at h
          rw [Dispatch.exec_bind] at h
          rcases hrest : exec reply d (replay_recordings recordings) m1 with ⟨r | cbs', m2⟩
          · rw [hrest] at h
            exact absurd (congrArg Prod.fst h) (by simp)
          · rw [hrest] at h
            -- both parts succeeded
            obtain ⟨hcbs, hm⟩ := Prod.mk.inj h
            rw [show m2 = m' from hm] at hrest
            obtain ⟨r, hr, hcb, hevents⟩ := replay_recording_ok hnames hraw hfirst
            obtain ⟨rs, hrs, hcbs', hevents'⟩ := ih hrest
            refine ⟨r :: rs, ?_, ?_, ?_⟩
            · rw [List.map_cons, hr, hrs]
            · rw [List.map_cons, hcb, hcbs']
              exact Except.ok.inj hcbs
            · rw [hevents', hevents, List.flatMap_cons, List.append_assoc]

end Exec

/-! ## An action that is answered an error -/

/-- The calls that make a resource. -/
def makes_resource : Call → Bool
  | .create_buffer _ | .create_texture _ | .create_view _ _ | .create_sampler _
  | .create_shader_module _ | .create_bind_group_layout _ | .create_bind_group _
  | .create_pipeline_layout _ | .create_render_pipeline _ | .create_compute_pipeline _
  | .render_get_bind_group_layout _ _ | .compute_get_bind_group_layout _ _ => true
  | _ => false

/-- A create arm makes no other call. -/
theorem creation_makes {a : Action} {c : Creation} (hc : creation a = some c)
    {t : ResourceTables} {call : Call} (hcall : c.call t = .ok call) :
    makes_resource call = true := by
  rcases a
  case CreateBuffer | CreateTexture | CreateSampler | CreateBindGroupLayout =>
    -- an arm that resolves nothing
    rw [← Option.some.inj hc] at hcall
    rw [← Except.ok.inj hcall]
    rfl
  case CreateTextureView | CreateShaderModule | CreateBindGroup | CreatePipelineLayout |
      CreateRenderPipeline | CreateComputePipeline | DeriveRenderPipelineBindGroupLayout |
      DeriveComputePipelineBindGroupLayout =>
    -- an arm that resolves a descriptor
    rw [← Option.some.inj hc] at hcall
    obtain ⟨x, -, hx⟩ := map_eq_ok.mp hcall
    rw [← hx]
    rfl
  all_goals exact absurd hc (by simp [creation])

/-- No create arm uses the queue. -/
theorem creation_off_queue {a : Action} {c : Creation} (hc : creation a = some c)
    {t : ResourceTables} {call : Call} (hcall : c.call t = .ok call) : on_queue call = false := by
  have hmakes := creation_makes hc hcall
  cases call with
  | write_buffer | write_texture | submit => exact absurd hmakes (by simp [makes_resource])
  | _ => rfl

/-- Nor does one slice a buffer. -/
theorem creation_no_slice {a : Action} {c : Creation} (hc : creation a = some c)
    {t : ResourceTables} {call : Call} (hcall : c.call t = .ok call) : slice_of call = none := by
  have hmakes := creation_makes hc hcall
  cases call with
  | map_async | get_mapped_range | encode => exact absurd hmakes (by simp [makes_resource])
  | _ => rfl

section Rejected

variable (reply : Occ → Call → Answer) (d : ℕ) {t : ResourceTables} {r : Response}

/-- A write to a buffer that is not held stops at the lookup, before the queue. -/
theorem write_buffer_off_queue {buffer : BufferId} (hb : lookup t buffer = .error r)
    (offset : BufferAddress) (data : Bytes) :
    queue_calls (exec reply d (write_buffer buffer offset data) ⟨t, []⟩).2.events = [] := by
  have herror : exec reply d (with_buffer buffer fun b => do
      let _ ← issue (.write_buffer b offset data)
      return ()) ⟨t, []⟩ = (.error r, ⟨t, []⟩) := by
    rw [with_buffer, Dispatch.exec_with_tables, Dispatch.exec_bind, Dispatch.exec_attempt, hb]
  rw [write_buffer, Dispatch.exec_bind_error _ _ _ herror]
  rfl

/-- So does a write to a texture. -/
theorem write_texture_off_queue {texture : TextureId} (hx : lookup t texture = .error r)
    (mip_level : UInt32) (origin : Origin3d) (aspect : TextureAspect) (data : Bytes)
    (data_layout : TexelCopyBufferLayout) (size : Extent3d) :
    queue_calls (exec reply d (write_texture texture mip_level origin aspect data data_layout size)
      ⟨t, []⟩).2.events = [] := by
  rw [write_texture, Dispatch.exec_with_tables, Dispatch.exec_bind, Dispatch.exec_attempt, hx]
  rfl

/-- So does a readback. -/
theorem read_buffer_off_queue {buffer : BufferId} (hb : lookup t buffer = .error r)
    (offset size : BufferAddress) :
    queue_calls (exec reply d (read_buffer buffer offset size) ⟨t, []⟩).2.events = [] := by
  have herror : exec reply d (with_tables fun t => attempt (lookup t buffer)) ⟨t, []⟩ =
      (.error r, ⟨t, []⟩) := by
    rw [Dispatch.exec_with_tables, Dispatch.exec_attempt, hb]
  rw [read_buffer, Dispatch.exec_bind_error _ _ _ herror]
  rfl

/-- When a replay fails the submission is not made. -/
theorem submit_off_queue {recordings : List Bytes}
    (hfails : (exec reply d (submit recordings) ⟨t, []⟩).1 ≠ .ok .Ok) :
    queue_calls (exec reply d (submit recordings) ⟨t, []⟩).2.events = [] := by
  obtain ⟨evs, hevents, hcalls⟩ := (makes_recordings recordings).events reply d ⟨t, []⟩
  rcases hexec : exec reply d (replay_recordings recordings) ⟨t, []⟩ with ⟨r | cbs, m⟩
  · rw [submit, Dispatch.exec_bind_error _ _ _ hexec]
    rw [hexec] at hevents
    rw [show m.events = evs from hevents]
    apply queue_calls_eq_nil
    intro ev hev
    obtain ⟨held, hreplays⟩ := hcalls ev hev
    exact replays_off_queue hreplays
  · refine absurd ?_ hfails
    rw [submit, Dispatch.exec_bind_ok _ _ _ hexec]
    rfl

end Rejected

omit [WgpuTypes] in
/-- What is not in its table is not found. -/
theorem lookup_fails {k : Kind} {t : ResourceTables} {id : Id k}
    (h : ¬ Present [id.ref] t) : ∃ r, lookup t id = .error r := by
  rcases hx : lookup t id with r | x
  · exact ⟨r, rfl⟩
  · exact absurd (((resolves_lookup id).ok_iff t).mp ⟨x, hx⟩).2 h

/-- The arm of an action that is not admitted gives the queue nothing. -/
theorem rejected_off_queue (reply : Occ → Call → Answer) (d : ℕ) {a : Action} {t : ResourceTables}
    (h : ¬ Admitted a t) :
    queue_calls (exec reply d (handle_arm a) ⟨t, []⟩).2.events = [] := by
  rcases hc : creation a with _ | c
  · rcases hr : removes a with _ | ref
    · -- the arms that only read
      have hfails : ∀ x, (exec reply d (handle_arm a) ⟨t, []⟩).1 ≠ .ok x :=
        fun x hx => h (((reads_arm a hc hr).ok_iff reply d t []).mp ⟨x, hx⟩)
      rcases a
      case WriteBuffer buffer offset data =>
        obtain ⟨r, hb⟩ := lookup_fails fun hpresent => h ⟨trivial, hpresent⟩
        exact write_buffer_off_queue reply d hb offset data
      case WriteTexture texture mip_level origin aspect data data_layout size =>
        obtain ⟨r, hx⟩ := lookup_fails fun hpresent => h ⟨trivial, hpresent⟩
        exact write_texture_off_queue reply d hx mip_level origin aspect data data_layout size
      case Submit recordings => exact submit_off_queue reply d (hfails .Ok)
      case MapBufferForRead buffer offset size =>
        obtain ⟨r, hb⟩ := lookup_fails fun hpresent => h ⟨trivial, hpresent⟩
        exact read_buffer_off_queue reply d hb offset size
      case Destroy resource => exact absurd ⟨trivial, Present.nil _⟩ h
      case Hello v => exact absurd ⟨trivial, Present.nil _⟩ h
      case RequestAdapter => exact absurd ⟨trivial, Present.nil _⟩ h
      case RequestDevice label => exact absurd ⟨trivial, Present.nil _⟩ h
      case CreateCommandEncoder id desc => exact absurd ⟨trivial, Present.nil _⟩ h
      all_goals exact absurd hc (by simp [creation])
    · -- the one arm that removes is always admitted
      rcases a
      case Destroy resource => exact absurd ⟨trivial, Present.nil _⟩ h
      all_goals exact absurd hr (by simp [removes])
  · -- a create arm whose lookups fail makes no call
    have hexec := exec_creation reply d ⟨t, []⟩ hc
    rcases hcall : c.call t with r | call
    · rw [hcall] at hexec
      rw [hexec]
      rfl
    · exact absurd (((creation_resolves hc).ok_iff t).mp ⟨call, hcall⟩) h

/-- An admitted `Submit` replays each recording and submits what it made. -/
theorem admitted_submit {reply : Occ → Call → Answer} (hnames : Names reply) (d : ℕ)
    {recordings : List Bytes} {t : ResourceTables} (h : Admitted (.Submit recordings) t) :
    ∃ (rs : List Replay) (occ : Occ), rs.map Replay.raw = recordings ∧
      (exec reply d (submit recordings) ⟨t, []⟩).2.events =
        rs.flatMap Replay.events ++ [⟨occ, .submit (rs.map Replay.command_buffer)⟩] := by
  obtain ⟨cbs, hok⟩ := ((reads_recordings recordings).ok_iff reply d t []).mpr h
  rcases hreplay : exec reply d (replay_recordings recordings) ⟨t, []⟩ with ⟨err | cbs', m⟩
  · rw [hreplay] at hok
    exact absurd hok (by simp)
  · obtain ⟨rs, hraws, hcbs, hevents⟩ := replay_recordings_ok hnames hreplay
    refine ⟨rs, m.next_occ d, hraws, ?_⟩
    rw [submit, Dispatch.exec_bind_ok _ _ _ hreplay, hcbs]
    change m.events ++ [_] = _
    rw [hevents]
    rfl

/-- Everything is looked up before anything is done. -/
structure AllOrNothing (gpu : Gpu) (e : Engine) (a : Action) : Prop where
  /-- The action is acknowledged if it is supported and all the ids it reads
  are in their tables, and only then. -/
  acknowledged : (e.handle gpu a).1 = some .Ok ↔ Admitted a e.tables
  /-- Otherwise it is answered an error, no table has changed and nothing has
  reached the queue. -/
  failed : (e.handle gpu a).1 ≠ some .Ok →
    (∃ code message, (e.handle gpu a).1 = some (.Error code message)) ∧
      (e.handle gpu a).2.tables = e.tables ∧
      ∃ evs, (e.handle gpu a).2.log = e.log ++ evs ∧ queue_calls evs = []
  destroyed : ∀ resource, a = .Destroy resource → (e.handle gpu a).1 = some .Ok
  /-- An acknowledged `Submit` has replayed each recording and made one
  submission, of their command buffers in order. -/
  submitted : ∀ recordings, a = .Submit recordings → (e.handle gpu a).1 = some .Ok →
    ∃ (rs : List Replay) (occ : Occ) (evs : List Event),
      (e.handle gpu a).2.log = e.log ++ evs ∧ rs.map Replay.raw = recordings ∧
      evs = rs.flatMap Replay.events ++ [⟨occ, .submit (rs.map Replay.command_buffer)⟩] ∧
      queue_calls evs = [.submit (rs.map Replay.command_buffer)]

/-- **Failed actions leave no trace, and fail exactly when they should.** -/
theorem all_or_nothing (gpu : Gpu) (e : Engine) (a : Action) (hquery : is_query a = false) :
    AllOrNothing gpu e a := by
  have hacknowledged : (e.handle gpu a).1 = some .Ok ↔ Admitted a e.tables := by
    constructor
    · intro hok
      by_contra hadm
      obtain ⟨-, r, hresp, herr⟩ := handle_rejected gpu e a hadm
      rw [hok] at hresp
      rcases herr with ⟨what, raw, rfl⟩ | ⟨-, message, rfl⟩
      · exact absurd hresp (by simp [unknown])
      · exact absurd hresp (by simp)
    · intro hadm
      exact (handle_admitted gpu e a hadm).2 hquery
  rcases hexec : exec (e.reply gpu) e.dispatched (handle_arm a) ⟨e.tables, []⟩ with ⟨r, m⟩
  have heq := handle_eq gpu e a hexec
  refine ⟨hacknowledged, ?_, ?_, ?_⟩
  · -- whatever is not acknowledged was not admitted
    intro hfailed
    have hadm : ¬ Admitted a e.tables := fun hadm => hfailed (hacknowledged.mpr hadm)
    obtain ⟨htables, r', hresp, herr⟩ := handle_rejected gpu e a hadm
    have hquiet := rejected_off_queue (e.reply gpu) e.dispatched hadm
    rw [hexec] at hquiet
    refine ⟨?_, htables, m.events, by rw [heq], hquiet⟩
    rcases herr with ⟨what, raw, rfl⟩ | ⟨-, message, rfl⟩
    · exact ⟨_, _, hresp⟩
    · exact ⟨_, _, hresp⟩
  · rintro resource rfl
    exact hacknowledged.mpr ⟨trivial, Present.nil _⟩
  · rintro recordings rfl hok
    obtain ⟨rs, occ, hraws, hevents⟩ :=
      admitted_submit (names_reply gpu e) e.dispatched (hacknowledged.mp hok)
    change exec _ _ (submit recordings) _ = _ at hexec
    rw [hexec] at hevents
    refine ⟨rs, occ, m.events, by rw [heq], hraws, hevents, ?_⟩
    -- replays are off the queue, so the submission is all it was given
    rw [show m.events = _ from hevents, queue_calls_append, queue_calls_eq_nil]
    · rfl
    · intro ev hev
      obtain ⟨r, -, hr⟩ := List.mem_flatMap.mp hev
      exact r.off_queue ev hr

end Failure

/-! ## A submission that fails -/

section Runs

attribute [local instance] WgpuTypes.numeric

/-- A recording that clears the buffer `7`, which there is not. -/
def clears_unknown : Bytes := [0, 1, 3, 7, 0, 0]

/-- A recording that clears a buffer nobody made: the submission is refused under that buffer's
name, and nothing of it reaches the queue. -/
theorem unknown_submitted_nowhere :
    AllOrNothing idle_gpu Engine.new (.Submit [clears_unknown]) ∧
      (Engine.new.handle idle_gpu (.Submit [clears_unknown])).1 =
        some (unknown "BufferId" 7) :=
  ⟨all_or_nothing idle_gpu Engine.new _ rfl, rfl⟩

end Runs

end WgpuRemote.Server
