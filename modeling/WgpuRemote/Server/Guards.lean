/-
How the engine uses its lock.

`Paired` says of a piece of code that it takes the tables mutex only without a
guard and drops only a guard it has, that it assigns the tables only through a
guard, that it waits for the GPU only without one, and that it is done after a
bounded number of operations, whatever it finds in the tables and whatever wgpu
answers. The rules follow the structure of the code. With them, every action of
the engine is paired, starts and ends without the guard, and takes at most
`action_work` operations (`paired_handle`).
-/
import WgpuRemote.Server.Engine

set_option autoImplicit false

namespace WgpuRemote.Server

open Bincode
open Wgpu (Occ Obj Call Event)
open Dispatch (attempt issue make add store with_tables insert respond)

section Guards

variable [WgpuTypes]

/-- The calls a task waits in: `map_async`, up to its callback. -/
def waits : Call → Bool
  | .map_async _ => true
  | _ => false

/-- Started with the guard alive or not (`held`), the code takes and drops
guards in turn, leaves `final` behind, and performs at most `n` operations. -/
inductive Paired (final : Bool) {α : Type} : Bool → ℕ → Prog α → Prop
  | done (n : ℕ) (a : α) : Paired final final n (.done a)
  | lock {n : ℕ} {next : ResourceTables → Prog α} : (∀ t, Paired final true n (next t)) →
      Paired final false (n + 1) (.lock next)
  | store {n : ℕ} {t : ResourceTables} {next : Prog α} : Paired final true n next →
      Paired final true (n + 1) (.store t next)
  | unlock {n : ℕ} {next : Prog α} : Paired final false n next →
      Paired final true (n + 1) (.unlock next)
  | call {held : Bool} {n : ℕ} {c : Call} {next : Answer → Prog α} :
      (waits c = true → held = false) → (∀ a, Paired final held n (next a)) →
      Paired final held (n + 1) (.call c next)
  | add {held : Bool} {n : ℕ} {a b : UInt64} {next : UInt64 → Prog α} :
      (∀ s, Paired final held n (next s)) → Paired final held (n + 1) (.add a b next)

namespace Paired

variable {α β : Type} {final middle held : Bool} {n m : ℕ}

/-- Finished code leaves the guard as announced. -/
theorem done_inv {a : α} (h : Paired final held n (.done a)) : held = final := by
  cases h
  rfl

/-- The lock is taken while the guard is free, and the rest starts with it held. -/
theorem lock_inv {next : ResourceTables → Prog α} (h : Paired final held n (.lock next)) :
    held = false ∧ ∃ k, n = k + 1 ∧ ∀ t, Paired final true k (next t) := by
  cases h with
  | lock hnext => exact ⟨rfl, _, rfl, hnext⟩

/-- The tables are written under the guard only. -/
theorem store_inv {t : ResourceTables} {next : Prog α} (h : Paired final held n (.store t next)) :
    held = true ∧ ∃ k, n = k + 1 ∧ Paired final true k next := by
  cases h with
  | store hnext => exact ⟨rfl, _, rfl, hnext⟩

/-- The guard is given up by the one who holds it. -/
theorem unlock_inv {next : Prog α} (h : Paired final held n (.unlock next)) :
    held = true ∧ ∃ k, n = k + 1 ∧ Paired final false k next := by
  cases h with
  | unlock hnext => exact ⟨rfl, _, rfl, hnext⟩

/-- A call that waits is made with the guard free. -/
theorem call_inv {c : Call} {next : Answer → Prog α} (h : Paired final held n (.call c next)) :
    (waits c = true → held = false) ∧ ∃ k, n = k + 1 ∧ ∀ a, Paired final held k (next a) := by
  cases h with
  | call hwait hnext => exact ⟨hwait, _, rfl, hnext⟩

/-- An unchecked addition does not touch the guard. -/
theorem add_inv {a b : UInt64} {next : UInt64 → Prog α} (h : Paired final held n (.add a b next)) :
    ∃ k, n = k + 1 ∧ ∀ s, Paired final held k (next s) := by
  cases h with
  | add hnext => exact ⟨_, rfl, hnext⟩

/-- A bound on the statements left may be raised: what a longer branch allows, a shorter one
needs. -/
theorem mono {p : Prog α} (h : Paired final held n p) (hnm : n ≤ m) : Paired final held m p := by
  induction h generalizing m with
  | done n a => exact .done m a
  | lock _ ih =>
      obtain ⟨k, rfl⟩ := Nat.exists_eq_add_of_lt (Nat.lt_of_succ_le hnm)
      exact .lock fun t => ih t (by omega)
  | store _ ih =>
      obtain ⟨k, rfl⟩ := Nat.exists_eq_add_of_lt (Nat.lt_of_succ_le hnm)
      exact .store (ih (by omega))
  | unlock _ ih =>
      obtain ⟨k, rfl⟩ := Nat.exists_eq_add_of_lt (Nat.lt_of_succ_le hnm)
      exact .unlock (ih (by omega))
  | call hwait _ ih =>
      obtain ⟨k, rfl⟩ := Nat.exists_eq_add_of_lt (Nat.lt_of_succ_le hnm)
      exact .call hwait fun a => ih a (by omega)
  | add _ ih =>
      obtain ⟨k, rfl⟩ := Nat.exists_eq_add_of_lt (Nat.lt_of_succ_le hnm)
      exact .add fun s => ih s (by omega)

/-- One piece of code after the other. -/
theorem bind {p : Prog α} {f : α → Prog β} (hp : Paired middle held n p)
    (hf : ∀ a, Paired final middle m (f a)) : Paired final held (n + m) (p >>= f) := by
  change Paired final held (n + m) (p.bind f)
  induction hp with
  | done n a => exact (hf a).mono (Nat.le_add_left m n)
  | lock _ ih =>
      rw [Nat.add_right_comm]
      exact .lock ih
  | store _ ih =>
      rw [Nat.add_right_comm]
      exact .store ih
  | unlock _ ih =>
      rw [Nat.add_right_comm]
      exact .unlock ih
  | call hwait _ ih =>
      rw [Nat.add_right_comm]
      exact .call hwait ih
  | add _ ih =>
      rw [Nat.add_right_comm]
      exact .add ih

end Paired

/-! ## Code with early returns -/

section Dispatch

variable {α β : Type} {held : Bool} {n m : ℕ}

theorem paired_attempt (r : Except Response α) : Paired held held n (attempt r).run := .done n r

theorem paired_pure (a : α) : Paired held held n (pure a : Dispatch α).run := .done n _

/-- Statements in sequence: the bounds add up. An error of the first ends the program there,
which is why the guard must be the same before and between. -/
theorem paired_bind {p : Dispatch α} {f : α → Dispatch β} (hp : Paired held held n p.run)
    (hf : ∀ a, Paired held held m (f a).run) : Paired held held (n + m) (p >>= f).run := by
  refine hp.bind fun r => ?_
  rcases r with e | a
  · -- an early return
    exact .done m _
  · exact hf a

/-- A lookup is no operation. -/
theorem paired_attempt_bind {r : Except Response α} {f : α → Dispatch β}
    (hf : ∀ a, Paired held held n (f a).run) : Paired held held n (attempt r >>= f).run := by
  have h := paired_bind (paired_attempt (n := 0) r) hf
  rw [Nat.zero_add] at h
  exact h

/-- One call of wgpu, made with the guard free if it waits. -/
theorem paired_issue {c : Call} (hc : waits c = true → held = false) :
    Paired held held 1 (issue c).run :=
  .call hc fun _ => .done 0 _

theorem paired_add (a b : UInt64) : Paired held held 1 (add a b).run := .add fun _ => .done 0 _

/-- Making an object is the one call that makes it. -/
theorem paired_make {k : Kind} {c : Call} (hc : waits c = true → held = false) :
    Paired held held 1 (make k c).run :=
  .call hc fun _ => .done 0 _

/-- The scope of a guard takes and drops it. -/
theorem paired_with_tables {body : ResourceTables → Dispatch α}
    (hbody : ∀ t, Paired true true n (body t).run) :
    Paired false false (n + 2) (with_tables body).run :=
  .lock fun t => (hbody t).bind fun r => .unlock (.done 0 r)

/-- An insertion locks, writes and unlocks: three statements that end with the guard free. -/
theorem paired_insert {k : Kind} (id : Id k) (o : Obj k) :
    Paired false false 3 (insert id o).run :=
  paired_with_tables fun _ => .store (.done 0 _)

/-- Turning an error into its response adds no statement. -/
theorem paired_respond {p : Dispatch Response} (hp : Paired held held n p.run) :
    Paired held held n (respond p) := by
  refine hp.bind (m := 0) fun r => ?_
  rcases r with e | a
  · exact .done 0 _
  · exact .done 0 _

/-- Encoding is one call, and no encoder call waits. -/
theorem paired_encode (encoder : Occ) (call : Wgpu.EncoderCall Obj) :
    Paired held held 1 (encode encoder call).run :=
  .call (fun h => by cases h) fun _ => .done 0 _

/-- `slice` adds at most once, when a size is given. -/
theorem paired_slice (b : Obj .Buffer) (offset : BufferAddress) (size : Option BufferAddress) :
    Paired held held 1 (slice b offset size).run := by
  rcases size with _ | size
  · exact .done 1 _
  · exact .add fun _ => .done 0 _

/-- A loop takes what its turns take together. -/
theorem paired_for_each {f : α → Dispatch Unit} {work : α → ℕ}
    (hf : ∀ c, Paired held held (work c) (f c).run) (l : List α) :
    Paired held held (l.map work).sum (for_each f l).run := by
  induction l with
  | nil => exact .done 0 _
  | cons c l ih =>
      rw [List.map_cons, List.sum_cons]
      exact paired_bind (hf c) fun _ => ih

/-- A loop whose turns take at most `n` operations each. -/
theorem paired_for_each_le {f : α → Dispatch Unit} (hf : ∀ c, Paired held held n (f c).run)
    (l : List α) : Paired held held (l.length * n) (for_each f l).run := by
  induction l with
  | nil => exact .done _ _
  | cons c l ih =>
      rw [List.length_cons, Nat.succ_mul, Nat.add_comm]
      exact paired_bind (hf c) fun _ => ih

/-- A pass is begun and ended, on an early return as well. -/
theorem paired_with_pass {body : Dispatch Unit} (hbody : Paired held held n body.run)
    (encoder : Occ) (opening closing : Wgpu.EncoderCall Obj) :
    Paired held held (n + 2) (with_pass encoder opening closing body).run := by
  have hclose : ∀ r : Except Response Unit, Paired held held 1
      ((encode encoder closing).run >>= fun _ => pure r) := fun r =>
    (paired_encode encoder closing).bind (m := 0) fun _ => .done 0 r
  have h := paired_bind (paired_encode encoder opening) fun _ => hbody.bind hclose
  rw [Nat.add_comm 1, Nat.add_assoc] at h
  exact h

end Dispatch

/-! ## Replaying -/

variable {held : Bool}

/-- Operations in the replay of one command. -/
def command_work : EncoderCommand → ℕ
  | .BeginComputePass _ commands => commands.length + 2
  | .BeginRenderPass _ _ _ commands => commands.length * 2 + 2
  | _ => 1

/-- Operations in the replay of one recording. -/
def recording_work (recording : CommandBufferRecording) : ℕ :=
  (recording.commands.map command_work).sum + 4

/-- Operations for one payload of a `Submit`. -/
def payload_work (raw : Bytes) : ℕ :=
  match CommandBufferRecording.decode raw with
  | .ok recording => recording_work recording
  | .error _ => 0

/-- Operations for an action. -/
def action_work : Action → ℕ
  | .Submit recordings => (recordings.map payload_work).sum + 1
  | _ => 7

/-- Look one object up and encode one call with it. -/
theorem paired_one {k : Kind} (t : ResourceTables) (id : Id k) (encoder : Occ)
    (f : Obj k → Wgpu.EncoderCall Obj) :
    Paired held held 1 (attempt (lookup t id) >>= fun o => encode encoder (f o)).run :=
  paired_attempt_bind fun o => paired_encode encoder (f o)

/-- A compute command is at most one encoder call. -/
theorem paired_compute_command (t : ResourceTables) (pass : Occ) (c : ComputeCommand) :
    Paired held held 1 (replay_compute_command t pass c).run := by
  rcases c with id | ⟨index, group, offsets⟩ | ⟨offset, data⟩ | ⟨x, y, z⟩ | ⟨buffer, offset⟩
  · exact paired_one t id pass _
  · exact paired_one t group pass _
  · exact paired_encode pass _
  · exact paired_encode pass _
  · exact paired_one t buffer pass _

/-- A render command is at most an addition, for a slice with a size, and one encoder call. -/
theorem paired_render_command (t : ResourceTables) (pass : Occ) (c : RenderCommand) :
    Paired held held 2 (replay_render_command t pass c).run := by
  rcases c with id | ⟨index, group, offsets⟩ | ⟨slot, buffer, offset, size⟩ |
    ⟨buffer, format, offset, size⟩ | ⟨vertices, instances⟩ | ⟨indices, base_vertex, instances⟩
  · exact (paired_one t id pass _).mono (by omega)
  · exact (paired_one t group pass _).mono (by omega)
  · -- the slice adds, then the call is made
    exact paired_attempt_bind fun b => paired_bind (paired_slice b offset size) fun _ =>
      paired_encode pass _
  · exact paired_attempt_bind fun b => paired_bind (paired_slice b offset size) fun _ =>
      paired_encode pass _
  · exact (paired_encode pass _).mono (by omega)
  · exact (paired_encode pass _).mono (by omega)

/-- An encoder command costs what `command_work` counts, passes included: the opening call, the
pass' commands and the closing call. -/
theorem paired_encoder_command (t : ResourceTables) (encoder : Occ) (c : EncoderCommand) :
    Paired held held (command_work c) (replay_encoder_command t encoder c).run := by
  rcases c
  case CopyBufferToBuffer source source_offset destination destination_offset size =>
    exact paired_attempt_bind fun _ => paired_one t destination encoder _
  case ClearBuffer buffer offset size => exact paired_one t buffer encoder _
  case CopyBufferToTexture source destination copy_size =>
    exact paired_attempt_bind fun _ => paired_attempt_bind fun _ => paired_encode encoder _
  case CopyTextureToBuffer source destination copy_size =>
    exact paired_attempt_bind fun _ => paired_attempt_bind fun _ => paired_encode encoder _
  case BeginComputePass label commands =>
    have hloop : Paired held held (commands.length * 1)
        (for_each (replay_compute_command t encoder) commands).run :=
      paired_for_each_le (paired_compute_command t encoder) commands
    rw [Nat.mul_one] at hloop
    exact paired_with_pass hloop encoder _ _
  case BeginRenderPass label color_attachments depth_attachment commands =>
    have hloop : Paired held held (commands.length * 2)
        (for_each (replay_render_command t encoder) commands).run :=
      paired_for_each_le (paired_render_command t encoder) commands
    exact paired_attempt_bind fun _ => paired_attempt_bind fun _ =>
      paired_with_pass hloop encoder _ _

/-- A recording is replayed under one guard, so that its work is that of its commands and the
statements around them. -/
theorem paired_recording (recording : CommandBufferRecording) :
    Paired false false (recording_work recording) (replay_recording recording).run := by
  have hsection : ∀ encoder : Answer, Paired false false
      ((recording.commands.map command_work).sum + 2)
      (with_tables fun t =>
        for_each (replay_encoder_command t encoder.made) recording.commands).run := fun encoder =>
    paired_with_tables fun t =>
      paired_for_each (paired_encoder_command t encoder.made) recording.commands
  unfold recording_work replay_recording
  refine Paired.mono (n := 1 + ((recording.commands.map command_work).sum + 2 + (1 + 0))) ?_
    (by omega)
  refine paired_bind (paired_issue fun _ => rfl) fun encoder => ?_
  refine paired_bind (hsection encoder) fun _ => ?_
  exact paired_bind (paired_issue fun _ => rfl) fun cb => paired_pure _

/-- A submission's recordings are replayed one after another; a payload that does not decode
costs nothing. -/
theorem paired_recordings (recordings : List Bytes) :
    Paired false false (recordings.map payload_work).sum (replay_recordings recordings).run := by
  induction recordings with
  | nil => exact .done 0 _
  | cons raw recordings ih =>
      rw [List.map_cons, List.sum_cons]
      rcases hraw : CommandBufferRecording.decode raw with e | recording
      · -- nothing is replayed from there on
        rw [replay_recordings, hraw]
        exact .done _ _
      · have hwork : payload_work raw = recording_work recording := by
          rw [payload_work, hraw]
        rw [replay_recordings, hraw, hwork]
        have h := paired_bind (paired_recording recording) fun cb =>
          paired_bind ih fun cbs => paired_pure (n := 0) (cb :: cbs)
        exact h

/-! ## The arms -/

/-- Making an object and inserting it. -/
theorem paired_create {k : Kind} {p : Dispatch (Obj k)} {n : ℕ} (hp : Paired false false n p.run)
    (id : Id k) :
    Paired false false (n + 3) (do let o ← p; insert id o; return Response.Ok : Dispatch Response).run :=
  paired_bind hp fun o => paired_bind (paired_insert id o) fun _ => paired_pure (n := 0) Response.Ok

/-- The arms that make their object before the tables are touched. -/
theorem paired_create_unlocked {k : Kind} (id : Id k) (c : Call) :
    Paired false false 4 (do
      let o ← make k c
      insert id o
      return Response.Ok : Dispatch Response).run :=
  paired_create (paired_make fun _ => rfl) id

/-- The arms that look up and make the object under one guard; the guard is given up before the
insertion takes it again. -/
theorem paired_create_locked {γ : Type} {k : Kind} (id : Id k)
    (b : ResourceTables → Except Response γ) (f : γ → Call) (hf : ∀ x, waits (f x) = false) :
    Paired false false 6 (do
        let o ← with_tables fun t => do
          let desc ← attempt (b t)
          make k (f desc)
        insert id o
        return Response.Ok : Dispatch Response).run := by
  refine paired_create (n := 3) (paired_with_tables fun t => paired_attempt_bind fun desc => ?_) id
  refine paired_make fun h => ?_
  rw [hf] at h
  cases h

/-- Deriving a bind group layout looks the pipeline up under the guard, and inserts under a
second one. -/
theorem paired_derive {k : Kind} (pipeline : Id k) (f : Obj k → Call)
    (hf : ∀ x, waits (f x) = false) (id : BindGroupLayoutId) :
    Paired false false 4 (derive_bind_group_layout pipeline f id).run := by
  refine paired_with_tables fun t => paired_attempt_bind fun p => ?_
  refine paired_bind (n := 1) (m := 1) (paired_make fun h => ?_) fun bgl => .store (.done 0 _)
  rw [hf] at h
  cases h

/-- The only arm that waits does so without the guard. -/
theorem paired_read (buffer : BufferId) (offset size : BufferAddress) :
    Paired false false 7 (read_buffer buffer offset size).run := by
  have hlookup : Paired false false 2
      (with_tables fun t => attempt (lookup t buffer) : Dispatch (Obj .Buffer)).run :=
    paired_with_tables fun t => paired_attempt (n := 0) (lookup t buffer)
  refine paired_bind (m := 5) hlookup fun b => ?_
  refine paired_bind (m := 4) (paired_add offset size) fun stop => ?_
  refine paired_bind (m := 3) (paired_issue fun _ => rfl) fun map => ?_
  obtain ⟨made, map_result, bytes⟩ := map
  rcases map_result
  · refine paired_bind (m := 2) (paired_add offset size) fun stop => ?_
    refine paired_bind (m := 1) (paired_issue fun _ => rfl) fun view => ?_
    exact paired_bind (m := 0) (paired_issue fun _ => rfl) fun _ => paired_pure _
  · exact .done 3 _
  · exact .done 3 _

/-- **Every arm of the engine** uses its guards in pairs. -/
theorem paired_arm (a : Action) : Paired false false (action_work a) (handle_arm a).run := by
  rcases a
  case Hello => exact .done 7 _
  case RequestAdapter => exact .done 7 _
  case RequestDevice => exact .done 7 _
  case CreateCommandEncoder => exact .done 7 _
  case CreateBuffer id desc => exact (paired_create_unlocked id _).mono (show 4 ≤ 7 by omega)
  case CreateTexture id desc => exact (paired_create_unlocked id _).mono (show 4 ≤ 7 by omega)
  case CreateSampler id desc => exact (paired_create_unlocked id _).mono (show 4 ≤ 7 by omega)
  case CreateBindGroupLayout id desc => exact (paired_create_unlocked id _).mono (show 4 ≤ 7 by omega)
  case CreateShaderModule id desc =>
    exact Paired.mono (paired_attempt_bind fun _ => paired_create_unlocked id _) (show 4 ≤ 7 by omega)
  case CreateTextureView id texture desc =>
    exact (paired_create_locked id _ _ fun _ => rfl).mono (show 6 ≤ 7 by omega)
  case CreateBindGroup id desc => exact (paired_create_locked id _ _ fun _ => rfl).mono (show 6 ≤ 7 by omega)
  case CreatePipelineLayout id desc =>
    exact (paired_create_locked id _ _ fun _ => rfl).mono (show 6 ≤ 7 by omega)
  case CreateRenderPipeline id desc =>
    exact (paired_create_locked id _ _ fun _ => rfl).mono (show 6 ≤ 7 by omega)
  case CreateComputePipeline id desc =>
    exact (paired_create_locked id _ _ fun _ => rfl).mono (show 6 ≤ 7 by omega)
  case DeriveRenderPipelineBindGroupLayout pipeline index id =>
    exact (paired_derive pipeline _ (fun _ => rfl) id).mono (show 4 ≤ 7 by omega)
  case DeriveComputePipelineBindGroupLayout pipeline index id =>
    exact (paired_derive pipeline _ (fun _ => rfl) id).mono (show 4 ≤ 7 by omega)
  case Destroy resource =>
    rcases resource
    case Buffer id =>
      have h := paired_bind (paired_with_tables fun t : ResourceTables =>
        (.store (.done 0 _) : Paired true true 1 (store (t.remove id)).run)) fun _ =>
          paired_pure (n := 0) Response.Ok
      exact h.mono (show 3 ≤ 7 by omega)
    all_goals exact .done 7 _
  case WriteBuffer buffer offset data =>
    -- the empty submission comes after the guard is dropped
    have hwrite : Paired false false 3 (with_buffer buffer fun b => do
        let _ ← issue (.write_buffer b offset data)
        return () : Dispatch Unit).run :=
      paired_with_tables fun t => paired_attempt_bind fun b =>
        paired_bind (m := 0) (paired_issue fun h => by cases h) fun _ => paired_pure ()
    have h := paired_bind hwrite fun _ =>
      paired_bind (paired_issue (c := .submit []) fun _ => rfl) fun _ =>
        paired_pure (n := 0) Response.Ok
    exact h.mono (show 4 ≤ 7 by omega)
  case WriteTexture texture mip_level origin aspect data data_layout size =>
    refine Paired.mono (n := 4) ?_ (show 4 ≤ 7 by omega)
    refine paired_with_tables fun t => paired_attempt_bind fun tex => ?_
    refine paired_bind (m := 1) (paired_issue fun h => by cases h) fun _ => ?_
    exact paired_bind (m := 0) (paired_issue fun h => by cases h) fun _ => paired_pure _
  case MapBufferForRead buffer offset size => exact paired_read buffer offset size
  case Submit recordings =>
    exact paired_bind (paired_recordings recordings) fun cbs =>
      paired_bind (m := 0) (paired_issue fun _ => rfl) fun _ => paired_pure _

/-- Every arm of `handle` is paired, and `action_work` bounds its statements. -/
theorem paired_handle (a : Action) : Paired false false (action_work a) (handle a) :=
  (paired_respond (paired_arm a)).bind (m := 0) fun r => .done 0 (some r)

/-- A frame is dispatched like its action. -/
theorem paired_dispatch (frame : Frame) :
    Paired false false (action_work frame.action) (dispatch frame) := by
  refine (paired_handle frame.action).bind (m := 0) fun response => ?_
  rcases frame.request_id with _ | rid
  · exact .done 0 _
  · rcases response with _ | resp
    · exact .done 0 _
    · exact .done 0 _

/-! ## What a dispatch ends with -/

/-- Whatever the code finds and is answered, it ends with a value of `P`. -/
def Prog.EndsWith {α : Type} (P : α → Prop) : Prog α → Prop
  | .done a => P a
  | .lock next => ∀ t, (next t).EndsWith P
  | .store _ next => next.EndsWith P
  | .unlock next => next.EndsWith P
  | .call _ next => ∀ a, (next a).EndsWith P
  | .add _ _ next => ∀ s, (next s).EndsWith P

/-- Every program ends with something. -/
theorem Prog.EndsWith.any {α : Type} (p : Prog α) : p.EndsWith fun _ => True := by
  induction p with
  | done a => trivial
  | lock next ih => exact ih
  | store t next ih => exact ih
  | unlock next ih => exact ih
  | call c next ih => exact ih
  | add a b next ih => exact ih

/-- What a program ends with, when its first part ends with `Q` and the rest takes every `Q` to
`P`. -/
theorem Prog.EndsWith.bind {α β : Type} {P : β → Prop} {Q : α → Prop} {p : Prog α}
    {f : α → Prog β} (hp : p.EndsWith Q) (hf : ∀ a, Q a → (f a).EndsWith P) :
    (p >>= f).EndsWith P := by
  change (p.bind f).EndsWith P
  induction p with
  | done a => exact hf a hp
  | lock next ih => exact fun t => ih t (hp t)
  | store t next ih => exact ih hp
  | unlock next ih => exact ih hp
  | call c next ih => exact fun a => ih a (hp a)
  | add a b next ih => exact fun s => ih s (hp s)

/-- Every arm answers. -/
theorem handle_ends (a : Action) : (handle a).EndsWith fun r => r.isSome = true :=
  (Prog.EndsWith.any _).bind fun _ _ => rfl

/-- A frame is answered if and only if it asks for it, under its request id. -/
theorem dispatch_ends (frame : Frame) :
    (dispatch frame).EndsWith fun r => r.map ResponseFrame.request_id = frame.request_id := by
  refine (handle_ends frame.action).bind fun response hsome => ?_
  rcases frame.request_id with _ | rid
  · rfl
  · rcases response with _ | resp
    · cases hsome
    · rfl

end Guards

end WgpuRemote.Server
