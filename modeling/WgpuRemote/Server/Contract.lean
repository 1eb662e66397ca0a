/-
What one action does, read off the action and the tables.

`Action.reads` are the ids an action looks up, `Action.supported` that it has
no defect of its own. An action that is supported and finds all it reads is
admitted: it has its effect on the tables and answers. Every other action
answers an error and leaves the tables alone (`handle_admitted`,
`handle_rejected`).

The create arms are `Server.Creation`'s. Of the other arms one removes, and the
rest only read the tables; `Reads` says so, and its rules follow the structure
of the code. The tables a program is given as the guard's and the tables in
memory are the same here: nothing a reading program does changes them.
-/
import WgpuRemote.Server.Creation

set_option autoImplicit false

namespace WgpuRemote.Server

open Bincode Footprint
open Wgpu (Occ Obj Call Event Gpu BufferSlice)
open Dispatch (attempt issue make add store with_tables insert respond exec)
open Prog (Mem)

section Contract

variable [WgpuTypes]

/-- A pass is ended by one call after its body, whichever way the body returned. -/
theorem exec_end_pass (reply : Occ → Call → Answer) (d : ℕ) (body : Dispatch Unit) (encoder : Occ)
    (closing : Wgpu.EncoderCall Obj) (m : Mem) :
    exec reply d (ExceptT.mk (body.run >>= fun r =>
        (Server.encode encoder closing).run >>= fun _ => Pure.pure r)) m =
      ((exec reply d body m).1, (exec reply d body m).2.log d (.encode encoder closing)) := by
  unfold exec
  change Prog.run reply d (body.run >>= _) m = _
  rw [Prog.run_bind]
  rfl

/-! ## Programs that only read the tables -/

/-- The program looks up the keys `S` and changes no table: on tables that
agree on `S` it gives the same result and makes the same calls, and it gets to
its end exactly when it is `good` and finds all of `S`. -/
structure Reads {α : Type} (p : ResourceTables → Dispatch α) (good : Prop) (S : List Ref) :
    Prop where
  frame : ∀ reply d t t' evs, AgreeOn S t t' → ∃ r evs',
    exec reply d (p t) ⟨t, evs⟩ = (r, ⟨t, evs'⟩) ∧ exec reply d (p t') ⟨t', evs⟩ = (r, ⟨t', evs'⟩)
  ok_iff : ∀ reply d t evs, (∃ a, (exec reply d (p t) ⟨t, evs⟩).1 = .ok a) ↔ good ∧ Present S t
  fails : ∀ reply d t evs r, (exec reply d (p t) ⟨t, evs⟩).1 = .error r →
    IsUnknown r ∨ ¬ good ∧ IsInvalid r

namespace Reads

variable {α β : Type}

/-- The tables are left alone. -/
theorem tables {p : ResourceTables → Dispatch α} {good : Prop} {S : List Ref} (h : Reads p good S)
    (reply : Occ → Call → Answer) (d : ℕ) (t : ResourceTables) (evs : List Event) :
    ∃ r evs', exec reply d (p t) ⟨t, evs⟩ = (r, ⟨t, evs'⟩) := by
  obtain ⟨r, evs', h1, -⟩ := h.frame reply d t t evs (fun _ _ => rfl)
  exact ⟨r, evs', h1⟩

/-- What is good, and what is read, may be written another way. -/
theorem of_iff {p : ResourceTables → Dispatch α} {good good' : Prop} {S S' : List Ref}
    (h : Reads p good S) (hg : good ↔ good') (hS : S = S') : Reads p good' S' := by
  rw [← hg, ← hS]
  exact h

/-- A resolved descriptor reads what its resolution reads, and fails as it does. -/
theorem attempt {b : ResourceTables → Except Response α} {good : Prop} {S : List Ref}
    (hb : Resolves IsUnknown IsInvalid b good S) : Reads (fun t => attempt (b t)) good S where
  frame reply d t t' evs h := by
    refine ⟨b t, evs, Dispatch.exec_attempt reply d _ _, ?_⟩
    rw [Dispatch.exec_attempt, hb.congr t t' h]
  ok_iff reply d t evs := hb.ok_iff t
  fails reply d t evs r := hb.fails t r

theorem pure (a : α) : Reads (fun _ => Pure.pure a) True [] := attempt (Resolves.pure a)

theorem issue (c : Call) : Reads (fun _ => issue c) True [] where
  frame reply d t t' evs _ := ⟨_, _, rfl, rfl⟩
  ok_iff reply d t evs := ⟨fun _ => ⟨trivial, Present.nil t⟩, fun _ => ⟨_, rfl⟩⟩
  fails _ _ _ _ _ h := by cases h

theorem add (a b : UInt64) : Reads (fun _ => add a b) True [] where
  frame reply d t t' evs _ := ⟨_, _, rfl, rfl⟩
  ok_iff reply d t evs := ⟨fun _ => ⟨trivial, Present.nil t⟩, fun _ => ⟨_, rfl⟩⟩
  fails _ _ _ _ _ h := by cases h

/-- Sequencing: the second program finds the tables the first one found. -/
theorem bind {p : ResourceTables → Dispatch α} {q : ResourceTables → α → Dispatch β}
    {good good' : Prop} {S S' : List Ref} (hp : Reads p good S)
    (hq : ∀ a, Reads (fun t => q t a) good' S') :
    Reads (fun t => p t >>= q t) (good ∧ good') (S ++ S') where
  frame reply d t t' evs h := by
    obtain ⟨h1, h2⟩ := AgreeOn.append.mp h
    obtain ⟨r, evs1, ht, ht'⟩ := hp.frame reply d t t' evs h1
    rw [Dispatch.exec_bind, Dispatch.exec_bind, ht, ht']
    cases r with
    | error e => exact ⟨.error e, evs1, rfl, rfl⟩
    | ok a => exact (hq a).frame reply d t t' evs1 h2
  ok_iff reply d t evs := by
    rw [Dispatch.exec_bind, Present.append]
    obtain ⟨r, evs1, ht⟩ := hp.tables reply d t evs
    have hfirst := hp.ok_iff reply d t evs
    rw [ht] at hfirst ⊢
    cases r with
    | error e =>
        -- the first program stops there, and so do both
        have hno : ¬ (good ∧ Present S t) := fun h => by
          obtain ⟨a, ha⟩ := hfirst.mpr h
          cases ha
        constructor
        · rintro ⟨a, ha⟩
          cases ha
        · rintro ⟨⟨hg, -⟩, hpr, -⟩
          exact absurd ⟨hg, hpr⟩ hno
    | ok a =>
        -- it got to its end, so the rest decides
        obtain ⟨hg, hpr⟩ := hfirst.mp ⟨a, rfl⟩
        have hsecond := (hq a).ok_iff reply d t evs1
        constructor
        · intro h
          obtain ⟨hg', hpr'⟩ := hsecond.mp h
          exact ⟨⟨hg, hg'⟩, hpr, hpr'⟩
        · rintro ⟨⟨-, hg'⟩, -, hpr'⟩
          exact hsecond.mpr ⟨hg', hpr'⟩
  fails reply d t evs r h := by
    rw [Dispatch.exec_bind] at h
    obtain ⟨r1, evs1, ht⟩ := hp.tables reply d t evs
    rw [ht] at h
    cases r1 with
    | error e =>
        cases h
        rcases hp.fails reply d t evs r (by rw [ht]) with hm | ⟨hg, hd⟩
        · exact Or.inl hm
        · exact Or.inr ⟨fun hgood => hg hgood.1, hd⟩
    | ok a =>
        rcases (hq a).fails reply d t evs1 r h with hm | ⟨hg, hd⟩
        · exact Or.inl hm
        · exact Or.inr ⟨fun hgood => hg hgood.2, hd⟩

/-- Locking gives the program the tables in memory. -/
theorem with_tables {p : ResourceTables → Dispatch α} {good : Prop} {S : List Ref}
    (hp : Reads p good S) : Reads (fun _ => with_tables p) good S where
  frame reply d t t' evs h := by
    rw [Dispatch.exec_with_tables, Dispatch.exec_with_tables]
    exact hp.frame reply d t t' evs h
  ok_iff reply d t evs := by
    rw [Dispatch.exec_with_tables]
    exact hp.ok_iff reply d t evs
  fails reply d t evs r h := by
    rw [Dispatch.exec_with_tables] at h
    exact hp.fails reply d t evs r h

theorem encode (encoder : Occ) (call : Wgpu.EncoderCall Obj) :
    Reads (fun _ => encode encoder call) True [] :=
  ((issue _).bind fun _ => pure ()).of_iff (by simp) rfl

/-- A loop reads what its rounds read. -/
theorem for_each {f : ResourceTables → α → Dispatch Unit} {S : α → List Ref}
    (hf : ∀ c, Reads (fun t => f t c) True (S c)) (l : List α) :
    Reads (fun t => for_each (f t) l) True (l.flatMap S) := by
  induction l with
  | nil => exact pure ()
  | cons c l ih => exact ((hf c).bind fun _ => ih).of_iff (by simp) (by simp)

/-- A pass is ended on the way out, and the body's outcome is the pass's. -/
theorem with_pass {body : ResourceTables → Dispatch Unit} {good : Prop} {S : List Ref}
    (hb : Reads body good S) (encoder : Occ) (opening closing : Wgpu.EncoderCall Obj) :
    Reads (fun t => with_pass encoder opening closing (body t)) good S := by
  have hend : Reads (fun t => ExceptT.mk ((body t).run >>= fun r =>
      (Server.encode encoder closing).run >>= fun _ => Pure.pure r)) good S := by
    refine ⟨fun reply d t t' evs h => ?_, fun reply d t evs => ?_, fun reply d t evs r h => ?_⟩
    · obtain ⟨r, evs', h1, h2⟩ := hb.frame reply d t t' evs h
      rw [exec_end_pass, exec_end_pass, h1, h2]
      exact ⟨r, _, rfl, rfl⟩
    · rw [exec_end_pass]
      exact hb.ok_iff reply d t evs
    · rw [exec_end_pass] at h
      exact hb.fails reply d t evs r h
  exact ((encode encoder opening).bind fun _ => hend).of_iff (by simp) rfl

end Reads

/-! ## Replaying -/

/-- `slice` reads no table and does not fail. -/
theorem reads_slice (b : Obj .Buffer) (offset : BufferAddress) (size : Option BufferAddress) :
    Reads (fun _ => slice b offset size) True [] := by
  cases size with
  | none => exact Reads.pure _
  | some s => exact ((Reads.add offset s).bind fun _ => Reads.pure _).of_iff (by simp) rfl

/-- A command that looks one id up and makes one call. -/
theorem reads_one {k : Kind} (id : Id k) (encoder : Occ) (f : Obj k → Wgpu.EncoderCall Obj) :
    Reads (fun t => attempt (lookup t id) >>= fun o => encode encoder (f o)) True [id.ref] :=
  ((Reads.attempt (resolves_lookup id)).bind fun _ => Reads.encode encoder _).of_iff (by simp) rfl

/-- A compute command succeeds exactly if its ids are held. -/
theorem reads_compute_command (pass : Occ) (c : ComputeCommand) :
    Reads (fun t => replay_compute_command t pass c) True c.refs := by
  cases c with
  | SetPipeline id => exact reads_one id pass _
  | SetBindGroup index group offsets => exact reads_one group pass _
  | SetPushConstants offset data => exact Reads.encode pass _
  | DispatchWorkgroups x y z => exact Reads.encode pass _
  | DispatchWorkgroupsIndirect buffer offset => exact reads_one buffer pass _

/-- The same for a render command. -/
theorem reads_render_command (pass : Occ) (c : RenderCommand) :
    Reads (fun t => replay_render_command t pass c) True c.refs := by
  cases c with
  | SetPipeline id => exact reads_one id pass _
  | SetBindGroup index group offsets => exact reads_one group pass _
  | SetVertexBuffer slot buffer offset size =>
      exact ((Reads.attempt (resolves_lookup buffer)).bind fun b =>
        (reads_slice b offset size).bind fun _ => Reads.encode pass _).of_iff (by simp) rfl
  | SetIndexBuffer buffer format offset size =>
      exact ((Reads.attempt (resolves_lookup buffer)).bind fun b =>
        (reads_slice b offset size).bind fun _ => Reads.encode pass _).of_iff (by simp) rfl
  | Draw vertices instances => exact Reads.encode pass _
  | DrawIndexed indices base_vertex instances => exact Reads.encode pass _

/-- The same for an encoder command, a pass with its commands included. -/
theorem reads_encoder_command (encoder : Occ) (c : EncoderCommand) :
    Reads (fun t => replay_encoder_command t encoder c) True c.refs := by
  cases c with
  | CopyBufferToBuffer source source_offset destination destination_offset size =>
      exact ((Reads.attempt (resolves_lookup source)).bind fun _ =>
        reads_one destination encoder _).of_iff (by simp) rfl
  | ClearBuffer buffer offset size => exact reads_one buffer encoder _
  | CopyBufferToTexture source destination copy_size =>
      exact ((Reads.attempt (resolves_image_copy_buffer source)).bind fun _ =>
        (Reads.attempt (resolves_image_copy_texture destination)).bind fun _ =>
          Reads.encode encoder _).of_iff (by simp) rfl
  | CopyTextureToBuffer source destination copy_size =>
      exact ((Reads.attempt (resolves_image_copy_texture source)).bind fun _ =>
        (Reads.attempt (resolves_image_copy_buffer destination)).bind fun _ =>
          Reads.encode encoder _).of_iff (by simp) rfl
  | BeginComputePass label commands =>
      exact (Reads.for_each (reads_compute_command encoder) commands).with_pass encoder _ _
  | BeginRenderPass label color_attachments depth_stencil_attachment commands =>
      have hcolor := Resolves.mapM resolves_color_attachment color_attachments
      have hdepth := resolves_depth_attachment depth_stencil_attachment
      exact ((Reads.attempt hcolor).bind fun _ => (Reads.attempt hdepth).bind fun _ =>
        (Reads.for_each (reads_render_command encoder) commands).with_pass encoder _ _).of_iff
          (by simp) (List.append_assoc _ _ _).symm

/-- A recording is replayed to its end exactly if every id in it is held. -/
theorem reads_recording (recording : CommandBufferRecording) :
    Reads (fun _ => replay_recording recording) True recording.refs := by
  have hbody := fun encoder : Answer =>
    (Reads.for_each (reads_encoder_command encoder.made) recording.commands).with_tables
  have h := (Reads.issue (.create_command_encoder recording.label)).bind fun encoder =>
    (hbody encoder).bind fun _ =>
      (Reads.issue (.finish encoder.made)).bind fun cb =>
        Reads.pure (⟨cb.made⟩ : Wgpu.CommandBuffer)
  exact h.of_iff (by simp) (by simp [CommandBufferRecording.refs])

/-- The first recording decodes: it is replayed, and then the others. -/
theorem replay_recordings_decoded {raw : Bytes} {recording : CommandBufferRecording}
    (hraw : CommandBufferRecording.decode raw = .ok recording) (recordings : List Bytes) :
    replay_recordings (raw :: recordings) = replay_recording recording >>= fun cb =>
      replay_recordings recordings >>= fun cbs => pure (cb :: cbs) := by
  rw [replay_recordings, hraw]
  rfl

/-- It does not: that ends the replay. -/
theorem replay_recordings_undecoded {raw : Bytes} {e : DecodeError}
    (hraw : CommandBufferRecording.decode raw = .error e) (recordings : List Bytes) :
    replay_recordings (raw :: recordings) =
      attempt (.error (.Error .InvalidArgument
        ("recording decode failed: " ++ WgpuTypes.decode_error_text e))) := by
  rw [replay_recordings, hraw]
  rfl

/-- A submission is, if every payload decodes besides. -/
theorem reads_recordings (recordings : List Bytes) :
    Reads (fun _ => replay_recordings recordings)
      (∀ raw ∈ recordings, ∃ r, CommandBufferRecording.decode raw = .ok r)
      (recordings.flatMap payload_refs) := by
  induction recordings with
  | nil => exact (Reads.pure _).of_iff (by simp) rfl
  | cons raw recordings ih =>
      cases hraw : CommandBufferRecording.decode raw with
      | ok recording =>
          have h := (reads_recording recording).bind fun cb =>
            ih.bind fun cbs => Reads.pure (cb :: cbs)
          rw [replay_recordings_decoded hraw]
          exact h.of_iff (by simp [hraw]) (by simp [payload_refs, hraw])
      | error e =>
          -- the first recording that does not decode ends it
          rw [replay_recordings_undecoded hraw]
          exact (Reads.attempt (Resolves.error ⟨_, rfl⟩ _)).of_iff (by simp [hraw]) rfl

/-! ## The arms that read -/

/-- The id the action removes from its table. Of the `Destroy` actions only
that of a buffer has an arm of its own. -/
def removes : Action → Option Ref
  | .Destroy (.Buffer id) => some id.ref
  | _ => none

/-- The arms that neither make nor remove an entry read what the action reads. -/
theorem reads_arm (a : Action) (hc : creation a = none) (hr : removes a = none) :
    Reads (fun _ => handle_arm a) a.supported a.reads := by
  cases a with
  | Hello v => exact Reads.pure _
  | RequestAdapter => exact Reads.pure _
  | RequestDevice label => exact Reads.pure _
  | CreateCommandEncoder id desc => exact Reads.pure _
  | Destroy resource =>
      cases resource with
      | Buffer id => cases hr
      | _ => exact Reads.pure _
  | WriteBuffer buffer offset data =>
      have hwrite := (Reads.attempt (resolves_lookup buffer)).bind fun b =>
        (Reads.issue (.write_buffer b offset data)).bind fun _ => Reads.pure ()
      have h := hwrite.with_tables.bind fun _ =>
        (Reads.issue (.submit [])).bind fun _ => Reads.pure Response.Ok
      exact h.of_iff (by simp [Action.supported]) rfl
  | WriteTexture texture mip_level origin aspect data data_layout size =>
      have h := (Reads.attempt (resolves_lookup texture)).bind fun tex =>
        (Reads.issue (.write_texture { texture := tex, mip_level, origin, aspect }
          data data_layout size)).bind fun _ =>
        (Reads.issue (.submit [])).bind fun _ => Reads.pure Response.Ok
      exact h.with_tables.of_iff (by simp [Action.supported]) rfl
  | MapBufferForRead buffer offset size =>
      refine Reads.of_iff ((Reads.attempt (resolves_lookup buffer)).with_tables.bind fun b =>
        (Reads.add offset size).bind fun stop =>
          (Reads.issue (.map_async ⟨b, offset, some stop⟩)).bind fun map =>
            (?_ : Reads _ True [])) (by simp [Action.supported]) rfl
      -- a map that fails is answered too, so the arm gets to its end either way
      obtain ⟨made, map_result, bytes⟩ := map
      cases map_result with
      | Ok =>
          exact ((Reads.add offset size).bind fun stop =>
            (Reads.issue (.get_mapped_range ⟨b, offset, some stop⟩)).bind fun view =>
              (Reads.issue (.unmap b)).bind fun _ =>
                Reads.pure (Response.BufferData view.bytes)).of_iff (by simp) rfl
      | Err => exact Reads.pure _
      | Dropped => exact Reads.pure _
  | Submit recordings =>
      have h := (reads_recordings recordings).bind fun cbs =>
        (Reads.issue (.submit cbs)).bind fun _ => Reads.pure Response.Ok
      exact h.of_iff (by simp [Action.supported]) (by simp [Action.reads])
  | _ => cases hc

/-! ## One action -/

/-- The action is supported and finds all it reads. -/
def Admitted (a : Action) (t : ResourceTables) : Prop := a.supported ∧ Present a.reads t

/-- What dispatch `d` does to the tables when it admits the action. -/
def effect (d : ℕ) (a : Action) : Store.Op Ref Occ :=
  match a.creates, removes a with
  | some r, _ => .put r ⟨d, 0⟩
  | none, some r => .del r
  | none, none => .skip

/-- The response of an arm, whichever way it returned. -/
def settle : Except Response Response → Response
  | .ok r => r
  | .error r => r

/-- The two actions whose answer is not an acknowledgement. -/
def is_query : Action → Bool
  | .Hello _ | .MapBufferForRead _ _ _ => true
  | _ => false

/-- `handle` runs the action's arm, and always answers. -/
theorem run_handle (reply : Occ → Call → Answer) (d : ℕ) (a : Action) (m : Mem) :
    Prog.run reply d (handle a) m =
      (some (settle (exec reply d (handle_arm a) m).1), (exec reply d (handle_arm a) m).2) := by
  rw [Server.handle, Prog.run_bind, Dispatch.run_respond]
  rcases exec reply d (handle_arm a) m with ⟨r | r, m'⟩
  · rfl
  · rfl

/-- `dispatch` passes the answer on under the request id, if the frame has one. -/
theorem run_dispatch (reply : Occ → Call → Answer) (d : ℕ) (frame : Frame) (m : Mem) :
    Prog.run reply d (dispatch frame) m =
      (frame.request_id.map fun rid =>
        ⟨rid, settle (exec reply d (handle_arm frame.action) m).1⟩,
        (exec reply d (handle_arm frame.action) m).2) := by
  unfold Server.dispatch
  rw [Prog.run_bind, run_handle]
  obtain ⟨request_id, action⟩ := frame
  cases request_id with
  | none => rfl
  | some rid => rfl

/-- What `handle` comes to on an engine. -/
theorem handle_eq (gpu : Gpu) (e : Engine) (a : Action) {r : Except Response Response}
    {m : Mem} (h : exec (e.reply gpu) e.dispatched (handle_arm a) ⟨e.tables, []⟩ = (r, m)) :
    e.handle gpu a = (some (settle r), ⟨m.tables, e.log ++ m.events, e.dispatched + 1⟩) := by
  unfold Engine.handle Engine.exec
  rw [run_handle, h]

/-- The arms that acknowledge return nothing but `Ok` at their end. -/
theorem exec_arm_ok (reply : Occ → Call → Answer) (d : ℕ) (m : Mem) {a : Action} {r : Response}
    (hq : is_query a = false) (h : (exec reply d (handle_arm a) m).1 = .ok r) : r = .Ok := by
  -- the last thing such an arm does is return `Ok`
  have hlast : ∀ {α : Type} (p : Dispatch α) (f : α → Dispatch Response),
      (∀ x m, (exec reply d (f x) m).1 = .ok .Ok) →
      (exec reply d (p >>= f) m).1 = .ok r → r = .Ok := by
    intro α p f hf h
    rw [Dispatch.exec_bind] at h
    rcases hp : exec reply d p m with ⟨e | x, m'⟩
    · rw [hp] at h
      cases h
    · rw [hp] at h
      exact Except.ok.inj (h.symm.trans (hf x m'))
  cases hc : creation a with
  | some c =>
      rw [exec_creation reply d m hc] at h
      cases hcall : c.call m.tables with
      | error e =>
          rw [hcall] at h
          cases h
      | ok call =>
          rw [hcall] at h
          exact (Except.ok.inj h).symm
  | none =>
      cases a with
      | Hello v => cases hq
      | MapBufferForRead buffer offset size => cases hq
      | RequestAdapter => exact (Except.ok.inj h).symm
      | RequestDevice label => exact (Except.ok.inj h).symm
      | CreateCommandEncoder id desc => exact (Except.ok.inj h).symm
      | Destroy resource =>
          cases resource with
          | Buffer id => exact hlast _ _ (fun _ _ => rfl) h
          | _ => exact (Except.ok.inj h).symm
      | WriteBuffer buffer offset data => exact hlast _ _ (fun _ _ => rfl) h
      | WriteTexture texture mip_level origin aspect data data_layout size =>
          change (exec reply d (with_tables _) m).1 = _ at h
          rw [Dispatch.exec_with_tables] at h
          exact hlast _ _ (fun _ _ => rfl) h
      | Submit recordings => exact hlast _ _ (fun _ _ => rfl) h
      | _ => cases hc

/-- **An admitted action** has its effect on the tables, and is acknowledged. -/
theorem handle_admitted (gpu : Gpu) (e : Engine) (a : Action) (h : Admitted a e.tables) :
    (e.handle gpu a).2.tables = (effect e.dispatched a).apply e.tables ∧
      (is_query a = false → (e.handle gpu a).1 = some .Ok) := by
  rcases hexec : exec (e.reply gpu) e.dispatched (handle_arm a) ⟨e.tables, []⟩ with ⟨r, m⟩
  rw [handle_eq gpu e a hexec]
  have hok : (∃ x, r = .ok x) → is_query a = false → some (settle r) = some .Ok := by
    rintro ⟨x, rfl⟩ hq
    have hx : x = .Ok :=
      exec_arm_ok (e.reply gpu) e.dispatched ⟨e.tables, []⟩ hq (by rw [hexec])
    rw [settle, hx]
  cases hc : creation a with
  | some c =>
      obtain ⟨call, hcall⟩ := ((creation_resolves hc).ok_iff e.tables).mpr h
      rw [exec_creation _ _ _ hc, hcall] at hexec
      cases hexec
      refine ⟨?_, hok ⟨_, rfl⟩⟩
      have hcreates : a.creates = some c.ref := by rw [← creation_ref, hc]; rfl
      rw [effect, hcreates]
      rfl
  | none =>
      have hcreates : a.creates = none := by rw [← creation_ref, hc]; rfl
      cases hr : removes a with
      | some ref =>
          -- the one arm that removes
          cases a with
          | Destroy resource =>
              cases resource with
              | Buffer id =>
                  cases hr
                  cases hexec
                  exact ⟨rfl, hok ⟨_, rfl⟩⟩
              | _ => cases hr
          | _ => cases hr
      | none =>
          have hreads := reads_arm a hc hr
          obtain ⟨r', evs', hframe⟩ := hreads.tables (e.reply gpu) e.dispatched e.tables []
          obtain ⟨x, hx⟩ := (hreads.ok_iff (e.reply gpu) e.dispatched e.tables []).mpr h
          rw [hexec] at hframe hx
          cases hframe
          refine ⟨?_, hok ⟨x, hx⟩⟩
          rw [effect, hcreates, hr]
          rfl

/-- **Any other action** is answered an error and leaves the tables alone. -/
theorem handle_rejected (gpu : Gpu) (e : Engine) (a : Action) (h : ¬ Admitted a e.tables) :
    (e.handle gpu a).2.tables = e.tables ∧
      ∃ r, (e.handle gpu a).1 = some r ∧ (IsUnknown r ∨ ¬ a.supported ∧ IsInvalid r) := by
  rcases hexec : exec (e.reply gpu) e.dispatched (handle_arm a) ⟨e.tables, []⟩ with ⟨r, m⟩
  rw [handle_eq gpu e a hexec]
  cases hc : creation a with
  | some c =>
      have hres := creation_resolves hc
      rw [exec_creation _ _ _ hc] at hexec
      cases hcall : c.call e.tables with
      | ok call => exact absurd ((hres.ok_iff e.tables).mp ⟨call, hcall⟩) h
      | error err =>
          rw [hcall] at hexec
          cases hexec
          exact ⟨rfl, err, rfl, hres.fails e.tables err hcall⟩
  | none =>
      cases hr : removes a with
      | some ref =>
          -- the arm that removes reads nothing, so it is always admitted
          cases a with
          | Destroy resource => exact absurd ⟨trivial, Present.nil _⟩ h
          | _ => cases hr
      | none =>
          have hreads := reads_arm a hc hr
          obtain ⟨r', evs', hframe⟩ := hreads.tables (e.reply gpu) e.dispatched e.tables []
          rw [hexec] at hframe
          cases hframe
          cases r with
          | ok x =>
              exact absurd ((hreads.ok_iff (e.reply gpu) e.dispatched e.tables []).mp
                ⟨x, by rw [hexec]⟩) h
          | error err =>
              exact ⟨rfl, err, rfl, hreads.fails (e.reply gpu) e.dispatched e.tables [] err
                (by rw [hexec])⟩

/-! ## Read off the answer -/

/-- What an action did to the tables, given how it was answered. -/
def outcome (d : ℕ) (a : Action) : Option Response → Store.Op Ref Occ
  | some (.Error _ _) => .skip
  | _ => effect d a

/-- An action has its effect unless it is answered an error. -/
theorem handle_tables (gpu : Gpu) (e : Engine) (a : Action) :
    (e.handle gpu a).2.tables = (outcome e.dispatched a (e.handle gpu a).1).apply e.tables := by
  by_cases hadm : Admitted a e.tables
  · obtain ⟨htab, hresp⟩ := handle_admitted gpu e a hadm
    rw [htab]
    rcases hq : is_query a with _ | _
    -- any action but a query is answered `Ok`, and does what it is for
    · rw [hresp hq]
      rfl
    · -- a query has no effect, so its answer does not matter
      have heffect : effect e.dispatched a = .skip := by
        rcases a with _ | _ | _ | _ | _ | _ | _ | _ | _ | _ | _ | _ | _ | _ | _ | _ | _ | _ | _ | _ | _
        all_goals first | rfl | cases hq
      have houtcome : ∀ r, outcome e.dispatched a r = .skip := by
        intro r
        unfold outcome
        split
        · rfl
        · exact heffect
      rw [heffect, houtcome]
  -- a refused action is answered by one of the two errors, and neither writes
  · obtain ⟨htab, r, hresp, herr⟩ := handle_rejected gpu e a hadm
    rw [htab, hresp]
    rcases herr with ⟨what, raw, rfl⟩ | ⟨-, message, rfl⟩
    · rfl
    · rfl

/-- A create action is never one of the two that return something else than `Ok`. -/
theorem not_query_of_creates {a : Action} {r : Ref} (h : a.creates = some r) :
    is_query a = false := by
  cases a <;> first | rfl | cases h

/-- A create or derive action is answered `Ok` or an error. -/
theorem handle_create (gpu : Gpu) (e : Engine) {a : Action} {r : Ref} (hr : a.creates = some r) :
    (e.handle gpu a).1 = some .Ok ∨ ∃ code message, (e.handle gpu a).1 = some (.Error code message) := by
  by_cases hadm : Admitted a e.tables
  · obtain ⟨-, hresp⟩ := handle_admitted gpu e a hadm
    exact Or.inl (hresp (not_query_of_creates hr))
  · obtain ⟨-, resp, hresp, herr⟩ := handle_rejected gpu e a hadm
    rcases herr with ⟨what, raw, rfl⟩ | ⟨-, message, rfl⟩
    · exact Or.inr ⟨_, _, hresp⟩
    · exact Or.inr ⟨_, _, hresp⟩

/-- A frame with a request id is answered under that id. -/
theorem dispatch_eq (gpu : Gpu) (e : Engine) (rid : RequestId) (a : Action) :
    e.dispatch gpu ⟨some rid, a⟩ =
      ((e.handle gpu a).1.map (ResponseFrame.mk rid), (e.handle gpu a).2) := by
  unfold Engine.dispatch Engine.handle Engine.exec
  rw [run_dispatch, run_handle]
  rfl

/-! ## Readbacks -/

/-- What a readback answers. -/
def read_response (gpu : Gpu) (log : List Event) (d : ℕ) (slice : BufferSlice Obj) : Response :=
  match gpu.map_result log ⟨d, 0⟩ slice with
  | .Ok => .BufferData (gpu.mapped_bytes log ⟨d, 1⟩ slice)
  | .Err => .Error .Internal "buffer map_async failed: BufferAsyncError"
  | .Dropped => .Error .Internal "map callback channel dropped"

/-- A readback of a buffer that is held answers what wgpu gives for its slice. The end of the
slice is the sum as the release build computes it. -/
theorem exec_read_buffer (gpu : Gpu) (e : Engine) {id : BufferId} {b : Obj .Buffer}
    (hb : lookup e.tables id = .ok b) (offset size : BufferAddress) :
    (exec (e.reply gpu) e.dispatched (read_buffer id offset size) ⟨e.tables, []⟩).1 =
      .ok (read_response gpu e.log e.dispatched ⟨b, offset, some (offset + size)⟩) := by
  rw [read_buffer, Dispatch.exec_bind, Dispatch.exec_with_tables, Dispatch.exec_attempt]
  dsimp only
  rw [hb]
  dsimp only
  rw [Dispatch.exec_bind, Dispatch.exec_add]
  dsimp only
  rw [Dispatch.exec_bind, Dispatch.exec_issue]
  dsimp only
  have hmap : (e.reply gpu ((⟨e.tables, []⟩ : Mem).next_occ e.dispatched)
      (.map_async ⟨b, offset, some (offset + size)⟩)).map_result =
      gpu.map_result e.log ⟨e.dispatched, 0⟩ ⟨b, offset, some (offset + size)⟩ := rfl
  rw [hmap, read_response]
  rcases gpu.map_result e.log ⟨e.dispatched, 0⟩ ⟨b, offset, some (offset + size)⟩ with _ | _ | _
  · rfl
  · rfl
  · rfl

end Contract

end WgpuRemote.Server
