/-
Open passes, from the application to the server's wgpu.

However an application interleaves its encoders and their passes, what the server
asks of wgpu for a finished command buffer is one call after the other on one
encoder, and passes never overlap there: each pass is opened, given its commands
and ended where the application dropped it, between the copies that were called
before and after (`dropin_replayed`).
-/
import WgpuRemote.Client.Passes
import WgpuRemote.System.Recording

set_option autoImplicit false

namespace WgpuRemote

open Bincode
open Client (Recorder RecorderCall Since records recording_of reports is_finish)
open Server (Answer replay_recording)
open Server.Prog (Mem)
open Server.Dispatch (exec)
open Transition (along along_flatMap)
open Wgpu (Occ Obj EncoderCall Event)

section Passes

variable [WgpuTypes]

/-- The wgpu calls that stand for what a call records into encoder `e`. -/
def recorded_calls (e : ℕ) (before : List RecorderCall) (c : RecorderCall) :
    List (EncoderCall Id) :=
  (records e before c).flatMap EncoderCommand.calls

/-- Shipped and replayed, the recording makes these calls, on one encoder with
this label. -/
def ReplaysAs (label : Option String) (calls : List (EncoderCall Id)) (r : CommandBufferRecording) :
    Prop :=
  ∀ bytes, r.encode = .ok bytes → ∃ shipped, CommandBufferRecording.decode bytes = .ok shipped ∧
    ∀ (objects : ∀ k, Id k → Obj k) (reply : Occ → Wgpu.Call → Answer) (d : ℕ) (m : Mem),
      Assigns objects shipped.refs m.tables →
      ∃ cb m', exec reply d (replay_recording shipped) m = (.ok cb, m') ∧ m'.tables = m.tables ∧
        m'.events.map Event.call = m.events.map Event.call ++
          .create_command_encoder label ::
            (calls.map fun call => .encode
              (reply (m.next_occ d) (.create_command_encoder label)).made (call.map objects)) ++
            [.finish (reply (m.next_occ d) (.create_command_encoder label)).made]

theorem recording_of_replays (e : ℕ) (before since : List RecorderCall) :
    ReplaysAs (recording_of e before since).label (along (recorded_calls e) before since)
      (recording_of e before since) := by
  intro bytes hbytes
  refine ⟨_, CommandBufferRecording.decode_encode _ bytes hbytes, ?_⟩
  intro objects reply d m hassigns
  obtain ⟨cb, m', hexec, htables, hevents⟩ := recording_issues _ reply d m hassigns
  refine ⟨cb, m', hexec, htables, ?_⟩
  have hcalls : (recording_of e before since).calls = along (recorded_calls e) before since :=
    along_flatMap (records e) EncoderCommand.calls before since
  rw [hevents, hcalls]

/-- **Passes are replayed whole.** In every run of the application's calls on its
encoders and passes, in whatever order, whether they panic or not, each command
buffer is what was recorded into its encoder since that was last finished, and
makes exactly these calls on the server; and the error handlers were called for
what is not supported and for nothing else. -/
theorem dropin_replayed {calls : List RecorderCall} {s : Recorder}
    (hrun : Transition.run Recorder.step Recorder.new calls = some s) :
    (∀ e before since after, s.log = before ++ since ++ .finish e :: after → Since e before since →
      ∃ r, s.command_buffers[(before ++ since).countP is_finish]? = some ⟨r⟩ ∧
        ReplaysAs (recording_of e before since).label (along (recorded_calls e) before since) r) ∧
    s.error_handler.reports = along reports [] s.log := by
  have hinv := Recorder.inv_run hrun
  refine ⟨fun e before since after hlog hsince => ?_, hinv.reports⟩
  exact ⟨_, hinv.buffers e before since after hlog hsince, recording_of_replays e before since⟩

end Passes

section Runs

attribute [local instance] WgpuTypes.numeric

/-- Two passes that are open at a time, the first of which is dropped last. -/
def two_passes : List RecorderCall :=
  [.create_command_encoder none, .begin_compute_pass 0 (some "first"),
    .begin_compute_pass 0 (some "second"), .compute 0 (.dispatch_workgroups 1 1 1),
    .compute 1 (.dispatch_workgroups 2 2 2), .compute 0 (.dispatch_workgroups 3 3 3), .drop 1,
    .drop 0]

/-- They are replayed in the order they were dropped in, each with its own
commands. -/
theorem two_passes_replayed :
    ∃ s, Transition.run Recorder.step Recorder.new (two_passes ++ [.finish 0]) = some s ∧
      along (recorded_calls 0) [] two_passes =
        [.begin_compute_pass (some "second"), .compute (.dispatch_workgroups 2 2 2),
          .end_compute_pass, .begin_compute_pass (some "first"),
          .compute (.dispatch_workgroups 1 1 1), .compute (.dispatch_workgroups 3 3 3),
          .end_compute_pass] ∧
      ∃ r, s.command_buffers[0]? = some ⟨r⟩ ∧ (∃ bytes, r.encode = .ok bytes) ∧
        ReplaysAs none (along (recorded_calls 0) [] two_passes) r := by
  have hnone : two_passes.all (fun c => !Client.finishes 0 c) = true := rfl
  have hsince : Since 0 [] two_passes := by
    refine ⟨fun c hc => ?_, Or.inl rfl⟩
    exact Bool.not_eq_true' _ ▸ List.all_eq_true.mp hnone c hc
  refine ⟨_, rfl, rfl, ?_⟩
  obtain ⟨r, hr, hreplays⟩ :=
    (@dropin_replayed _ (two_passes ++ [.finish 0]) _ rfl).1 0 [] two_passes [] rfl hsince
  refine ⟨r, hr, ?_, hreplays⟩
  have hrecording : recording_of 0 [] two_passes = r :=
    congrArg Client.CommandBuffer.recording (Option.some.inj hr)
  rw [← hrecording]
  exact ⟨_, rfl⟩

end Runs

end WgpuRemote
