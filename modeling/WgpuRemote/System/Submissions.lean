/-
Submissions through the drop-in.

An application records commands on the drop-in's encoders, through handles that
are alive, and submits what they have recorded. Any number of passes may be open
on an encoder, and be called in any order (`recorder_followed`). The recording
keeps ids, and no handle: when the last handle goes, its `Destroy` is sent,
recorded or not.

A submission finds every resource it mentions unless the `Destroy` of a buffer
among them was sent before it (`usable_iff`); a `Destroy` of another kind takes
nothing away. So an application that drops its buffers after the submission is
served (`submissions_usable`), and one that drops them before is not
(`dropped_buffer_lost`).
-/
import WgpuRemote.System.Integrity
import WgpuRemote.Client.Mentions
import WgpuRemote.Client.Turns

set_option autoImplicit false

namespace WgpuRemote

open Bincode Client Server
open Wgpu (Occ Obj Gpu)

section Submissions

variable [WgpuTypes]

/-! ## The system -/

/-- A session, and the encoders and command buffers of its application. -/
structure Dropin where
  session : Session
  encoders : List DropinEncoder
  command_buffers : List CommandBufferRecording

namespace Dropin

def new : Dropin := ⟨Session.new, [], []⟩

inductive Label where
  /-- Anything but a submission. -/
  | session (l : Session.Label)
  | create_command_encoder (label : Option String)
  /-- A call on an encoder or on the pass of it in front. -/
  | record (encoder : ℕ) (op : EncoderOp Held)
  /-- The next calls are on another open pass of the encoder. -/
  | turn_to (encoder pass : ℕ)
  | finish (encoder : ℕ)
  /-- `Queue::submit`. -/
  | submit (device : ℕ) (command_buffers : List ℕ)

/-- The call sends an `Action::Submit`. -/
def is_submit : Session.Label → Bool
  | .client (.send _ (.Submit _)) => true
  | _ => false

def step (gpu : Gpu) (s : Dropin) : Label → Option Dropin
  | .session l =>
      if is_submit l then none
      else (s.session.step gpu l).map fun session => { s with session }
  | .create_command_encoder label =>
      some { s with encoders := s.encoders ++ [DropinEncoder.new label] }
  | .record encoder op => do
      let e ← s.encoders[encoder]?
      -- a handle can be passed only while it is alive
      if op.slots.all s.session.facade.live then
        let e' ← e.step op.wrapped
        some { s with encoders := s.encoders.set encoder e' }
      else none
  | .turn_to encoder pass => do
      let e ← s.encoders[encoder]?
      let e' ← e.turn_to pass
      some { s with encoders := s.encoders.set encoder e' }
  | .finish encoder => do
      let e ← s.encoders[encoder]?
      -- an empty recording takes the place of the one that goes
      some { s with
        encoders := s.encoders.set encoder { e with recording := ⟨none, []⟩ }
        command_buffers := s.command_buffers ++ [e.finish] }
  | .submit device command_buffers => do
      let recordings ← command_buffers.mapM fun cb => s.command_buffers[cb]?
      match recordings.mapM CommandBufferRecording.encode with
      | .error _ => some s
      | .ok raws =>
          (s.session.step gpu (.client (.send device (.Submit raws)))).map fun session =>
            { s with session }

/-! ## Passes that overlap -/

/-- A call that is given objects is given them through handles that are alive. -/
def GivenAlive (session : Session) (c : RecorderCall) : Prop :=
  ∀ op, c.op = some op → ∃ held : EncoderOp Held, held.wrapped = op ∧
    held.slots.all session.facade.live = true

/-- What the recorder does in one call, the drop-in does, turning to another pass
before if it has to. -/
theorem recorder_call_followed (gpu : Gpu) {s : Dropin} {r r' : Recorder} {c : RecorderCall}
    (h : r.Mirrors ⟨s.encoders, s.command_buffers⟩) (hcall : r.call c = some (some r'))
    (hheld : GivenAlive s.session c) :
    ∃ labels s', Transition.run (step gpu) s labels = some s' ∧ s'.session = s.session ∧
      r'.Mirrors ⟨s'.encoders, s'.command_buffers⟩ := by
  obtain ⟨o, t', hmoves, hmirrors, hop⟩ := h.effect (effect_of_call hcall)
  have hgiven : ∀ op, o = some op → ∃ held : EncoderOp Held, held.wrapped = op ∧
      held.slots.all s.session.facade.live = true := by
    intro op ho
    rcases hop op ho with hc | ⟨pass, rfl⟩
    · exact hheld op hc
    · -- the end of a pass is given nothing
      refine ⟨pass.end_op, ?_, ?_⟩
      · rcases pass with _ | _
        · rfl
        · rfl
      · rcases pass with _ | _
        · rfl
        · rfl
  have hone : ∀ {s s1 : Dropin} {l : Label}, step gpu s l = some s1 →
      Transition.run (step gpu) s [l] = some s1 := by
    intro s s1 l hl
    rw [Transition.run_cons, hl]
    rfl
  cases hmoves with
  | unrecorded => exact ⟨[], s, rfl, rfl, hmirrors⟩
  | create_command_encoder label =>
      exact ⟨[.create_command_encoder label], _, rfl, rfl, hmirrors⟩
  | @call e d d' op he hstep =>
      obtain ⟨held, rfl, hlive⟩ := hgiven _ rfl
      have hrecord : step gpu s (.record e held) =
          some { s with encoders := s.encoders.set e d' } := by
        simp only [step, show s.encoders[e]? = some d from he, hlive, hstep, Option.bind_eq_bind,
          Option.bind_some, if_true]
      exact ⟨[.record e held], _, hone hrecord, rfl, hmirrors⟩
  | @turn_and_call e pass d turned d' op he hturn hstep =>
      obtain ⟨held, rfl, hlive⟩ := hgiven _ rfl
      have hturned : step gpu s (.turn_to e pass) =
          some { s with encoders := s.encoders.set e turned } := by
        simp only [step, show s.encoders[e]? = some d from he, hturn, Option.bind_eq_bind,
          Option.bind_some]
      have hget : (s.encoders.set e turned)[e]? = some turned := by
        rw [List.getElem?_set_self (List.getElem?_eq_some_iff.mp he).1]
      have hrecord : step gpu { s with encoders := s.encoders.set e turned } (.record e held) =
          some { s with encoders := s.encoders.set e d' } := by
        simp only [step, hget, hlive, hstep, Option.bind_eq_bind, Option.bind_some, if_true,
          List.set_set]
      have hboth : Transition.run (step gpu) s [.turn_to e pass, .record e held] =
          some { s with encoders := s.encoders.set e d' } := by
        rw [Transition.run_cons, hturned, Option.bind_some]
        exact hone hrecord
      exact ⟨_, _, hboth, rfl, hmirrors⟩
  | @finish e d he =>
      have hfinish : step gpu s (.finish e) = some { s with
          encoders := s.encoders.set e { d with recording := ⟨none, []⟩ }
          command_buffers := s.command_buffers ++ [d.finish] } := by
        simp only [step, show s.encoders[e]? = some d from he, Option.bind_eq_bind,
          Option.bind_some]
      exact ⟨[.finish e], _, hone hfinish, rfl, hmirrors⟩

/-- **Passes may overlap.** Whatever is called on encoders and passes between two
steps of the session, in whatever order, the drop-in can do. -/
theorem recorder_followed (gpu : Gpu) {s : Dropin} {r r' : Recorder} {calls : List RecorderCall}
    (h : r.Mirrors ⟨s.encoders, s.command_buffers⟩)
    (hrun : Transition.run Recorder.step r calls = some r')
    (hheld : ∀ c ∈ calls, GivenAlive s.session c) :
    ∃ labels s', Transition.run (step gpu) s labels = some s' ∧ s'.session = s.session ∧
      r'.Mirrors ⟨s'.encoders, s'.command_buffers⟩ := by
  induction calls generalizing r s with
  | nil =>
      cases hrun
      exact ⟨[], s, rfl, rfl, h⟩
  | cons c calls ih =>
      obtain ⟨r1, hstep, hrun⟩ := Transition.run_cons_some _ hrun
      obtain ⟨result, hcall, hr1⟩ := Option.map_eq_some_iff.mp hstep
      rcases result with _ | r2
      · -- a call that panics records nothing
        obtain rfl : r = r1 := hr1
        exact ih h hrun fun c' hc' => hheld c' (List.mem_cons_of_mem c hc')
      · obtain ⟨labels, s1, hlabels, hsession, hmirrors⟩ :=
          recorder_call_followed gpu h hcall (hheld c List.mem_cons_self)
        have hlogged : r1.Mirrors ⟨s1.encoders, s1.command_buffers⟩ := by
          rw [← hr1]
          exact ⟨hmirrors.recordings, hmirrors.passes, hmirrors.parents, hmirrors.command_buffers⟩
        obtain ⟨rest, s', hrest, hsession', hmirrors'⟩ := ih hlogged hrun fun c' hc' => by
          rw [hsession]
          exact hheld c' (List.mem_cons_of_mem c hc')
        refine ⟨labels ++ rest, s', ?_, hsession'.trans hsession, hmirrors'⟩
        rw [Transition.run_append, hlabels, Option.bind_some]
        exact hrest

/-! ## What a submission finds -/

/-- A creation of the id was answered `Ok`. -/
def Succeeded (pre : List Entry) (r : Ref) : Prop :=
  ∃ c ∈ pre, c.frame.action.creates = some r ∧ c.response = some .Ok

/-- What the server finds and answers when it dispatches a submission. -/
structure Served (s : Session) (pre : List Entry) (x : Entry) : Prop where
  /-- The creation of each id it mentions came before, or never left the client. -/
  created : ∀ r ∈ x.frame.action.reads, (∃ c ∈ pre, c.frame.action.creates = some r) ∨
    ∃ h : Slot, h.ref = r ∧ s.facade.refused h = true
  present : ∀ r ∈ x.frame.action.reads, Succeeded pre r → (x.engine.tables r).isSome
  answered : (∀ r ∈ x.frame.action.reads, Succeeded pre r) → x.response = some .Ok

/-- **Every submission dispatched so far is served.** -/
def Usable (s : Session) : Prop :=
  ∀ pre x post, s.dispatched = pre ++ x :: post → ∀ raws, x.frame.action = .Submit raws →
    Served s pre x

/-- What was created under the id is destroyed again, in what was sent. -/
def Lost (issued : List Issue) (r : Ref) : Prop :=
  ∃ before i after, issued = before ++ i :: after ∧ i.action.destroys = some r ∧
    (∃ c ∈ before, c.action.creates = some r) ∧ ∀ j ∈ after, j.action.creates ≠ some r

/-- A submission mentions no buffer whose `Destroy` has been sent. -/
def KeepsBuffers (s : Dropin) (l : Label) : Prop :=
  ∀ device command_buffers, l = .submit device command_buffers →
    ∀ cb ∈ command_buffers, ∀ recording, s.command_buffers[cb]? = some recording →
      ∀ r ∈ recording.refs, r.kind = .Buffer → ¬ Lost s.session.facade.issued r

/-! ## What an action does to an entry -/

section Effects

variable {gpu : Gpu} {x : Entry} {r : Ref}

/-- The creation of a buffer that was dispatched was answered `Ok`. -/
theorem create_buffer_ok (hf : Session.Faithful gpu x) (hr : x.frame.action.creates = some r)
    (hk : r.kind = .Buffer) : x.response = some .Ok := by
  have hadm : Admitted x.frame.action x.engine.tables := by
    obtain ⟨id, desc, ha⟩ := Action.eq_create_buffer hr hk
    rw [ha]
    exact ⟨trivial, Footprint.Present.nil _⟩
  rw [hf.response]
  exact (handle_admitted gpu _ _ hadm).2 (not_query_of_creates hr)

/-- An entry is put there by a create that is acknowledged. -/
theorem op_puts_iff (hf : Session.Faithful gpu x) :
    x.op.puts r ↔ x.frame.action.creates = some r ∧ x.response = some .Ok := by
  -- an action that creates nothing puts nothing
  rcases hc : x.frame.action.creates with _ | y
  · have hnot : ¬ x.op.puts r := by
      unfold Entry.op outcome effect
      rw [hc]
      split
      · exact id
      · rcases removes x.frame.action with _ | z
        · exact id
        · exact id
    exact ⟨fun hp => absurd hp hnot, fun h => absurd h.1 (by simp)⟩
  · have hresp := hf.response
    -- a creation is answered `Ok` and puts its entry, or with an error and puts none
    rcases handle_create gpu x.engine hc with hok | ⟨code, message, herr⟩
    · have hop : x.op = .put y ⟨x.engine.dispatched, 0⟩ := by
        rw [Entry.op, hresp, hok]
        show effect _ _ = _
        rw [effect, hc]
      rw [hop, hresp, hok]
      exact ⟨fun hy => ⟨congrArg some hy, rfl⟩, fun h => Option.some.inj h.1⟩
    · have hop : x.op = .skip := by
        rw [Entry.op, hresp, herr]
        rfl
      rw [hop, hresp, herr]
      exact ⟨fun h => h.elim, fun h => absurd h.2 (by simp)⟩

/-- An entry is deleted by the `Destroy` of a buffer. -/
theorem op_del_iff (hf : Session.Faithful gpu x) :
    x.op = .del r ↔ x.frame.action.destroys = some r ∧ r.kind = .Buffer := by
  constructor
  · intro hop
    have ht : x.op.touches r := by
      rw [hop]
      rfl
    rcases hd : x.frame.action.destroys with _ | y
    · -- an action that destroys nothing deletes nothing
      unfold Entry.op outcome effect at hop
      rw [removes_eq_none hd] at hop
      split at hop
      · exact absurd hop (by simp)
      · rcases hc : x.frame.action.creates with _ | z
        · rw [hc] at hop
          exact absurd hop (by simp)
        · rw [hc] at hop
          exact absurd hop (by simp)
    · unfold Entry.op outcome effect at hop
      rw [removes_of_destroys hd, Action.creates_of_destroys hd] at hop
      by_cases hk : y.kind = .Buffer
      · rw [if_pos hk] at hop
        split at hop
        · exact absurd hop (by simp)
        · have hy : y = r := by simpa using hop
          rw [← hy]
          exact ⟨rfl, hk⟩
      · rw [if_neg hk] at hop
        split at hop
        · exact absurd hop (by simp)
        · exact absurd hop (by simp)
  -- a destroy is admitted, and a buffer is removed by it
  · rintro ⟨hd, hk⟩
    have hadm := admitted_of_destroys hd x.engine.tables
    have hquery : is_query x.frame.action = false := by
      rcases ha : x.frame.action
      case Hello v =>
        rw [ha] at hd
        exact absurd hd (by simp [Action.destroys])
      case MapBufferForRead buffer offset size =>
        rw [ha] at hd
        exact absurd hd (by simp [Action.destroys])
      all_goals rfl
    rw [Entry.op, hf.response, (handle_admitted gpu _ _ hadm).2 hquery]
    show effect _ _ = _
    rw [effect, Action.creates_of_destroys hd, removes_of_destroys hd, if_pos hk]

end Effects

/-! ## Present or lost -/

section Presence

variable {gpu : Gpu} {s : Session} {pre post : List Entry} {x : Entry} {r : Ref}

/-- What was created, and is not lost, is there. -/
theorem present_of_kept (hi : Session.Inv gpu s) (hsplit : s.dispatched = pre ++ x :: post)
    (hsucc : Succeeded pre r) (hkept : r.kind = .Buffer → ¬ Lost (pre.map Entry.issue) r) :
    (x.engine.tables r).isSome := by
  by_contra hnone
  rw [Option.not_isSome_iff_eq_none, hi.tables_at _ _ _ hsplit] at hnone
  obtain ⟨c, hc, hcreates, hok⟩ := hsucc
  have hfaithful : ∀ y ∈ pre, Session.Faithful gpu y := by
    intro y hy
    apply hi.faithful
    rw [hsplit]
    exact List.mem_append_left _ hy
  have hputs : c.op.puts r := (op_puts_iff (hfaithful c hc)).mpr ⟨hcreates, hok⟩
  -- nothing is there, so the last to touch the entry is a `Destroy`
  obtain ⟨before, after, heq, hafter⟩ :=
    Store.deleted_of_run_eq_none (List.mem_map_of_mem hc) hputs hnone
  obtain ⟨p1, rest, rfl, rfl, hrest⟩ := List.map_eq_append_iff.mp heq
  obtain ⟨y, p2, rfl, hy, rfl⟩ := List.map_eq_cons_iff.mp hrest
  have hym : y ∈ p1 ++ y :: p2 := List.mem_append_right _ List.mem_cons_self
  obtain ⟨hd, hk⟩ := (op_del_iff (hfaithful y hym)).mp hy
  have hc1 : c ∈ p1 := by
    rcases List.mem_append.mp hc with hc | hc
    · exact hc
    · rcases List.mem_cons.mp hc with rfl | hc
      · rw [hy] at hputs
        exact hputs.elim
      · exact absurd hputs (hafter _ (List.mem_map_of_mem hc))
  refine hkept hk ⟨p1.map Entry.issue, y.issue, p2.map Entry.issue, ?_, ?_, ?_, ?_⟩
  · rw [List.map_append, List.map_cons]
  · rw [← (hfaithful y hym).action]
    exact hd
  · refine ⟨c.issue, List.mem_map_of_mem hc1, ?_⟩
    rw [← (hfaithful c hc).action]
    exact hcreates
  · intro j hj hjc
    obtain ⟨z, hz, rfl⟩ := List.mem_map.mp hj
    have hzf := hfaithful z (List.mem_append_right _ (List.mem_cons_of_mem y hz))
    rw [← hzf.action] at hjc
    exact hafter _ (List.mem_map_of_mem hz)
      ((op_puts_iff hzf).mpr ⟨hjc, create_buffer_ok hzf hjc hk⟩)

/-- A buffer that is lost was created, and is not there. -/
theorem absent_of_lost (hi : Session.Inv gpu s) (hsplit : s.dispatched = pre ++ x :: post)
    (hk : r.kind = .Buffer) (hlost : Lost (pre.map Entry.issue) r) :
    Succeeded pre r ∧ x.engine.tables r = none := by
  have hfaithful : ∀ y ∈ pre, Session.Faithful gpu y := by
    intro y hy
    apply hi.faithful
    rw [hsplit]
    exact List.mem_append_left _ hy
  obtain ⟨before, i, after, heq, hd, ⟨c, hc, hcreates⟩, hafter⟩ := hlost
  obtain ⟨p1, rest, rfl, rfl, hrest⟩ := List.map_eq_append_iff.mp heq
  obtain ⟨y, p2, rfl, rfl, rfl⟩ := List.map_eq_cons_iff.mp hrest
  obtain ⟨z, hz, rfl⟩ := List.mem_map.mp hc
  have hyf := hfaithful y (List.mem_append_right _ List.mem_cons_self)
  have hzm : z ∈ p1 ++ y :: p2 := List.mem_append_left _ hz
  rw [← (hfaithful z hzm).action] at hcreates
  rw [← hyf.action] at hd
  refine ⟨⟨z, hzm, hcreates, create_buffer_ok (hfaithful z hzm) hcreates hk⟩, ?_⟩
  rw [hi.tables_at _ _ _ hsplit]
  apply Store.Deleted.run_eq_none
  refine ⟨p1.map Entry.op, p2.map Entry.op, ?_, ?_⟩
  · rw [List.map_append, List.map_cons, (op_del_iff hyf).mpr ⟨hd, hk⟩]
  · intro o ho hputs
    obtain ⟨w, hw, rfl⟩ := List.mem_map.mp ho
    have hwf := hfaithful w (List.mem_append_right _ (List.mem_cons_of_mem y hw))
    apply hafter w.issue (List.mem_map_of_mem hw)
    rw [← hwf.action]
    exact ((op_puts_iff hwf).mp hputs).1

end Presence

/-! ## What is submitted -/

/-- The id was sent as a handle's. -/
def Known (f : Facade) (r : Ref) : Prop :=
  ∃ h : Slot, h.ref = r ∧ Stage.is_sent (f.stage h) = true

/-- `P` holds of every submission that was sent, and of what was sent before it. -/
def Submitted (issued : List Issue) (P : List Issue → Action → Prop) : Prop :=
  ∀ pre i post, issued = pre ++ i :: post → ∀ raws, i.action = .Submit raws → P pre i.action

/-- A submission whose recordings decode, and mention ids whose creation came before. -/
structure Sound (f : Facade) (pre : List Issue) (a : Action) : Prop where
  supported : a.supported
  created : ∀ r ∈ a.reads, (∃ c ∈ pre, c.action.creates = some r) ∨
    ∃ h : Slot, h.ref = r ∧ f.refused h = true

/-- No buffer that it mentions is lost. -/
def NoneLost (pre : List Issue) (a : Action) : Prop :=
  ∀ r ∈ a.reads, r.kind = .Buffer → ¬ Lost pre r

structure Inv (gpu : Gpu) (s : Dropin) : Prop where
  session : Session.Inv gpu s.session
  encoders : ∀ e ∈ s.encoders, ∀ r ∈ e.refs, Known s.session.facade r
  command_buffers : ∀ c ∈ s.command_buffers, ∀ r ∈ c.refs, Known s.session.facade r
  submitted : Submitted s.session.facade.issued (Sound s.session.facade)

section Submitted

variable {gpu : Gpu} {s s' : Session} {l : Session.Label} {P : List Issue → Action → Prop}

/-- A step of the session sends at most one submission more. -/
theorem Submitted.step (h : Submitted s.facade.issued P) (hi : Session.Inv gpu s)
    (hstep : s.step gpu l = some s')
    (hl : ∀ device raws, l = .client (.send device (.Submit raws)) →
      P s.facade.issued (.Submit raws)) : Submitted s'.facade.issued P := by
  obtain ⟨-, -, hissued⟩ := Session.step_facade hi hstep
  rcases hissued with hissued | ⟨i, hissued, hlabel⟩
  · rw [hissued]
    exact h
  · intro pre j post hsplit raws hj
    rw [hissued] at hsplit
    rcases Transition.split_snoc hsplit with ⟨rfl, rfl⟩ | ⟨front, hfront⟩
    · rw [hj]
      rw [hj] at hlabel
      exact hl j.device raws (hlabel rfl rfl)
    · exact h pre j front hfront raws hj

end Submitted

/-- The payloads of a submission are the recordings. -/
theorem submit_encoded {recordings : List CommandBufferRecording} {raws : List Bytes}
    (h : recordings.mapM CommandBufferRecording.encode = .ok raws) :
    (Action.Submit raws).supported ∧
      (Action.Submit raws).reads = recordings.flatMap CommandBufferRecording.refs := by
  induction recordings generalizing raws with
  | nil =>
      rw [← Except.ok.inj h]
      exact ⟨fun raw hraw => absurd hraw List.not_mem_nil, rfl⟩
  | cons recording recordings ih =>
      rw [List.mapM_cons] at h
      rcases henc : recording.encode with e | raw
      · rw [henc] at h
        exact absurd h nofun
      · rcases hrest : recordings.mapM CommandBufferRecording.encode with e | rest
        · rw [henc, hrest] at h
          exact absurd h nofun
        · rw [henc, hrest] at h
          rw [← Except.ok.inj h]
          obtain ⟨hsupported, hreads⟩ := ih hrest
          have hdec := recording.decode_encode raw henc
          refine ⟨?_, ?_⟩
          · intro b hb
            rcases List.mem_cons.mp hb with rfl | hb
            · exact ⟨recording, hdec⟩
            · exact hsupported b hb
          · rw [List.flatMap_cons, ← hreads]
            show payload_refs raw ++ _ = _
            rw [payload_refs, hdec]
            rfl

omit [WgpuTypes] in
/-- What a `mapM` gives comes from an element of its list. -/
theorem mem_of_mapM {α β : Type} {f : α → Option β} {l : List α} {l' : List β}
    (h : l.mapM f = some l') {y : β} (hy : y ∈ l') : ∃ x ∈ l, f x = some y := by
  induction l generalizing l' with
  | nil =>
      rw [← Option.some.inj h] at hy
      exact absurd hy List.not_mem_nil
  | cons x l ih =>
      rw [List.mapM_cons] at h
      obtain ⟨z, hz, h⟩ := Option.bind_eq_some_iff.mp h
      obtain ⟨zs, hzs, h⟩ := Option.bind_eq_some_iff.mp h
      rw [← Option.some.inj h] at hy
      rcases List.mem_cons.mp hy with rfl | hy
      · exact ⟨x, List.mem_cons_self, hz⟩
      · obtain ⟨w, hw, hfw⟩ := ih hzs hy
        exact ⟨w, List.mem_cons_of_mem x hw, hfw⟩

/-! ## What a run keeps -/

theorem inv_new (gpu : Gpu) : Inv gpu new where
  session := Session.inv_new gpu
  encoders e he := absurd he List.not_mem_nil
  command_buffers c hc := absurd hc List.not_mem_nil
  submitted pre i post h := by simp [new, Session.new, Facade.new] at h

section Steps

variable {gpu : Gpu} {s s' : Dropin}

/-- What was known stays known when the session takes a step. -/
theorem Inv.session_step (h : Inv gpu s) {l : Session.Label} {session : Session}
    (hstep : s.session.step gpu l = some session)
    (hl : ∀ device raws, l = .client (.send device (.Submit raws)) →
      Sound s.session.facade s.session.facade.issued (.Submit raws)) :
    Inv gpu { s with session } := by
  obtain ⟨hsent, hrefused, -⟩ := Session.step_facade h.session hstep
  have hknown : ∀ r, Known s.session.facade r → Known session.facade r := by
    rintro r ⟨x, hx, hxs⟩
    exact ⟨x, hx, hsent x hxs⟩
  refine ⟨h.session.step hstep, ?_, ?_, ?_⟩
  · intro e he r hr
    exact hknown r (h.encoders e he r hr)
  · intro c hc r hr
    exact hknown r (h.command_buffers c hc r hr)
  · have hsub := h.submitted.step h.session hstep hl
    intro pre i post hsplit raws hi
    obtain ⟨hsupported, hcreated⟩ := hsub pre i post hsplit raws hi
    refine ⟨hsupported, ?_⟩
    intro r hr
    rcases hcreated r hr with hc | ⟨x, hx, hxr⟩
    · exact Or.inl hc
    · exact Or.inr ⟨x, hx, hrefused x hxr⟩

/-- Submitted recordings are sound: the handles they came from were alive. -/
theorem Inv.sound (h : Inv gpu s) {recordings : List CommandBufferRecording} {raws : List Bytes}
    (hrec : ∀ c ∈ recordings, c ∈ s.command_buffers)
    (henc : recordings.mapM CommandBufferRecording.encode = .ok raws) :
    Sound s.session.facade s.session.facade.issued (.Submit raws) := by
  obtain ⟨hsupported, hreads⟩ := submit_encoded henc
  refine ⟨hsupported, ?_⟩
  intro r hr
  rw [hreads] at hr
  obtain ⟨c, hc, hrc⟩ := List.mem_flatMap.mp hr
  obtain ⟨x, rfl, hsent⟩ := h.command_buffers c (hrec c hc) r hrc
  rcases h.session.facade.sent x hsent with hrefused | hmem
  · exact Or.inr ⟨x, rfl, hrefused⟩
  · obtain ⟨i, hi, hix⟩ := List.mem_filterMap.mp hmem
    refine Or.inl ⟨i, hi, ?_⟩
    rw [h.session.facade.creates i hi, hix]
    rfl

/-- What one step can do: one of the session's, a submission, or one that only
records. -/
theorem step_cases {l : Label} (hstep : step gpu s l = some s') :
    (∃ sl session, l = .session sl ∧ is_submit sl = false ∧ s.session.step gpu sl = some session ∧
      s' = { s with session }) ∨
    (∃ device cbs recordings raws session, l = .submit device cbs ∧
      (cbs.mapM fun cb => s.command_buffers[cb]?) = some recordings ∧
      recordings.mapM CommandBufferRecording.encode = .ok raws ∧
      s.session.step gpu (.client (.send device (.Submit raws))) = some session ∧
      s' = { s with session }) ∨
    s'.session = s.session ∧
      (∀ e' ∈ s'.encoders, ∀ r ∈ e'.refs, (∃ e ∈ s.encoders, r ∈ e.refs) ∨
        ∃ x : Slot, x.ref = r ∧ s.session.facade.live x = true) ∧
      ∀ c' ∈ s'.command_buffers, ∀ r ∈ c'.refs, (∃ c ∈ s.command_buffers, r ∈ c.refs) ∨
        ∃ e ∈ s.encoders, r ∈ e.refs := by
  -- the encoders that are not concerned
  have hset : ∀ {i : ℕ} {e' e0 : DropinEncoder} {r : Ref}, e' ∈ s.encoders.set i e0 → r ∈ e'.refs →
      (∃ e ∈ s.encoders, r ∈ e.refs) ∨ r ∈ e0.refs := by
    intro i e' e0 r he' hr
    rcases List.mem_or_eq_of_mem_set he' with he' | rfl
    · exact Or.inl ⟨e', he', hr⟩
    · exact Or.inr hr
  have hkeep : ∀ c' ∈ s.command_buffers, ∀ r ∈ c'.refs, (∃ c ∈ s.command_buffers, r ∈ c.refs) ∨
      ∃ e ∈ s.encoders, r ∈ e.refs := fun c hc r hr => Or.inl ⟨c, hc, hr⟩
  rcases l with sl | label | ⟨encoder, op⟩ | ⟨encoder, pass⟩ | encoder | ⟨device, cbs⟩
  · unfold step at hstep
    rcases hsub : is_submit sl with _ | _
    · simp only [hsub] at hstep
      obtain ⟨session, hsession, hs⟩ := Option.map_eq_some_iff.mp hstep
      exact Or.inl ⟨sl, session, rfl, hsub, hsession, hs.symm⟩
    · simp only [hsub] at hstep
      exact absurd hstep (by simp)
  · -- a new encoder holds nothing
    rw [← Option.some.inj hstep]
    refine Or.inr (Or.inr ⟨rfl, ?_, hkeep⟩)
    intro e he r hr
    rcases List.mem_append.mp he with he | he
    · exact Or.inl ⟨e, he, hr⟩
    · rw [List.mem_singleton.mp he] at hr
      exact absurd hr List.not_mem_nil
  · obtain ⟨e, he, hstep⟩ := Option.bind_eq_some_iff.mp hstep
    by_cases hlive : op.slots.all s.session.facade.live = true
    · rw [if_pos hlive] at hstep
      obtain ⟨e0, he0, hs⟩ := Option.bind_eq_some_iff.mp hstep
      rw [← Option.some.inj hs]
      refine Or.inr (Or.inr ⟨rfl, ?_, hkeep⟩)
      intro e' he' r hr
      rcases hset he' hr with hold | hr
      · exact Or.inl hold
      · rcases DropinEncoder.step_adds he0 r hr with hr | ⟨x, hx, rfl⟩
        · exact Or.inl ⟨e, List.mem_of_getElem? he, hr⟩
        · exact Or.inr ⟨x, rfl, List.all_eq_true.mp hlive x hx⟩
    · rw [if_neg hlive] at hstep
      exact absurd hstep (by simp)
  · obtain ⟨e, he, hstep⟩ := Option.bind_eq_some_iff.mp hstep
    obtain ⟨e0, he0, hs⟩ := Option.bind_eq_some_iff.mp hstep
    rw [← Option.some.inj hs]
    refine Or.inr (Or.inr ⟨rfl, ?_, hkeep⟩)
    intro e' he' r hr
    rcases hset he' hr with hold | hr
    · exact Or.inl hold
    · rcases DropinEncoder.turn_to_adds he0 r hr with hr | ⟨x, hx, -⟩
      · exact Or.inl ⟨e, List.mem_of_getElem? he, hr⟩
      · exact absurd hx List.not_mem_nil
  · -- the recording moves to a command buffer
    obtain ⟨e, he, hs⟩ := Option.bind_eq_some_iff.mp hstep
    have hmem := List.mem_of_getElem? he
    rw [← Option.some.inj hs]
    refine Or.inr (Or.inr ⟨rfl, ?_, ?_⟩)
    · intro e' he' r hr
      rcases hset he' hr with hold | hr
      · exact Or.inl hold
      · rcases List.mem_append.mp hr with hr | hr
        · exact absurd hr List.not_mem_nil
        · exact Or.inl ⟨e, hmem, List.mem_append_right _ hr⟩
    · intro c hc r hr
      rcases List.mem_append.mp hc with hc | hc
      · exact Or.inl ⟨c, hc, hr⟩
      · rw [List.mem_singleton.mp hc] at hr
        exact Or.inr ⟨e, hmem, List.mem_append_left _ hr⟩
  · obtain ⟨recordings, hrec, hstep⟩ := Option.bind_eq_some_iff.mp hstep
    rcases henc : recordings.mapM CommandBufferRecording.encode with e | raws
    · -- a recording that does not encode: nothing is sent
      rw [henc] at hstep
      rw [← Option.some.inj hstep]
      exact Or.inr (Or.inr ⟨rfl, fun e he r hr => Or.inl ⟨e, he, hr⟩, hkeep⟩)
    · rw [henc] at hstep
      obtain ⟨session, hsession, hs⟩ := Option.map_eq_some_iff.mp hstep
      exact Or.inr (Or.inl ⟨device, cbs, recordings, raws, session, rfl, hrec, henc, hsession,
        hs.symm⟩)

/-- **One step** keeps what the encoders hold known, and the submissions sound. -/
theorem Inv.step {l : Label} (h : Inv gpu s) (hstep : step gpu s l = some s') : Inv gpu s' := by
  rcases step_cases hstep with ⟨sl, session, -, hsub, hsession, rfl⟩ |
    ⟨device, cbs, recordings, raws, session, -, hrec, henc, hsession, rfl⟩ |
    ⟨hsession, hencoders, hbuffers⟩
  · refine h.session_step hsession ?_
    rintro device raws rfl
    exact absurd hsub (by simp [is_submit])
  · refine h.session_step hsession ?_
    intro device' raws' heq
    obtain ⟨-, hraws⟩ : device = device' ∧ raws = raws' := by simpa using heq
    rw [← hraws]
    refine h.sound ?_ henc
    intro c hc
    obtain ⟨cb, -, hcb⟩ := mem_of_mapM hrec hc
    exact List.mem_of_getElem? hcb
  · refine ⟨by rw [hsession]; exact h.session, ?_, ?_, by rw [hsession]; exact h.submitted⟩
    · intro e he r hr
      rw [hsession]
      rcases hencoders e he r hr with ⟨e0, he0, hr⟩ | ⟨x, hx, hlive⟩
      · exact h.encoders e0 he0 r hr
      · exact ⟨x, hx, (Facade.live_sent hlive).1⟩
    · intro c hc r hr
      rw [hsession]
      rcases hbuffers c hc r hr with ⟨c0, hc0, hr⟩ | ⟨e, he, hr⟩
      · exact h.command_buffers c0 hc0 r hr
      · exact h.encoders e he r hr

/-- **One step that keeps its buffers** submits nothing that is lost. -/
theorem none_lost_step {l : Label} (h : Inv gpu s) (hstep : step gpu s l = some s')
    (hkeeps : KeepsBuffers s l) (hlost : Submitted s.session.facade.issued NoneLost) :
    Submitted s'.session.facade.issued NoneLost := by
  rcases step_cases hstep with ⟨sl, session, -, hsub, hsession, rfl⟩ |
    ⟨device, cbs, recordings, raws, session, rfl, hrec, henc, hsession, rfl⟩ | ⟨hsession, -, -⟩
  · refine hlost.step h.session hsession ?_
    rintro device raws rfl
    exact absurd hsub (by simp [is_submit])
  · refine hlost.step h.session hsession ?_
    intro device' raws' heq r hr hk
    obtain ⟨-, hraws⟩ : device = device' ∧ raws = raws' := by simpa using heq
    rw [← hraws, (submit_encoded henc).2] at hr
    obtain ⟨c, hc, hrc⟩ := List.mem_flatMap.mp hr
    obtain ⟨cb, hcb, hcbc⟩ := mem_of_mapM hrec hc
    exact hkeeps device cbs rfl cb hcb c hcbc r hrc hk
  · rw [hsession]
    exact hlost

end Steps

/-! ## Every run -/

section Every

variable {gpu : Gpu} {s : Dropin}

/-- A dispatched submission, in what was sent. -/
theorem Inv.dispatched (h : Inv gpu s) {P : List Issue → Action → Prop}
    (hsub : Submitted s.session.facade.issued P) {pre post : List Entry} {x : Entry}
    (hsplit : s.session.dispatched = pre ++ x :: post) {raws : List Bytes}
    (hx : x.frame.action = .Submit raws) : P (pre.map Entry.issue) x.frame.action := by
  have hxm : x ∈ s.session.dispatched := by
    rw [hsplit]
    exact List.mem_append_right _ List.mem_cons_self
  have haction := (h.session.faithful x hxm).action
  rw [haction] at hx ⊢
  have hissued : s.session.facade.issued = pre.map Entry.issue ++ x.issue ::
      (post.map Entry.issue ++ s.session.stream.map Job.issue ++
        s.session.inbox.map Job.issue) := by
    rw [h.session.queue, hsplit, List.map_append, List.map_cons]
    simp only [List.append_assoc, List.cons_append]
  exact hsub _ _ _ hissued raws hx

/-- A submission that mentions no lost buffer is served. -/
theorem Inv.served (h : Inv gpu s) {pre post : List Entry} {x : Entry}
    (hsplit : s.session.dispatched = pre ++ x :: post) {raws : List Bytes}
    (hx : x.frame.action = .Submit raws) (hkept : NoneLost (pre.map Entry.issue) x.frame.action) :
    Served s.session pre x := by
  obtain ⟨hsupported, hcreated⟩ := h.dispatched h.submitted hsplit hx
  have hfaithful : ∀ y ∈ pre ++ x :: post, Session.Faithful gpu y := by
    intro y hy
    apply h.session.faithful
    rw [hsplit]
    exact hy
  have hpresent : ∀ r ∈ x.frame.action.reads, Succeeded pre r → (x.engine.tables r).isSome :=
    fun r hr hsucc => present_of_kept h.session hsplit hsucc (hkept r hr)
  refine ⟨?_, hpresent, ?_⟩
  · intro r hr
    rcases hcreated r hr with ⟨c, hc, hcr⟩ | hrefused
    · obtain ⟨y, hy, rfl⟩ := List.mem_map.mp hc
      refine Or.inl ⟨y, hy, ?_⟩
      rw [(hfaithful y (List.mem_append_left _ hy)).action]
      exact hcr
    · exact Or.inr hrefused
  · intro hall
    have hadm : Admitted x.frame.action x.engine.tables :=
      ⟨hsupported, fun r hr => hpresent r hr (hall r hr)⟩
    rw [(hfaithful x (List.mem_append_right _ List.mem_cons_self)).response]
    refine (handle_admitted gpu _ _ hadm).2 ?_
    rw [hx]
    rfl

/-- **When every submission is served**: exactly if none mentions a buffer whose
`Destroy` was sent before it. -/
theorem Inv.usable_iff (h : Inv gpu s) :
    Usable s.session ↔ ∀ pre x post, s.session.dispatched = pre ++ x :: post →
      ∀ raws, x.frame.action = .Submit raws → NoneLost (pre.map Entry.issue) x.frame.action := by
  constructor
  · intro husable pre x post hsplit raws hx r hr hk hlost
    obtain ⟨hsucc, hnone⟩ := absent_of_lost h.session hsplit hk hlost
    have hsome := (husable pre x post hsplit raws hx).present r hr hsucc
    rw [hnone] at hsome
    exact absurd hsome (by simp)
  · intro hkept pre x post hsplit raws hx
    exact h.served hsplit hx (hkept pre x post hsplit raws hx)

end Every

/-- **Submissions find what they mention**, in every run whose submissions
mention no buffer whose `Destroy` has been sent. -/
theorem submissions_usable (gpu : Gpu) (labels : List Label) (s : Dropin)
    (hkeeps : Transition.Guarded (step gpu) KeepsBuffers new labels)
    (hrun : Transition.run (step gpu) new labels = some s) : Usable s.session := by
  have hstep : ∀ s l s', Inv gpu s ∧ Submitted s.session.facade.issued NoneLost →
      KeepsBuffers s l → step gpu s l = some s' →
        Inv gpu s' ∧ Submitted s'.session.facade.issued NoneLost := by
    rintro s l s' ⟨hinv, hlost⟩ hok hstep
    exact ⟨hinv.step hstep, none_lost_step hinv hstep hok hlost⟩
  have hnew : Submitted new.session.facade.issued NoneLost := by
    intro pre i post h
    simp [new, Session.new, Facade.new] at h
  obtain ⟨hinv, hlost⟩ :=
    Transition.guarded_invariant (step gpu) hstep ⟨inv_new gpu, hnew⟩ hkeeps hrun
  rw [hinv.usable_iff]
  intro pre x post hsplit raws hx
  exact hinv.dispatched hlost hsplit hx

end Dropin

end Submissions

/-! ## A buffer dropped after and before the submission -/

section Runs

open Dropin

attribute [local instance] WgpuTypes.numeric

/-- A device creates its first buffer, and a recording clears it. -/
def record_clear : List Label :=
  [.session (.client .request_device), .session (.client (.mint 0 .Buffer)),
    .session (.client (.send_create first_buffer (.CreateBuffer ⟨1⟩ small_buffer))),
    .create_command_encoder none, .record 0 (.clear_buffer ⟨0, 0, 4⟩ 0 none), .finish 0]

/-- The application drops the buffer. -/
def drop_first : List Label :=
  [.session (.client (.drop first_buffer)), .session (.client (.send_destroy first_buffer))]

/-- Three frames go to the server, which dispatches them. -/
def serve_three : List Label :=
  List.replicate 3 (.session .write) ++ List.replicate 3 (.session .serve)

/-- Dropped after the submission, the buffer is there. -/
theorem buffer_kept :
    ∃ s, Transition.run (step idle_gpu) new
        (record_clear ++ .submit 0 [0] :: (drop_first ++ serve_three)) = some s ∧
      s.session.dispatched.length = 3 ∧ Usable s.session := by
  obtain ⟨s, hrun, hlen⟩ : ∃ s, Transition.run (step idle_gpu) new
      (record_clear ++ .submit 0 [0] :: (drop_first ++ serve_three)) = some s ∧
        s.session.dispatched.length = 3 := ⟨_, rfl, rfl⟩
  refine ⟨s, hrun, hlen, submissions_usable idle_gpu _ s ?_ hrun⟩
  have hnot : ∀ {s : Dropin} {l : Label}, (∀ device cbs, l ≠ .submit device cbs) →
      KeepsBuffers s l := fun hl device cbs heq => absurd heq (hl device cbs)
  unfold record_clear drop_first serve_three
  iterate 6 refine Transition.Guarded.cons (step idle_gpu) rfl (hnot nofun) ?_
  refine Transition.Guarded.cons (step idle_gpu) rfl ?_ ?_
  · -- only the create has been sent
    rintro device cbs - cb - recording - r - - ⟨before, i, after, hsplit, hd, -⟩
    rcases before with _ | ⟨c, before⟩
    · rw [← (List.cons.inj hsplit).1] at hd
      exact absurd hd nofun
    · exact absurd (List.cons.inj hsplit).2 (by simp)
  · iterate 8 refine Transition.Guarded.cons (step idle_gpu) rfl (hnot nofun) ?_
    trivial

/-- **Dropped before the submission, the buffer is lost**, although its creation
succeeded and the recording mentions it. -/
theorem dropped_buffer_lost :
    ¬ ∀ (gpu : Gpu) (labels : List Label) (s : Dropin),
      Transition.run (step gpu) new labels = some s → Usable s.session := by
  intro h
  obtain ⟨s, hrun, x1, x2, x3, hdispatched, hcreated, ⟨raws, hraws, hmentions⟩, hgone⟩ :
      ∃ s, Transition.run (step idle_gpu) new
          (record_clear ++ drop_first ++ .submit 0 [0] :: serve_three) = some s ∧
        ∃ x1 x2 x3, s.session.dispatched = [x1, x2, x3] ∧
          (x1.frame.action.creates = some first_buffer.ref ∧ x1.response = some .Ok) ∧
          (∃ raws, x3.frame.action = .Submit raws ∧
            first_buffer.ref ∈ (Action.Submit raws).reads) ∧
          x3.engine.tables first_buffer.ref = none :=
    ⟨_, rfl, _, _, _, rfl, ⟨rfl, rfl⟩, ⟨_, rfl, List.mem_singleton_self _⟩, rfl⟩
  rw [← hraws] at hmentions
  have hpresent := (h idle_gpu _ s hrun [x1, x2] x3 [] hdispatched raws hraws).present
    first_buffer.ref hmentions ⟨x1, List.mem_cons_self, hcreated⟩
  rw [hgone] at hpresent
  exact absurd hpresent (by simp)

end Runs

end WgpuRemote
