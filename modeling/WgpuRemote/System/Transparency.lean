/-
The remote backend, in place of the application's own wgpu.

`App` is the drop-in with its session and the server, and beside it what the
application has called: the calls on each encoder as it recorded them, and the
calls that sent an action, in the order in which they did.

In every run, the server has made the wgpu calls that the application's own wgpu
would have been asked, in the same order, on the same objects, and has answered
what it would have answered, as far as it has come (`remote_transparent`). That
is for an application that keeps to what the backend can carry: see `Fits`.
-/
import WgpuRemote.System.Local
import WgpuRemote.System.Submissions

set_option autoImplicit false

namespace WgpuRemote

open Bincode Client Server
open Wgpu (Occ Obj Gpu)

section Transparency

variable [WgpuTypes]

/-! ## The application -/

/-- The drop-in, and what the application has called. -/
structure App where
  dropin : Dropin
  /-- What was called on each encoder, until it is finished. -/
  tapes : List (Option Tape)
  /-- What was called on the encoder of each command buffer. -/
  recorded : List Tape
  calls : List AppCall

namespace App

def new : App := ⟨Dropin.new, [], [], []⟩

abbrev session (s : App) : Session := s.dropin.session

inductive Label where
  /-- A step in which no call sends. -/
  | quiet (l : Session.Label)
  /-- A call that sends, other than a submission. -/
  | call (device : ℕ) (c : AppCall)
  | create_command_encoder (label : Option String)
  | record (encoder : ℕ) (op : EncoderOp Held)
  | finish (encoder : ℕ)
  | submit (device : ℕ) (command_buffers : List ℕ)

/-- No call sends in the step. -/
def is_quiet : Session.Label → Bool
  | .client (.send_create _ _) | .client (.send _ _) | .client (.send_destroy _) => false
  | _ => true

/-- The step of the client in which the call sends its action. -/
def sending (device : ℕ) (c : AppCall) (a : Action) : Session.Label :=
  match c.creates, c.drops with
  | some h, _ => .client (.send_create h a)
  | none, some h => .client (.send_destroy h)
  | none, none => .client (.send device a)

/-- The call that sends in a step. -/
def called (s : App) : Label → Option AppCall
  | .call _ c => some c
  | .submit _ command_buffers =>
      (command_buffers.mapM fun cb => s.recorded[cb]?).map .submit
  | _ => none

def step (gpu : Gpu) (s : App) : Label → Option App
  | .quiet l =>
      if is_quiet l then
        (s.dropin.step gpu (.session l)).map fun dropin => { s with dropin }
      else none
  | .call device c => do
      let a ← c.action
      -- a handle can be passed only while it is alive
      if c.slots.all s.session.facade.live then
        let dropin ← s.dropin.step gpu (.session (sending device c a))
        some { s with dropin, calls := s.calls ++ [c] }
      else none
  | .create_command_encoder label =>
      (s.dropin.step gpu (.create_command_encoder label)).map fun dropin =>
        { s with dropin, tapes := s.tapes ++ [some ⟨label, []⟩] }
  | .record encoder op => do
      let tape ← s.tapes[encoder]?
      let tape ← tape
      let dropin ← s.dropin.step gpu (.record encoder op)
      some { s with
        dropin, tapes := s.tapes.set encoder (some { tape with ops := tape.ops ++ [op] }) }
  | .finish encoder => do
      let tape ← s.tapes[encoder]?
      let tape ← tape
      let dropin ← s.dropin.step gpu (.finish encoder)
      some { s with
        dropin, tapes := s.tapes.set encoder none, recorded := s.recorded ++ [tape] }
  | .submit device command_buffers => do
      let tapes ← command_buffers.mapM fun cb => s.recorded[cb]?
      let dropin ← s.dropin.step gpu (.submit device command_buffers)
      some { s with dropin, calls := s.calls ++ [.submit tapes] }

/-! ## What the backend can carry -/

/-- The call can be carried: its frame encodes, and no buffer it is given is one
that was dropped before. -/
structure Fits (s : App) (c : AppCall) : Prop where
  carried : Carried c
  kept : ∀ x ∈ c.slots, x.kind = .Buffer → ∀ c' ∈ s.calls, c'.drops ≠ some x
  encodes : ∃ a bytes, c.action = some a ∧
    encode_frame Wire.frame ⟨some ⟨s.session.facade.next_request_id⟩, a⟩ = .ok bytes

/-- What is called in the step can be carried. -/
def Carries (s : App) (l : Label) : Prop := ∀ c, s.called l = some c → s.Fits c

/-! ## What is the same -/

/-- **The server is the application's own wgpu**, as far as it has come. -/
structure Transparent (gpu : Gpu) (s : App) : Prop where
  log : s.session.engine.log =
    (LocalWgpu.run gpu (s.calls.take s.session.dispatched.length)).log
  answers : ∀ pre x post, s.session.dispatched = pre ++ x :: post → ∃ c,
    s.calls[pre.length]? = some c ∧
      x.response = some ((LocalWgpu.run gpu (s.calls.take pre.length)).answer gpu c)
  drained : s.session.stream = [] → s.session.inbox = [] →
    s.session.dispatched.length = s.calls.length

/-! ## What a run keeps -/

/-- The encoder has taken the calls of the tape. -/
def Taped (e : DropinEncoder) (t : Tape) : Prop :=
  Transition.run DropinEncoder.step (DropinEncoder.new t.label) (t.ops.map EncoderOp.wrapped) = some e

/-- The command buffer is the recording of the tape. -/
def Recorded (r : CommandBufferRecording) (t : Tape) : Prop :=
  DropinEncoder.record t.label (t.ops.map EncoderOp.wrapped) = some r

/-- What was sent is what the call sends. -/
structure Sent (i : Issue) (c : AppCall) : Prop where
  sends : Sends c i.action
  creates : i.creates = c.creates
  destroys : i.destroys = c.drops

/-- The engine each action was dispatched on has dispatched those before it. -/
structure Chained (gpu : Gpu) (s : Session) : Prop where
  engine : s.engine = served gpu (s.dispatched.map fun x => x.issue.action)
  entries : ∀ pre x post, s.dispatched = pre ++ x :: post →
    x.engine = served gpu (pre.map fun x => x.issue.action)

structure Inv (gpu : Gpu) (s : App) : Prop where
  session : Session.Inv gpu s.session
  chained : Chained gpu s.session
  refused : ∀ h, s.session.facade.refused h = false
  sent : List.Forall₂ Sent s.session.facade.issued s.calls
  carried : ∀ c ∈ s.calls, Carried c
  in_use : ∀ pre c post, s.calls = pre ++ c :: post → ∀ x ∈ c.slots, InUse pre x
  tapes : List.Forall₂ (fun e t => ∀ tape, t = some tape → Taped e tape)
    s.dropin.encoders s.tapes
  recorded : List.Forall₂ Recorded s.dropin.command_buffers s.recorded
  /-- What is on a tape was created. -/
  known : ∀ t, some t ∈ s.tapes ∨ t ∈ s.recorded → ∀ x ∈ t.ops.flatMap EncoderOp.slots,
    Stage.is_sent (s.session.facade.stage x) = true

theorem chained_new (gpu : Gpu) : Chained gpu Session.new where
  engine := rfl
  entries pre x post h := by simp [Session.new] at h

theorem inv_new (gpu : Gpu) : Inv gpu new where
  session := Session.inv_new gpu
  chained := chained_new gpu
  refused _ := rfl
  sent := .nil
  carried c hc := by cases hc
  in_use pre c post h := by simp [new] at h
  tapes := .nil
  recorded := .nil
  known t ht := by
    rcases ht with ht | ht
    · cases ht
    · cases ht

/-- One step keeps the chain of engines. -/
theorem Chained.step {gpu : Gpu} {s s' : Session} {l : Session.Label} (h : Chained gpu s)
    (hi : Session.Inv gpu s) (hstep : s.step gpu l = some s') : Chained gpu s' := by
  rcases Session.step_cases hi hstep with ⟨cl, facade, job, -, -, rfl⟩ | ⟨job, inbox, -, -, rfl⟩ |
    ⟨job, stream, rid, -, -, rfl⟩
  · exact ⟨h.engine, h.entries⟩
  · exact ⟨h.engine, h.entries⟩
  · refine ⟨?_, ?_⟩
    · show (s.engine.handle gpu job.issue.action).2 = _
      rw [List.map_append, List.map_singleton, served_snoc, ← h.engine]
    · intro pre x post hsplit
      rcases Transition.split_snoc hsplit with ⟨rfl, rfl⟩ | ⟨front, hfront⟩
      · exact h.engine
      · exact h.entries pre x front hfront

/-! ## Lists side by side -/

section SideBySide

variable {α β : Type} {R : α → β → Prop} {l : List α} {l' : List β}

omit [WgpuTypes] in
/-- Related lists stay so when related elements are put at one place. -/
theorem forall₂_set (h : List.Forall₂ R l l') {a : α} {b : β} (hab : R a b) (i : ℕ) :
    List.Forall₂ R (l.set i a) (l'.set i b) := by
  induction h generalizing i with
  | nil => exact .nil
  | cons hhead htail ih =>
      rcases i with _ | i
      · exact .cons hab htail
      · exact .cons hhead (ih i)

omit [WgpuTypes] in
theorem forall₂_getElem? (h : List.Forall₂ R l l') {i : ℕ} {b : β} (hb : l'[i]? = some b) :
    ∃ a, l[i]? = some a ∧ R a b := by
  induction h generalizing i with
  | nil => exact absurd hb (by simp)
  | cons hhead _ ih =>
      rcases i with _ | i
      · exact ⟨_, rfl, Option.some.inj hb ▸ hhead⟩
      · exact ih hb

omit [WgpuTypes] in
theorem forall₂_mem_left (h : List.Forall₂ R l l') {a : α} (ha : a ∈ l) : ∃ b ∈ l', R a b := by
  induction h with
  | nil => exact absurd ha List.not_mem_nil
  | cons hhead _ ih =>
      rcases List.mem_cons.mp ha with rfl | ha
      · exact ⟨_, List.mem_cons_self, hhead⟩
      · obtain ⟨b, hb, hab⟩ := ih ha
        exact ⟨b, List.mem_cons_of_mem _ hb, hab⟩

omit [WgpuTypes] in
/-- Picking by index from related lists gives related lists. -/
theorem forall₂_mapM (h : List.Forall₂ R l l') {is : List ℕ} {bs : List β}
    (hbs : (is.mapM fun i => l'[i]?) = some bs) :
    ∃ as, (is.mapM fun i => l[i]?) = some as ∧ List.Forall₂ R as bs := by
  induction is generalizing bs with
  | nil =>
      cases hbs
      exact ⟨[], rfl, .nil⟩
  | cons i is ih =>
      rw [List.mapM_cons] at hbs
      obtain ⟨b, hb, hbs⟩ := Option.bind_eq_some_iff.mp hbs
      obtain ⟨rest, hrest, hbs⟩ := Option.bind_eq_some_iff.mp hbs
      obtain ⟨a, ha, hab⟩ := forall₂_getElem? h hb
      obtain ⟨as, has, hall⟩ := ih hrest
      refine ⟨a :: as, ?_, ?_⟩
      · rw [List.mapM_cons, ha, has]
        rfl
      · rw [← Option.some.inj hbs]
        exact .cons hab hall

end SideBySide

/-! ## One step -/

section Steps

variable {gpu : Gpu} {s : App}

/-- In a quiet step of the client, nothing is sent. -/
theorem quiet_facade {f f' : Facade} {l : Facade.Label} {job : Option Job}
    (hquiet : is_quiet (.client l) = true) (h : f.step l = some (f', job)) :
    f'.issued = f.issued ∧ f'.refused = f.refused := by
  rcases l with _ | ⟨device, k⟩ | ⟨x, a⟩ | ⟨device, a⟩ | x | x | x
  case send_create | send | send_destroy => exact absurd hquiet (by simp [is_quiet])
  case request_device =>
    cases h
    exact ⟨rfl, rfl⟩
  case mint =>
    unfold Facade.step at h
    by_cases hd : device < f.devices
    · simp only [if_pos hd] at h
      cases h
      exact ⟨rfl, rfl⟩
    · simp only [if_neg hd] at h
      exact absurd h (by simp)
  case clone =>
    rcases hx : f.stage x with _ | _ | extra | _ | _
    all_goals simp only [Facade.step, hx] at h
    all_goals first | (cases h; exact ⟨rfl, rfl⟩) | exact absurd h (by simp)
  case drop =>
    rcases hx : f.stage x with _ | _ | (_ | extra) | _ | _
    all_goals simp only [Facade.step, hx] at h
    all_goals first | (cases h; exact ⟨rfl, rfl⟩) | exact absurd h (by simp)

/-- In a quiet step, nothing is sent. -/
theorem quiet_issued {s s' : Session} {l : Session.Label} (hi : Session.Inv gpu s)
    (hquiet : is_quiet l = true) (hstep : s.step gpu l = some s') :
    s'.facade.issued = s.facade.issued ∧ s'.facade.refused = s.facade.refused := by
  rcases Session.step_cases hi hstep with ⟨cl, facade, job, rfl, hf, rfl⟩ | ⟨job, inbox, -, -, rfl⟩ |
    ⟨job, stream, rid, -, -, rfl⟩
  · exact quiet_facade hquiet hf
  · exact ⟨rfl, rfl⟩
  · exact ⟨rfl, rfl⟩

/-- A call that is sent, and fits, is put on record. -/
theorem sending_facade {f f' : Facade} {device : ℕ} {c : AppCall} {a : Action} {l : Facade.Label}
    {job : Option Job} {bytes : Bytes} (hl : sending device c a = .client l)
    (ha : c.action = some a)
    (henc : encode_frame Wire.frame ⟨some ⟨f.next_request_id⟩, a⟩ = .ok bytes)
    (h : f.step l = some (f', job)) :
    ∃ i, Sent i c ∧ f'.issued = f.issued ++ [i] ∧ f'.refused = f.refused := by
  unfold sending at hl
  rcases hc : c.creates with _ | x
  · rcases hd : c.drops with _ | x
    · simp only [hc, hd] at hl
      cases hl
      unfold Facade.step at h
      by_cases hboth : a.creates = none ∧ a.destroys = none
      · simp only [if_pos hboth] at h
        rw [Facade.send_of_encodes henc] at h
        cases h
        refine ⟨_, ⟨⟨ha, ?_⟩, hc.symm, hd.symm⟩, rfl, rfl⟩
        rw [hc]
        exact hboth.1
      · simp only [if_neg hboth] at h
        exact absurd h (by simp)
    · -- the last clone of a handle goes
      have hdrop : c = .drop x := by
        cases c
        case drop => exact congrArg AppCall.drop (Option.some.inj hd)
        all_goals exact absurd hd nofun
      subst hdrop
      simp only [hc, hd] at hl
      cases hl
      cases ha
      unfold Facade.step at h
      by_cases hx : f.stage x = some .dropping
      · simp only [if_pos hx] at h
        rw [Facade.send_of_encodes henc] at h
        cases h
        exact ⟨_, ⟨⟨rfl, rfl⟩, rfl, rfl⟩, rfl, rfl⟩
      · simp only [if_neg hx] at h
        exact absurd h (by simp)
  · have hd : c.drops = none := by
      cases c
      case drop => exact absurd hc nofun
      all_goals rfl
    simp only [hc] at hl
    cases hl
    unfold Facade.step at h
    by_cases hx : f.stage x = some .creating ∧ a.creates = some x.ref
    · simp only [if_pos hx] at h
      rw [Facade.send_of_encodes henc] at h
      cases h
      refine ⟨_, ⟨⟨ha, ?_⟩, hc.symm, hd.symm⟩, rfl, rfl⟩
      rw [hc]
      exact hx.2
    · simp only [if_neg hx] at h
      exact absurd h (by simp)

/-- Every call of the application is sent by a call of the client. -/
theorem sending_client (device : ℕ) (c : AppCall) (a : Action) :
    ∃ l, sending device c a = .client l := by
  unfold sending
  rcases c.creates with _ | x
  · rcases c.drops with _ | x
    · exact ⟨_, rfl⟩
    · exact ⟨_, rfl⟩
  · exact ⟨_, rfl⟩

/-- A handle that was sent was created in a call before. -/
theorem Inv.created (h : Inv gpu s) {x : Slot}
    (hx : Stage.is_sent (s.session.facade.stage x) = true) : ∃ c ∈ s.calls, c.creates = some x := by
  rcases h.session.facade.sent x hx with hrefused | hmem
  · rw [h.refused x] at hrefused
    exact absurd hrefused (by simp)
  · obtain ⟨i, hi, hcreates⟩ := List.mem_filterMap.mp hmem
    obtain ⟨c, hc, hsent⟩ := forall₂_mem_left h.sent hi
    exact ⟨c, hc, hsent.creates ▸ hcreates⟩

/-- A step of the session in which nothing is sent. -/
theorem Inv.quiet (h : Inv gpu s) {l : Session.Label} {session : Session}
    (hquiet : is_quiet l = true) (hstep : s.session.step gpu l = some session) :
    Inv gpu { s with dropin := { s.dropin with session } } := by
  obtain ⟨hissued, hrefused⟩ := quiet_issued h.session hquiet hstep
  obtain ⟨hkept, -, -⟩ := Session.step_facade h.session hstep
  refine ⟨h.session.step hstep, h.chained.step h.session hstep, ?_, ?_, h.carried, h.in_use, h.tapes,
    h.recorded, ?_⟩
  · intro x
    show session.facade.refused x = false
    rw [hrefused]
    exact h.refused x
  · show List.Forall₂ Sent session.facade.issued s.calls
    rw [hissued]
    exact h.sent
  · exact fun t ht x hx => hkept x (h.known t ht x hx)

/-- A call that sends. -/
theorem Inv.call (h : Inv gpu s) {device : ℕ} {c : AppCall} {a : Action} {session : Session}
    (ha : c.action = some a) (hfits : s.Fits c)
    (hslots : ∀ x ∈ c.slots, Stage.is_sent (s.session.facade.stage x) = true)
    (hstep : s.session.step gpu (sending device c a) = some session) :
    Inv gpu { s with dropin := { s.dropin with session }, calls := s.calls ++ [c] } := by
  obtain ⟨hkept, -, -⟩ := Session.step_facade h.session hstep
  obtain ⟨a', bytes, ha', henc⟩ := hfits.encodes
  obtain rfl : a = a' := Option.some.inj (ha.symm.trans ha')
  obtain ⟨i, hsent, hissued, hrefused⟩ : ∃ i, Sent i c ∧
      session.facade.issued = s.session.facade.issued ++ [i] ∧
      session.facade.refused = s.session.facade.refused := by
    obtain ⟨l, hl⟩ := sending_client device c a
    rw [hl] at hstep
    rcases Session.step_cases h.session hstep with ⟨cl, facade, job, hcl, hf, rfl⟩ |
      ⟨job, inbox, hno, -, -⟩ | ⟨job, stream, rid, hno, -, -⟩
    · cases hcl
      exact sending_facade hl ha henc hf
    · cases hno
    · cases hno
  refine ⟨h.session.step hstep, h.chained.step h.session hstep, ?_, ?_, ?_, ?_, h.tapes, h.recorded, ?_⟩
  · intro x
    show session.facade.refused x = false
    rw [hrefused]
    exact h.refused x
  · show List.Forall₂ Sent session.facade.issued (s.calls ++ [c])
    rw [hissued]
    exact List.rel_append h.sent (.cons hsent .nil)
  · intro c' hc'
    rcases List.mem_append.mp hc' with hc' | hc'
    · exact h.carried c' hc'
    · rw [List.mem_singleton.mp hc']
      exact hfits.carried
  · intro pre c' post hsplit
    rcases Transition.split_snoc hsplit with ⟨rfl, rfl⟩ | ⟨front, hfront⟩
    · exact fun x hx => ⟨h.created (hslots x hx), hfits.kept x hx⟩
    · exact h.in_use pre c' front hfront
  · exact fun t ht x hx => hkept x (h.known t ht x hx)

/-- A new encoder has been called nothing on. -/
theorem Inv.create_command_encoder (h : Inv gpu s) (label : Option String) :
    Inv gpu { s with
      dropin := { s.dropin with encoders := s.dropin.encoders ++ [DropinEncoder.new label] }
      tapes := s.tapes ++ [some ⟨label, []⟩] } := by
  refine ⟨h.session, h.chained, h.refused, h.sent, h.carried, h.in_use, ?_, h.recorded, ?_⟩
  · refine List.rel_append h.tapes (.cons ?_ .nil)
    intro tape htape
    rw [← Option.some.inj htape]
    rfl
  · rintro t (ht | ht) x hx
    · rcases List.mem_append.mp ht with ht | ht
      · exact h.known t (Or.inl ht) x hx
      · rw [Option.some.inj (List.mem_singleton.mp ht)] at hx
        exact absurd hx List.not_mem_nil
    · exact h.known t (Or.inr ht) x hx

/-- A call on an encoder goes on its tape. -/
theorem Inv.record (h : Inv gpu s) {encoder : ℕ} {op : EncoderOp Held} {tape : Tape}
    {e e' : DropinEncoder} (htape : s.tapes[encoder]? = some (some tape))
    (he : s.dropin.encoders[encoder]? = some e)
    (hlive : op.slots.all s.session.facade.live = true) (hop : e.step op.wrapped = some e') :
    Inv gpu { s with
      dropin := { s.dropin with encoders := s.dropin.encoders.set encoder e' }
      tapes := s.tapes.set encoder (some { tape with ops := tape.ops ++ [op] }) } := by
  refine ⟨h.session, h.chained, h.refused, h.sent, h.carried, h.in_use, ?_, h.recorded, ?_⟩
  · refine forall₂_set h.tapes ?_ encoder
    intro tape' htape'
    obtain ⟨e0, he0, htaped⟩ := forall₂_getElem? h.tapes htape
    obtain rfl : e = e0 := Option.some.inj (he.symm.trans he0)
    rw [← Option.some.inj htape']
    show Transition.run DropinEncoder.step _ ((tape.ops ++ [op]).map EncoderOp.wrapped) = some e'
    rw [List.map_append, Transition.run_append, htaped tape rfl, Option.bind_some]
    show (e.step op.wrapped).bind _ = _
    rw [hop]
    rfl
  · have hold : some tape ∈ s.tapes := List.mem_of_getElem? htape
    rintro t (ht | ht) x hx
    · rcases List.mem_or_eq_of_mem_set ht with ht | ht
      · exact h.known t (Or.inl ht) x hx
      · rw [Option.some.inj ht, List.flatMap_append] at hx
        rcases List.mem_append.mp hx with hx | hx
        · exact h.known tape (Or.inl hold) x hx
        · rw [List.flatMap_cons, List.flatMap_nil, List.append_nil] at hx
          exact (Facade.live_sent (List.all_eq_true.mp hlive x hx)).1
    · exact h.known t (Or.inr ht) x hx

/-- A finished encoder's tape goes to its command buffer. -/
theorem Inv.finish (h : Inv gpu s) {encoder : ℕ} {tape : Tape} {e : DropinEncoder}
    (htape : s.tapes[encoder]? = some (some tape)) (he : s.dropin.encoders[encoder]? = some e) :
    Inv gpu { s with
      dropin := { s.dropin with
        encoders := s.dropin.encoders.set encoder { e with recording := ⟨none, []⟩ }
        command_buffers := s.dropin.command_buffers ++ [e.finish] }
      tapes := s.tapes.set encoder none
      recorded := s.recorded ++ [tape] } := by
  have hold : some tape ∈ s.tapes := List.mem_of_getElem? htape
  refine ⟨h.session, h.chained, h.refused, h.sent, h.carried, h.in_use, ?_, ?_, ?_⟩
  · exact forall₂_set h.tapes (fun _ hnone => absurd hnone (by simp)) encoder
  · refine List.rel_append h.recorded (.cons ?_ .nil)
    obtain ⟨e0, he0, htaped⟩ := forall₂_getElem? h.tapes htape
    obtain rfl : e = e0 := Option.some.inj (he.symm.trans he0)
    exact congrArg (Option.map DropinEncoder.finish) (htaped tape rfl)
  · rintro t (ht | ht) x hx
    · rcases List.mem_or_eq_of_mem_set ht with ht | ht
      · exact h.known t (Or.inl ht) x hx
      · exact absurd ht (by simp)
    · rcases List.mem_append.mp ht with ht | ht
      · exact h.known t (Or.inr ht) x hx
      · rw [List.mem_singleton.mp ht] at hx
        exact h.known tape (Or.inl hold) x hx

/-- The action of a submission is made of the recordings the drop-in holds. -/
theorem submit_action {recordings : List CommandBufferRecording} {tapes : List Tape}
    (h : List.Forall₂ Recorded recordings tapes) :
    (AppCall.submit tapes).action =
      (recordings.mapM CommandBufferRecording.encode).toOption.map Action.Submit := by
  have hpayloads : tapes.mapM Tape.payload =
      (recordings.mapM CommandBufferRecording.encode).toOption := by
    induction h with
    | nil => rfl
    | @cons r t recordings tapes hr _ ih =>
        have hpayload : t.payload = r.encode.toOption := by
          unfold Tape.payload
          rw [hr]
          rfl
        rw [List.mapM_cons, List.mapM_cons, hpayload, ih]
        rcases r.encode with err | raw
        · rfl
        · rcases recordings.mapM CommandBufferRecording.encode with err | rest
          · rfl
          · rfl
  exact congrArg (Option.map Action.Submit) hpayloads

/-- **One step** of an application that keeps to what can be carried. -/
theorem Inv.step {s' : App} {l : Label} (h : Inv gpu s) (hcarries : s.Carries l)
    (hstep : App.step gpu s l = some s') : Inv gpu s' := by
  -- a step of the session, as the drop-in takes it
  have hsession : ∀ {sl : Session.Label} {dropin : Dropin},
      s.dropin.step gpu (.session sl) = some dropin →
      ∃ session, s.session.step gpu sl = some session ∧ dropin = { s.dropin with session } := by
    intro sl dropin hd
    unfold Dropin.step at hd
    rcases hsub : Dropin.is_submit sl with _ | _
    · simp only [hsub] at hd
      obtain ⟨session, hs, heq⟩ := Option.map_eq_some_iff.mp hd
      exact ⟨session, hs, heq.symm⟩
    · simp only [hsub] at hd
      exact absurd hd (by simp)
  rcases l with l | ⟨device, c⟩ | label | ⟨encoder, op⟩ | encoder | ⟨device, cbs⟩
  · unfold App.step at hstep
    rcases hquiet : is_quiet l with _ | _
    · simp only [hquiet] at hstep
      exact absurd hstep (by simp)
    · simp only [hquiet, if_true] at hstep
      obtain ⟨dropin, hdropin, hs⟩ := Option.map_eq_some_iff.mp hstep
      obtain ⟨session, hstep', rfl⟩ := hsession hdropin
      rw [← hs]
      exact h.quiet hquiet hstep'
  · obtain ⟨a, ha, hstep⟩ := Option.bind_eq_some_iff.mp hstep
    by_cases hlive : c.slots.all s.session.facade.live = true
    · rw [if_pos hlive] at hstep
      obtain ⟨dropin, hdropin, hs⟩ := Option.bind_eq_some_iff.mp hstep
      obtain ⟨session, hstep', rfl⟩ := hsession hdropin
      rw [← Option.some.inj hs]
      refine h.call ha (hcarries c rfl) ?_ hstep'
      exact fun x hx => (Facade.live_sent (List.all_eq_true.mp hlive x hx)).1
    · rw [if_neg hlive] at hstep
      exact absurd hstep (by simp)
  · unfold App.step Dropin.step at hstep
    rw [← Option.some.inj hstep]
    exact h.create_command_encoder label
  · obtain ⟨t, htape, hrest⟩ := Option.bind_eq_some_iff.mp hstep
    obtain ⟨tape, ht, hrest⟩ := Option.bind_eq_some_iff.mp hrest
    rw [ht] at htape
    obtain ⟨dropin, hdropin, hs⟩ := Option.bind_eq_some_iff.mp hrest
    obtain ⟨e, he, hdropin⟩ := Option.bind_eq_some_iff.mp hdropin
    by_cases hlive : op.slots.all s.session.facade.live = true
    · rw [if_pos hlive] at hdropin
      obtain ⟨e', hop, hdropin⟩ := Option.bind_eq_some_iff.mp hdropin
      rw [← Option.some.inj hs, ← Option.some.inj hdropin]
      exact h.record htape he hlive hop
    · rw [if_neg hlive] at hdropin
      exact absurd hdropin (by simp)
  · obtain ⟨t, htape, hrest⟩ := Option.bind_eq_some_iff.mp hstep
    obtain ⟨tape, ht, hrest⟩ := Option.bind_eq_some_iff.mp hrest
    rw [ht] at htape
    obtain ⟨dropin, hdropin, hs⟩ := Option.bind_eq_some_iff.mp hrest
    obtain ⟨e, he, hdropin⟩ := Option.bind_eq_some_iff.mp hdropin
    rw [← Option.some.inj hs, ← Option.some.inj hdropin]
    exact h.finish htape he
  · obtain ⟨tapes, htapes, hstep⟩ := Option.bind_eq_some_iff.mp hstep
    obtain ⟨dropin, hdropin, hs⟩ := Option.bind_eq_some_iff.mp hstep
    have hfits : s.Fits (.submit tapes) := by
      apply hcarries
      show (cbs.mapM fun cb => s.recorded[cb]?).map AppCall.submit = _
      rw [htapes]
      rfl
    obtain ⟨recordings, hrec, hall⟩ := forall₂_mapM h.recorded htapes
    have haction := submit_action hall
    obtain ⟨a, bytes, ha, -⟩ := hfits.encodes
    obtain ⟨recordings', hrec', hdropin⟩ := Option.bind_eq_some_iff.mp hdropin
    obtain rfl : recordings = recordings' := Option.some.inj (hrec.symm.trans hrec')
    rcases hraws : recordings.mapM CommandBufferRecording.encode with err | raws
    · rw [haction, hraws] at ha
      exact absurd ha (by simp [Except.toOption])
    · rw [hraws] at hdropin haction
      obtain ⟨session, hstep', rfl⟩ := Option.map_eq_some_iff.mp hdropin
      rw [← Option.some.inj hs]
      refine h.call haction hfits ?_ hstep'
      intro x hx
      obtain ⟨t, ht, hx⟩ := List.mem_flatMap.mp hx
      obtain ⟨cb, -, hcb⟩ := Dropin.mem_of_mapM htapes ht
      exact h.known t (Or.inr (List.mem_of_getElem? hcb)) x hx

end Steps

/-! ## Every run -/

section Every

variable {gpu : Gpu} {s : App}

/-- With different ids, the calls are well used. -/
theorem Inv.well_used (h : Inv gpu s) (hdistinct : Session.Distinct s.session.facade) :
    WellUsed s.calls where
  carried := h.carried
  in_use := h.in_use
  distinct := by
    have hminted : ∀ x, Touched s.calls x → s.session.facade.stage x ≠ none := by
      rintro x ⟨c, hc, hx⟩
      obtain ⟨i, hi, hsent⟩ := forall₂_mem_left h.sent.flip hc
      rcases hx with hx | hx
      · have hs := h.session.facade.created_sent i hi x (hsent.creates.trans hx)
        intro hnone
        rw [hnone] at hs
        exact absurd hs (by simp [Stage.is_sent])
      · rw [h.session.facade.destroyed_gone i hi x (hsent.destroys.trans hx)]
        exact Option.some_ne_none _
    exact fun x y hx hy => hdistinct x y (hminted x hx) (hminted y hy)

/-- The calls of what was sent first. -/
theorem Inv.prefix_matches (h : Inv gpu s) (hused : WellUsed s.calls) {front : List Entry}
    {rest : List Issue} (hfront : s.session.facade.issued = front.map Entry.issue ++ rest) :
    Matches (LocalWgpu.run gpu (s.calls.take front.length))
      (served gpu (front.map fun x => x.issue.action)) (s.calls.take front.length) := by
  have hsent := h.sent.flip
  rw [hfront] at hsent
  have htake := List.forall₂_take_append _ _ _ hsent
  rw [List.length_map] at htake
  refine program_served gpu ?_ ?_
  · rw [List.forall₂_map_right_iff] at htake ⊢
    exact htake.imp fun c x hcx => hcx.sends
  · rw [← List.take_append_drop front.length s.calls] at hused
    exact hused.front

/-- With different ids, the server is the application's own wgpu. -/
theorem Inv.transparent (h : Inv gpu s) (hdistinct : Session.Distinct s.session.facade) :
    Transparent gpu s where
  log := by
    have hqueue := h.session.queue
    rw [List.append_assoc] at hqueue
    rw [h.chained.engine]
    exact (h.prefix_matches (h.well_used hdistinct) hqueue).log
  answers := by
    intro pre x post hsplit
    have hused := h.well_used hdistinct
    obtain ⟨rest, hrest⟩ := h.session.split hsplit
    have hat : s.session.facade.issued[pre.length]? = some x.issue := by
      rw [hrest, List.getElem?_append_right (Nat.le_of_eq (List.length_map _)), List.length_map, Nat.sub_self]
      rfl
    obtain ⟨c, hc, hsent⟩ := forall₂_getElem? h.sent.flip hat
    refine ⟨c, hc, ?_⟩
    have hmatches := h.prefix_matches hused hrest
    -- the calls before `c`, and those after it
    obtain ⟨hlt, hget⟩ := List.getElem?_eq_some_iff.mp hc
    have hcalls : s.calls = s.calls.take pre.length ++ c :: s.calls.drop (pre.length + 1) := by
      rw [← hget, ← List.drop_eq_getElem_cons hlt, List.take_append_drop]
    have hdist : ∀ y z, Touched (s.calls.take pre.length ++ [c]) y →
        Touched (s.calls.take pre.length ++ [c]) z → y.ref = z.ref → y = z := by
      have hall := hused
      rw [hcalls, ← List.singleton_append, ← List.append_assoc] at hall
      exact hall.front.distinct
    have hcarried := hused.carried c (List.mem_of_getElem? hc)
    obtain ⟨hanswer, -⟩ := hmatches.call gpu hsent.sends hcarried
      (hused.in_use _ c _ hcalls) hdist
    have hx : x ∈ s.session.dispatched := by
      rw [hsplit]
      exact List.mem_append_right _ List.mem_cons_self
    have hfaithful := h.session.faithful x hx
    rw [hfaithful.response, hfaithful.action, h.chained.entries pre x post hsplit]
    exact hanswer
  drained := by
    intro hstream hinbox
    have hlen := h.sent.length_eq
    rw [h.session.queue, hstream, hinbox] at hlen
    simpa using hlen

/-- **A run** of such an application. -/
theorem inv_run {labels : List Label} (hcarries : Transition.Guarded (step gpu) Carries new labels)
    (hrun : Transition.run (step gpu) new labels = some s) : Inv gpu s :=
  Transition.guarded_invariant (step gpu) (fun _ _ _ h hok hstep => Inv.step h hok hstep)
    (inv_new gpu) hcarries hrun

/-- **The remote backend is the application's own wgpu.** In every run of an
application that keeps to what can be carried, if its handles have different ids:
the server has made the calls the application's own wgpu would have been asked,
and answered what it would have answered, as far as it has come. -/
theorem remote_transparent (gpu : Gpu) (labels : List Label) (s : App)
    (hcarries : Transition.Guarded (step gpu) Carries new labels)
    (hrun : Transition.run (step gpu) new labels = some s)
    (hdistinct : Session.Distinct s.session.facade) : Transparent gpu s :=
  (inv_run hcarries hrun).transparent hdistinct

end Every

end App

end Transparency

/-! ## A run of one device -/

section Runs

open App

attribute [local instance] WgpuTypes.numeric

/-- A device creates a buffer, writes to it and clears it, and drops it after the
submission. -/
def write_and_clear : List App.Label :=
  [.quiet (.client .request_device), .quiet (.client (.mint 0 .Buffer)),
    .call 0 (.create first_buffer (.create_buffer small_buffer)),
    .call 0 (.write_buffer ⟨0, 0, 4⟩ 0 [1, 2, 3, 4]),
    .create_command_encoder none, .record 0 (.clear_buffer ⟨0, 0, 4⟩ 0 none), .finish 0,
    .submit 0 [0], .quiet (.client (.drop first_buffer)), .call 0 (.drop first_buffer)] ++
  List.replicate 4 (.quiet .write) ++ List.replicate 4 (.quiet .serve)

/-- It can be carried. -/
theorem carries_write_and_clear :
    Transition.Guarded (step idle_gpu) Carries new write_and_clear := by
  have hnot : ∀ {s : App} {l : App.Label}, s.called l = none → s.Carries l := by
    intro s l hl c hc
    rw [hl] at hc
    exact absurd hc nofun
  -- no call before it drops anything
  have hfits : ∀ {s : App} {c : AppCall}, Carried c → s.calls.Forall (fun c => c.drops = none) →
      (∃ a bytes, c.action = some a ∧
        encode_frame Wire.frame ⟨some ⟨s.session.facade.next_request_id⟩, a⟩ = .ok bytes) →
      s.Fits c := by
    intro s c hc hd he
    refine ⟨hc, ?_, he⟩
    intro x _ _ c' hc'
    rw [List.forall_iff_forall_mem.mp hd c' hc']
    exact nofun
  have hcreate : CreateCarried (.create_buffer small_buffer) := by
    refine ⟨?_, ?_, ?_⟩
    · intro desc hdesc
      cases hdesc
      rfl
    · exact fun o ho => absurd ho List.not_mem_nil
    · exact fun desc hdesc => absurd hdesc nofun
  unfold write_and_clear
  iterate 2 refine Transition.Guarded.cons (step idle_gpu) rfl (hnot rfl) ?_
  refine Transition.Guarded.cons (step idle_gpu) rfl ?_ ?_
  · intro c hc
    cases hc
    exact hfits hcreate trivial ⟨_, _, rfl, rfl⟩
  refine Transition.Guarded.cons (step idle_gpu) rfl ?_ ?_
  · intro c hc
    cases hc
    exact hfits trivial rfl ⟨_, _, rfl, rfl⟩
  iterate 3 refine Transition.Guarded.cons (step idle_gpu) rfl (hnot rfl) ?_
  refine Transition.Guarded.cons (step idle_gpu) rfl ?_ ?_
  · intro c hc
    cases hc
    refine hfits ?_ ⟨rfl, rfl⟩ ⟨_, _, rfl, rfl⟩
    intro t ht
    rw [List.mem_singleton.mp ht]
    rfl
  refine Transition.Guarded.cons (step idle_gpu) rfl (hnot rfl) ?_
  refine Transition.Guarded.cons (step idle_gpu) rfl ?_ ?_
  · intro c hc
    cases hc
    exact hfits trivial ⟨rfl, rfl, rfl⟩ ⟨_, _, rfl, rfl⟩
  iterate 8 refine Transition.Guarded.cons (step idle_gpu) rfl (hnot rfl) ?_
  trivial

/-- The server has made its calls. -/
theorem write_and_clear_transparent :
    ∃ s, Transition.run (step idle_gpu) new write_and_clear = some s ∧
      s.session.dispatched.length = 4 ∧ Transparent idle_gpu s := by
  obtain ⟨s, hrun, hlen, hone, hids⟩ : ∃ s,
      Transition.run (step idle_gpu) new write_and_clear = some s ∧
        s.session.dispatched.length = 4 ∧ s.session.facade.devices ≤ 1 ∧
        ∀ k, s.session.facade.ids 0 k ≤ 2 ^ 64 := by
    refine ⟨_, rfl, rfl, Nat.le_refl 1, ?_⟩
    intro k
    rcases k with _ | _ | _ | _ | _ | _ | _ | _ | _ | _ <;> decide
  have hinv := inv_run carries_write_and_clear hrun
  have hdistinct := Session.distinct_of_one_device hinv.session.facade hone hids
  exact ⟨s, hrun, hlen,
    remote_transparent idle_gpu write_and_clear s carries_write_and_clear hrun hdistinct⟩

end Runs

end WgpuRemote
