/-
The version handshake, as the server keeps it.

`Hello` is an action like the others: the `Hello` arm compares the version and
answers, and nothing remembers the comparison. So what a stream may do before
an accepted `Hello` or after a refused one is up to the client, and
`gated_iff` says which clients keep the handshake: those that send nothing of
effect before an accepted `Hello`, and nothing at all after a refused one.
-/
import WgpuRemote.Lib.Transition
import WgpuRemote.Server.Failure
import WgpuRemote.Server.Handler

set_option autoImplicit false

namespace WgpuRemote.Server

open Bincode Footprint Transition
open Wgpu (Occ Obj Call Event Gpu)
open Dispatch (attempt issue make add store with_tables insert respond exec)
open Prog (Mem)

section Handshake

variable [WgpuTypes]

/-! ## What the handshake promises -/

/-- A table has changed, or the queue was given something. -/
def Pass.acts (p : Pass) : Prop :=
  p.after.tables ≠ p.before.tables ∨
    ∃ evs, p.after.log = p.before.log ++ evs ∧ queue_calls evs ≠ []

/-- The action opens the handshake. -/
def is_hello : Action → Bool
  | .Hello _ => true
  | _ => false

/-- A `Hello` of this protocol version. -/
def Pass.greets (p : Pass) : Prop := p.frame.action = .Hello PROTOCOL_VERSION

/-- A `Hello` of another version that was answered so. -/
def Pass.refuses (p : Pass) : Prop :=
  (∃ v, p.frame.action = .Hello v ∧ v ≠ PROTOCOL_VERSION) ∧
    ∃ rid message, p.response = some ⟨rid, .Error .ProtocolVersionMismatch message⟩

/-- The handshake gates the stream: no other action has an effect before an
accepted `Hello`, and nothing is dispatched after a refused one. -/
structure Gated (passes : List Pass) : Prop where
  greeted : ∀ before p after, passes = before ++ p :: after →
    is_hello p.frame.action = false → p.acts → ∃ q ∈ before, q.greets
  refused : ∀ before p after, passes = before ++ p :: after → p.refuses → after = []

/-! ## What the client would have to keep -/

/-- The actions that end in a call on the queue. -/
def uses_queue : Action → Bool
  | .WriteBuffer _ _ _ | .WriteTexture _ _ _ _ _ _ _ | .Submit _ => true
  | _ => false

/-- On these tables the action is carried out, and it is one that creates, that
removes an entry or that uses the queue. -/
def HasEffect (a : Action) (t : ResourceTables) : Prop :=
  Admitted a t ∧ (a.creates ≠ none ∨ (∃ r, removes a = some r ∧ t r ≠ none) ∨ uses_queue a = true)

/-- A `Hello` of another version, sent as a request. -/
def asks_other_version (frame : Frame) : Prop :=
  (∃ v, frame.action = .Hello v ∧ v ≠ PROTOCOL_VERSION) ∧ frame.request_id ≠ none

/-- A frame of effect was preceded by a `Hello` of this version, and no frame by
a request for another one. -/
def Greeted (s : Serving) (frame : Frame) : Prop :=
  (HasEffect frame.action s.engine.tables →
    ∃ q ∈ s.passes, q.frame.action = .Hello PROTOCOL_VERSION) ∧
  ∀ q ∈ s.passes, ¬ asks_other_version q.frame

/-- One iteration of the loop, on a frame that decodes. -/
def Serving.step (gpu : Gpu) (s : Serving) (frame : Frame) : Option Serving :=
  match s.failure with
  | some _ => none
  | none => some (s.serve gpu frame)

/-! ## Which actions use the queue -/

section Exec

variable (reply : Occ → Call → Answer) (d : ℕ)

/-- What an arm that is none of the three has given the queue. -/
theorem off_queue_of_not_uses (a : Action) (t : ResourceTables) (h : uses_queue a = false) :
    queue_calls (exec reply d (handle_arm a) ⟨t, []⟩).2.events = [] := by
  rcases hc : creation a with _ | c
  · rcases a
    case MapBufferForRead buffer offset size =>
      -- a readback maps the buffer; it does not go through the queue
      have hread : Makes (fun _ c => on_queue c = false) false (read_buffer buffer offset size) :=
        Makes.read_buffer (fun _ => rfl) (fun _ => rfl) fun _ => rfl
      obtain ⟨evs, hevents, hoff⟩ := hread.events reply d ⟨t, []⟩
      change queue_calls (exec reply d (read_buffer buffer offset size) ⟨t, []⟩).2.events = []
      rw [hevents, List.nil_append]
      apply queue_calls_eq_nil
      intro ev hev
      obtain ⟨-, hoff⟩ := hoff ev hev
      exact hoff
    case Destroy resource =>
      rcases resource
      all_goals rfl
    case Hello => rfl
    case RequestAdapter => rfl
    case RequestDevice => rfl
    case CreateCommandEncoder => rfl
    case WriteBuffer => exact absurd h (by simp [uses_queue])
    case WriteTexture => exact absurd h (by simp [uses_queue])
    case Submit => exact absurd h (by simp [uses_queue])
    all_goals exact absurd hc (by simp [creation])
  · have hexec := exec_creation reply d ⟨t, []⟩ hc
    rcases hcall : c.call t with r | call
    · rw [hcall] at hexec
      rw [hexec]
      rfl
    · -- one call, and it creates
      rw [hcall] at hexec
      rw [hexec]
      apply queue_calls_eq_nil
      intro ev hev
      rw [List.mem_singleton.mp hev]
      exact creation_off_queue hc hcall

/-- The three do use it, once they are admitted. -/
theorem on_queue_of_uses (a : Action) (t : ResourceTables) (h : uses_queue a = true)
    (hadm : Admitted a t) :
    queue_calls (exec reply d (handle_arm a) ⟨t, []⟩).2.events ≠ [] := by
  -- each ends with a submission
  have hsubmits : ∀ (p : Dispatch Response) (m : Mem) (c : Call), on_queue c = true →
      exec reply d p ⟨t, []⟩ = (.ok .Ok, m.log d c) →
      queue_calls (exec reply d p ⟨t, []⟩).2.events ≠ [] := by
    intro p m c hc hexec
    rw [hexec, Mem.log_events, queue_calls_append]
    unfold queue_calls
    simp [hc]
  rcases a
  case WriteBuffer buffer offset data =>
    obtain ⟨b, hb⟩ := ((resolves_lookup buffer).ok_iff t).mpr ⟨trivial, hadm.2⟩
    have hwrite : exec reply d (with_buffer buffer fun b => do
        let _ ← issue (.write_buffer b offset data)
        return ()) ⟨t, []⟩ = (.ok (), Mem.log ⟨t, []⟩ d (.write_buffer b offset data)) := by
      rw [with_buffer, Dispatch.exec_with_tables, Dispatch.exec_bind, Dispatch.exec_attempt, hb]
      rfl
    refine hsubmits _ (Mem.log ⟨t, []⟩ d (.write_buffer b offset data)) (.submit []) rfl ?_
    exact Dispatch.exec_bind_ok reply d _ hwrite
  case WriteTexture texture mip_level origin aspect data data_layout size =>
    obtain ⟨x, hx⟩ := ((resolves_lookup texture).ok_iff t).mpr ⟨trivial, hadm.2⟩
    refine hsubmits _ (Mem.log ⟨t, []⟩ d (.write_texture { texture := x, mip_level, origin, aspect }
      data data_layout size)) (.submit []) rfl ?_
    change exec reply d (write_texture texture mip_level origin aspect data data_layout size) _ = _
    rw [write_texture, Dispatch.exec_with_tables, Dispatch.exec_bind, Dispatch.exec_attempt, hx]
    rfl
  case Submit recordings =>
    obtain ⟨cbs, hcbs⟩ := ((reads_recordings recordings).ok_iff reply d t []).mpr hadm
    rcases hexec : exec reply d (replay_recordings recordings) ⟨t, []⟩ with ⟨r | cbs', m⟩
    · rw [hexec] at hcbs
      exact absurd hcbs (by simp)
    · refine hsubmits _ m (.submit cbs') rfl ?_
      exact Dispatch.exec_bind_ok reply d _ hexec
  all_goals exact absurd h (by simp [uses_queue])

end Exec

/-! ## What one dispatch changes -/

/-- Every object in the tables was made by an earlier dispatch. -/
def NamesPast (e : Engine) : Prop := ∀ r o, e.tables r = some o → o.dispatch < e.dispatched

/-- Whether a frame has a request id only matters for its answer. -/
theorem dispatch_engine (gpu : Gpu) (e : Engine) (frame : Frame) :
    (e.dispatch gpu frame).2 = (e.handle gpu frame.action).2 := by
  unfold Engine.dispatch Engine.handle Engine.exec
  rw [run_dispatch, run_handle]

/-- Every action counts as one dispatch, a refused one included. -/
theorem handle_dispatched (gpu : Gpu) (e : Engine) (a : Action) :
    (e.handle gpu a).2.dispatched = e.dispatched + 1 := rfl

/-- The names stay in the past: a dispatch uses its own number, and the next one is greater. -/
theorem NamesPast.dispatch {e : Engine} (h : NamesPast e) (gpu : Gpu) (frame : Frame) :
    NamesPast (e.dispatch gpu frame).2 := by
  rw [dispatch_engine]
  intro r o ho
  rw [handle_dispatched]
  by_cases hadm : Admitted frame.action e.tables
  · rw [(handle_admitted gpu e _ hadm).1] at ho
    unfold effect at ho
    -- an admitted action makes an object, removes one, or does neither
    rcases hc : frame.action.creates with _ | x
    · rw [hc] at ho
      rcases hr : removes frame.action with _ | x
      · rw [hr] at ho
        have := h r o ho
        omega
      · rw [hr] at ho
        by_cases hx : r = x
        · subst hx
          exact absurd ho (by simp [Store.Op.apply, Store.remove])
        · have := h r o (by simpa [Store.Op.apply, Store.remove, hx] using ho)
          omega
    · rw [hc] at ho
      by_cases hx : r = x
      · -- the new entry is named after this dispatch
        subst hx
        have heq : (⟨e.dispatched, 0⟩ : Occ) = o := by
          simpa [Store.Op.apply, Store.insert] using ho
        rw [← heq]
        exact Nat.lt_succ_self _
      · have := h r o (by simpa [Store.Op.apply, Store.insert, hx] using ho)
        omega
  -- a refused action leaves the tables
  · rw [(handle_rejected gpu e _ hadm).1] at ho
    have := h r o ho
    omega

/-- The same after any number of frames. -/
theorem names_past_after (gpu : Gpu) (frames : List Frame) {e : Engine} (h : NamesPast e) :
    NamesPast (engine_after gpu e frames) := by
  induction frames generalizing e with
  | nil => exact h
  | cons frame frames ih => exact ih (h.dispatch gpu frame)

theorem names_past_new : NamesPast Engine.new := by
  intro r o ho
  exact absurd (show none = some o from ho) (by simp)

/-- When a dispatch changes the tables. -/
theorem tables_changed_iff (gpu : Gpu) {e : Engine} (h : NamesPast e) (a : Action) :
    (e.handle gpu a).2.tables ≠ e.tables ↔
      Admitted a e.tables ∧ (a.creates ≠ none ∨ ∃ r, removes a = some r ∧ e.tables r ≠ none) := by
  by_cases hadm : Admitted a e.tables
  -- an admitted action has its effect, whatever it is
  · rw [(handle_admitted gpu e a hadm).1]
    unfold effect
    rcases hc : a.creates with _ | x
    · rcases hr : removes a with _ | x
      · simp [Store.Op.apply]
      · -- an entry is removed: there was one
        constructor
        · intro hne
          refine ⟨hadm, Or.inr ⟨x, rfl, fun habs => hne ?_⟩⟩
          exact Store.remove_of_none habs
        · rintro ⟨-, hnone | ⟨r, hr, hpresent⟩⟩
          · exact absurd rfl hnone
          · intro heq
            obtain rfl := Option.some.inj hr
            refine hpresent ?_
            rw [← heq]
            simp [Store.Op.apply, Store.remove]
    · -- the object put in is new
      refine ⟨fun _ => ⟨hadm, Or.inl (by simp)⟩, fun _ heq => ?_⟩
      have hnew : e.tables x = some ⟨e.dispatched, 0⟩ := by
        rw [← heq]
        simp [Store.Op.apply, Store.insert]
      exact absurd (h x _ hnew) (Nat.lt_irrefl _)
  -- a refused one has none
  · rw [(handle_rejected gpu e a hadm).1]
    exact ⟨fun hne => absurd rfl hne, fun hpos => absurd hpos.1 hadm⟩

/-- When a dispatch gives the queue something. -/
theorem queue_used_iff (gpu : Gpu) (e : Engine) (a : Action) :
    (∃ evs, (e.handle gpu a).2.log = e.log ++ evs ∧ queue_calls evs ≠ []) ↔
      Admitted a e.tables ∧ uses_queue a = true := by
  rcases hexec : exec (e.reply gpu) e.dispatched (handle_arm a) ⟨e.tables, []⟩ with ⟨r, m⟩
  rw [handle_eq gpu e a hexec]
  have hevents : (∃ evs, e.log ++ m.events = e.log ++ evs ∧ queue_calls evs ≠ []) ↔
      queue_calls m.events ≠ [] := by
    constructor
    · rintro ⟨evs, hevs, hne⟩
      rw [List.append_cancel_left hevs]
      exact hne
    · exact fun hne => ⟨m.events, rfl, hne⟩
  refine hevents.trans ?_
  -- an action that is not admitted uses nothing, an admitted one what its arm uses
  by_cases hadm : Admitted a e.tables
  · rcases huses : uses_queue a with _ | _
    · have hnil := off_queue_of_not_uses (e.reply gpu) e.dispatched a e.tables huses
      rw [hexec] at hnil
      simp [show queue_calls m.events = [] from hnil]
    · have hne := on_queue_of_uses (e.reply gpu) e.dispatched a e.tables huses hadm
      rw [hexec] at hne
      exact ⟨fun _ => ⟨hadm, rfl⟩, fun _ => hne⟩
  · have hnil := rejected_off_queue (e.reply gpu) e.dispatched hadm
    rw [hexec] at hnil
    simp [show queue_calls m.events = [] from hnil, hadm]

/-- When a pass has an effect. -/
theorem acts_iff (gpu : Gpu) {e : Engine} (h : NamesPast e) (frame : Frame) :
    (Pass.of gpu e frame).acts ↔ HasEffect frame.action e.tables := by
  show ((e.dispatch gpu frame).2.tables ≠ e.tables ∨
    ∃ evs, (e.dispatch gpu frame).2.log = e.log ++ evs ∧ queue_calls evs ≠ []) ↔ _
  rw [dispatch_engine, tables_changed_iff gpu h, queue_used_iff]
  rw [← and_or_left, or_assoc]
  rfl

/-- A `Hello` has none. -/
theorem not_has_effect_of_hello {a : Action} (h : is_hello a = true) (t : ResourceTables) :
    ¬ HasEffect a t := by
  rcases a
  case Hello v =>
    rintro ⟨-, hc | ⟨r, hr, -⟩ | hq⟩
    · exact absurd rfl hc
    · exact absurd hr (by simp [removes])
    · exact absurd hq (by simp [uses_queue])
  all_goals exact absurd h (by simp [is_hello])

/-- When a pass refuses. -/
theorem refuses_iff (gpu : Gpu) (e : Engine) (frame : Frame) :
    (Pass.of gpu e frame).refuses ↔ asks_other_version frame := by
  rcases frame with ⟨rid, a⟩
  refine and_congr_right fun hhello => ?_
  obtain ⟨v, ha, hv⟩ := hhello
  have ha' : a = .Hello v := ha
  subst ha'
  show (∃ rid' message, (e.dispatch gpu ⟨rid, .Hello v⟩).1 = _) ↔ rid ≠ none
  rcases rid with _ | rid
  · have hnone : (e.dispatch gpu ⟨none, .Hello v⟩).1 = none := rfl
    simp [hnone]
  · have hanswer : (e.dispatch gpu ⟨some rid, .Hello v⟩).1 = some ⟨rid, hello v⟩ := rfl
    rw [hanswer, hello, if_pos hv]
    simp

/-! ## Runs of the loop -/

/-- Serving a frame leaves the engine as the dispatch left it, whether the answer could be
written or not. -/
theorem serve_engine (gpu : Gpu) (s : Serving) (frame : Frame) :
    (s.serve gpu frame).engine = (s.engine.dispatch gpu frame).2 := by
  unfold Serving.serve
  dsimp only
  split
  · rfl
  · split
    · rfl
    · rfl

/-- Serving a frame adds one pass to the record. -/
theorem serve_passes (gpu : Gpu) (s : Serving) (frame : Frame) :
    (s.serve gpu frame).passes = s.passes ++ [Pass.of gpu s.engine frame] := by
  unfold Serving.serve
  dsimp only
  split
  · rfl
  · split
    · rfl
    · rfl

/-- A step of the loop serves a frame, and there is none after a failure. -/
theorem step_eq_some {gpu : Gpu} {s s' : Serving} {frame : Frame} (h : s.step gpu frame = some s') :
    s.failure = none ∧ s' = s.serve gpu frame := by
  unfold Serving.step at h
  rcases hf : s.failure with _ | err
  · rw [hf] at h
    exact ⟨rfl, (Option.some.inj h).symm⟩
  · rw [hf] at h
    exact absurd h (by simp)

/-- The loop ends in the last state a run over its frames goes through. -/
theorem always_iff_loop (gpu : Gpu) {P : Serving → Prop}
    (hearlier : ∀ s frame, P (s.serve gpu frame) → P s) (frames : List Frame) {s : Serving}
    (hopen : s.failure = none) :
    Always (Serving.step gpu) P s frames ↔ P (s.loop gpu frames) := by
  induction frames generalizing s with
  | nil => exact Iff.rfl
  | cons frame frames ih =>
      have hstep : s.step gpu frame = some (s.serve gpu frame) := by
        rw [Serving.step, hopen]
      have hrest : (∀ s', s.step gpu frame = some s' → Always (Serving.step gpu) P s' frames) ↔
          Always (Serving.step gpu) P (s.serve gpu frame) frames := by
        constructor
        · exact fun h => h _ hstep
        · intro h s' hs'
          rw [hstep] at hs'
          rw [← Option.some.inj hs']
          exact h
      have hlast : Always (Serving.step gpu) P (s.serve gpu frame) frames ↔
          P (s.loop gpu (frame :: frames)) := by
        rw [Serving.loop]
        rcases hf : (s.serve gpu frame).failure with _ | err
        · exact ih hf
        · -- the loop has ended, and so have the steps
          dsimp only
          rcases frames with _ | ⟨f, frames⟩
          · exact Iff.rfl
          · refine ⟨fun h => h.1, fun h => ⟨h, fun s' hs' => ?_⟩⟩
            rw [Serving.step, hf] at hs'
            exact absurd hs' (by simp)
      show P s ∧ _ ↔ _
      rw [hrest, hlast]
      refine ⟨fun h => h.2, fun h => ⟨?_, h⟩⟩
      -- `P` held before the first pass, since it holds at the end
      have hfirst := hlast.mpr h
      refine hearlier s frame ?_
      rcases frames with _ | ⟨f, frames⟩
      · exact hfirst
      · exact hfirst.1

/-- Taking the last pass away keeps the handshake. -/
theorem Gated.earlier {passes : List Pass} {p : Pass} (h : Gated (passes ++ [p])) :
    Gated passes where
  greeted before q after hsplit := by
    refine h.greeted before q (after ++ [p]) ?_
    rw [hsplit, List.append_assoc]
    rfl
  refused before q after hsplit hrefuses := by
    have := h.refused before q (after ++ [p]) (by rw [hsplit, List.append_assoc]; rfl) hrefuses
    exact absurd this (by simp)

/-- One pass more keeps it exactly if the pass was greeted, and nothing was
refused before. -/
theorem Gated.snoc_iff {passes : List Pass} {p : Pass} (h : Gated passes) :
    Gated (passes ++ [p]) ↔
      (is_hello p.frame.action = false → p.acts → ∃ q ∈ passes, q.greets) ∧
        ∀ q ∈ passes, ¬ q.refuses := by
  constructor
  -- the new pass is the last of its own past, and whoever was refused came before it
  · intro hnew
    refine ⟨hnew.greeted passes p [] rfl, ?_⟩
    intro q hq hrefuses
    obtain ⟨before, after, hsplit⟩ := List.append_of_mem hq
    have := hnew.refused before q (after ++ [p]) (by rw [hsplit, List.append_assoc]; rfl) hrefuses
    exact absurd this (by simp)
  · rintro ⟨hgreeted, hnone⟩
    refine ⟨?_, ?_⟩
    -- a pass of the longer record is the new one or an old one
    · intro before q after hsplit
      rcases split_snoc hsplit with ⟨rfl, rfl⟩ | ⟨front, hfront⟩
      · exact hgreeted
      · exact h.greeted before q front hfront
    · intro before q after hsplit hrefuses
      rcases split_snoc hsplit with ⟨rfl, rfl⟩ | ⟨front, hfront⟩
      · simpa using hsplit
      · refine absurd hrefuses (hnone q ?_)
        rw [hfront]
        exact List.mem_append_right _ List.mem_cons_self

/-- What a run keeps as long as its frames are greeted. -/
structure Greeting (s : Serving) : Prop where
  names : NamesPast s.engine
  gated : Gated s.passes
  refusals : ∀ q ∈ s.passes, (q.refuses ↔ asks_other_version q.frame)

/-- A step keeps the handshake exactly if its frame is greeted. -/
theorem Greeting.step_iff {gpu : Gpu} {s : Serving} (h : Greeting s) (frame : Frame) :
    Gated (s.serve gpu frame).passes ↔ Greeted s frame := by
  rw [serve_passes, h.gated.snoc_iff, acts_iff gpu h.names]
  refine and_congr ?_ ?_
  · refine ⟨fun hall heffect => hall ?_ heffect, fun hall _ heffect => hall heffect⟩
    rcases hhello : is_hello frame.action with _ | _
    · exact hhello
    · exact absurd heffect (not_has_effect_of_hello hhello _)
  · exact forall₂_congr fun q hq => not_congr (h.refusals q hq)

/-- A greeted stream stays greeted when one more frame is served. -/
theorem Greeting.step {gpu : Gpu} {s : Serving} (h : Greeting s) {frame : Frame}
    (hok : Greeted s frame) : Greeting (s.serve gpu frame) where
  names := by
    rw [serve_engine]
    exact h.names.dispatch gpu frame
  gated := (h.step_iff frame).mpr hok
  refusals q hq := by
    rw [serve_passes] at hq
    rcases List.mem_append.mp hq with hq | hq
    · exact h.refusals q hq
    · rw [List.mem_singleton.mp hq]
      exact refuses_iff gpu s.engine frame

/-- **The handshake gates a stream** exactly if its client keeps it: it sends no
frame of effect before a `Hello` of this version, and no frame at all after a
request for another one. The engine may have served other streams before. -/
theorem gated_iff (gpu : Gpu) (earlier : List Frame) (raws : List Bytes) (frames : List Frame)
    (rx : Source) (hdecodes : Decodes raws frames) (hrx : rx.flatten = raws.flatten) :
    Gated (handle_stream gpu (Serving.new (engine_after gpu Engine.new earlier)) rx).passes ↔
      Guarded (Serving.step gpu) Greeted (Serving.new (engine_after gpu Engine.new earlier))
        frames := by
  rw [handle_stream_eq gpu hdecodes _ rx hrx]
  -- nothing of this stream is greeted yet, and the names are in the past
  have hstart : Greeting (Serving.new (engine_after gpu Engine.new earlier)) := by
    refine ⟨names_past_after gpu earlier names_past_new, ⟨?_, ?_⟩, ?_⟩
    · exact fun before p after h => absurd h (by simp [Serving.new])
    · exact fun before p after h => absurd h (by simp [Serving.new])
    · exact fun q hq => absurd hq List.not_mem_nil
  -- a gated record was gated at every earlier point
  have hearlier : ∀ s frame, Gated (Serving.serve gpu s frame).passes → Gated s.passes := by
    intro s frame h
    rw [serve_passes] at h
    exact h.earlier
  refine (always_iff_loop gpu (P := fun s => Gated s.passes) hearlier frames rfl).symm.trans ?_
  refine always_iff_guarded (Serving.step gpu) (fun _ h => h.gated) ?_ ?_ frames hstart
  · intro s frame s' h hstep hok
    rw [(step_eq_some hstep).2]
    exact h.step hok
  · intro s frame s' h hstep hbad hgated
    rw [(step_eq_some hstep).2, h.step_iff] at hgated
    exact hbad hgated

end Handshake

/-! ## A stream that never greets -/

section Runs

attribute [local instance] WgpuTypes.numeric

/-- A greeting, and then a frame of effect. -/
def greeted_create : List Frame :=
  [⟨some ⟨1⟩, .Hello 1⟩, ⟨none, .CreateBuffer ⟨1⟩ ⟨none, 8, (9 : UInt32), false⟩⟩]

/-- A client that greets first keeps the handshake, and has its buffer made. -/
theorem greeting_gates :
    ∃ raws : List Bytes, Decodes raws greeted_create ∧
      (∃ o, (handle_stream idle_gpu (Serving.new Engine.new) [raws.flatten]).engine.tables
        (Id.ref (k := .Buffer) ⟨1⟩) = some o) ∧
      Gated (handle_stream idle_gpu (Serving.new Engine.new) [raws.flatten]).passes := by
  obtain ⟨raws, hdecodes⟩ : ∃ raws, Decodes raws greeted_create := by
    have hhello : ∃ raw, encode_frame Wire.frame greeted_create[0] = .ok raw := ⟨_, rfl⟩
    have hcreate : ∃ raw, encode_frame Wire.frame greeted_create[1] = .ok raw := ⟨_, rfl⟩
    obtain ⟨raw, hhello⟩ := hhello
    obtain ⟨raw', hcreate⟩ := hcreate
    exact ⟨[raw, raw'], .cons (decode_frame_encode_frame _ hhello)
      (.cons (decode_frame_encode_frame _ hcreate) .nil)⟩
  refine ⟨raws, hdecodes, ?_, ?_⟩
  · rw [handle_stream_eq _ hdecodes _ _ (by simp)]
    exact ⟨_, rfl⟩
  · refine (gated_iff idle_gpu [] raws greeted_create [raws.flatten] hdecodes (by simp)).mpr ?_
    intro s1 hs1
    -- the first frame is a `Hello`, which has no effect to gate
    refine ⟨⟨fun heffect => ?_, fun q hq => absurd hq List.not_mem_nil⟩, ?_⟩
    · exact absurd heffect (not_has_effect_of_hello rfl _)
    · -- the second frame has an effect, and the first one was a greeting
      have hpasses : s1.passes = [Pass.of idle_gpu Engine.new greeted_create[0]] := by
        rw [(step_eq_some hs1).2, serve_passes]
        rfl
      intro s2 hs2
      refine ⟨⟨fun _ => ⟨Pass.of idle_gpu Engine.new greeted_create[0], ?_, rfl⟩, ?_⟩, trivial⟩
      · rw [hpasses]
        exact List.mem_singleton_self _
      · intro q hq hother
        rw [hpasses] at hq
        rw [List.mem_singleton.mp hq] at hother
        obtain ⟨⟨v, hv, hne⟩, -⟩ := hother
        exact hne (Action.Hello.inj hv).symm

/-- **A buffer is made for a client of another version**: nothing looks back at
the refused `Hello`. -/
theorem refused_client_served :
    ¬ ∀ (gpu : Gpu) (earlier : List Frame) (raws : List Bytes) (frames : List Frame) (rx : Source),
      Decodes raws frames → rx.flatten = raws.flatten →
        Gated (handle_stream gpu (Serving.new (engine_after gpu Engine.new earlier)) rx).passes := by
  intro h
  let frames : List Frame :=
    [⟨some ⟨1⟩, .Hello 2⟩, ⟨none, .CreateBuffer ⟨1⟩ ⟨none, 8, (9 : UInt32), false⟩⟩]
  obtain ⟨raws, hdecodes⟩ : ∃ raws, Decodes raws frames := by
    have hhello : ∃ raw, encode_frame Wire.frame frames[0] = .ok raw := ⟨_, rfl⟩
    have hcreate : ∃ raw, encode_frame Wire.frame frames[1] = .ok raw := ⟨_, rfl⟩
    obtain ⟨raw, hhello⟩ := hhello
    obtain ⟨raw', hcreate⟩ := hcreate
    exact ⟨[raw, raw'], .cons (decode_frame_encode_frame _ hhello)
      (.cons (decode_frame_encode_frame _ hcreate) .nil)⟩
  have hgated := h idle_gpu [] raws frames [raws.flatten] hdecodes (by simp)
  rw [handle_stream_eq _ hdecodes _ _ (by simp)] at hgated
  have hpasses : ((Serving.new Engine.new).loop idle_gpu frames).passes =
      [] ++ Pass.of idle_gpu Engine.new frames[0] ::
        [Pass.of idle_gpu (Engine.new.dispatch idle_gpu frames[0]).2 frames[1]] := rfl
  have hnone := hgated.refused _ _ _ hpasses ⟨⟨2, rfl, by decide⟩, ⟨1⟩, _, rfl⟩
  exact absurd hnone (by simp)

end Runs

end WgpuRemote.Server
