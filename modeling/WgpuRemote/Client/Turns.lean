/-
The recorder, encoder by encoder.

`Recorder` numbers the passes of a device as they were begun, whichever encoder
they are of. `DropinEncoder` has the open passes of one encoder, and calls the one
in front. In whatever order an application calls its passes, however they
overlap, the two record the same, when each call on a pass turns to it first
(`Recorder.Mirrors.effect`).
-/
import WgpuRemote.Client.Passes
import Mathlib.Data.List.Perm.Basic

set_option autoImplicit false

namespace WgpuRemote.Client

section Turns

variable [WgpuTypes]

/-! ## What the encoders do -/

/-- The encoders and the command buffers of a device. -/
structure Encoders where
  encoders : List DropinEncoder
  command_buffers : List CommandBufferRecording

namespace Encoders

/-- What one call of the application does to its encoders; an encoder, or the pass
in front of it, is called with `op`. -/
inductive Moves (s : Encoders) : Option (EncoderOp Wrapped) → Encoders → Prop where
  /-- The call is recorded nowhere. -/
  | unrecorded : Moves s none s
  | create_command_encoder (label : Option String) :
      Moves s none { s with encoders := s.encoders ++ [DropinEncoder.new label] }
  | call {e : ℕ} {d d' : DropinEncoder} {op : EncoderOp Wrapped} (he : s.encoders[e]? = some d)
      (h : d.step op = some d') : Moves s (some op) { s with encoders := s.encoders.set e d' }
  | turn_and_call {e pass : ℕ} {d turned d' : DropinEncoder} {op : EncoderOp Wrapped}
      (he : s.encoders[e]? = some d) (hturn : d.turn_to pass = some turned)
      (h : turned.step op = some d') :
      Moves s (some op) { s with encoders := s.encoders.set e d' }
  | finish {e : ℕ} {d : DropinEncoder} (he : s.encoders[e]? = some d) :
      Moves s none
        { s with
          encoders := s.encoders.set e { d with recording := ⟨none, []⟩ }
          command_buffers := s.command_buffers ++ [d.finish] }

end Encoders

/-- The call on an encoder or a pass, if it is given any objects. -/
def RecorderCall.op : RecorderCall → Option (EncoderOp Wrapped)
  | .copy _ op => some op.op
  | .begin_compute_pass _ label => some (.begin_compute_pass label)
  | .begin_render_pass _ desc => some (.begin_render_pass desc)
  | .compute _ op => some (.compute op)
  | .render _ op => some (.render op)
  | _ => none

/-- The end of a pass of this kind. -/
def OpenPass.end_op {R : Kind → Type} : OpenPass → EncoderOp R
  | .compute _ _ => .end_compute_pass
  | .render _ _ _ _ => .end_render_pass

/-! ## The open passes of an encoder -/

/-- The pass at this place, if it is open and of encoder `e`. -/
def of_encoder (e : ℕ) (slot : Option OwnedPass) : Option OpenPass :=
  slot.bind fun owned => if owned.parent = e then some owned.pass else none

theorem of_encoder_self (owned : OwnedPass) : of_encoder owned.parent (some owned) = some owned.pass :=
  if_pos rfl

theorem of_encoder_other {e : ℕ} {owned : OwnedPass} (h : owned.parent ≠ e) :
    of_encoder e (some owned) = none := if_neg h

namespace Recorder

variable {s s' : Recorder}

/-- The open passes of encoder `e`, in the order in which they were begun. -/
def passes_of (s : Recorder) (e : ℕ) : List OpenPass := s.passes.filterMap (of_encoder e)

/-- Those of them that are not pass `p`. -/
def others (s : Recorder) (p e : ℕ) : List OpenPass :=
  (s.passes.eraseIdx p).filterMap (of_encoder e)

/-- With another pass, or none, at place `p`. -/
theorem passes_of_set {p : ℕ} (hp : p < s.passes.length) (slot : Option OwnedPass) (e : ℕ) :
    ((s.passes.set p slot).filterMap (of_encoder e)).Perm
      ((of_encoder e slot).toList ++ s.others p e) := by
  have hperm := (List.set_perm_cons_eraseIdx hp slot).filterMap (of_encoder e)
  rcases hslot : of_encoder e slot with _ | pass
  · rw [List.filterMap_cons_none hslot] at hperm
    exact hperm
  · rw [List.filterMap_cons_some hslot] at hperm
    exact hperm

/-- A pass that is open is at its place. -/
theorem getElem?_of_open {p : ℕ} {owned : OwnedPass} (hp : s.open_pass p = some owned) :
    s.passes[p]? = some (some owned) := Option.join_eq_some_iff.mp hp

/-- The pass is one of its encoder's. -/
theorem passes_of_open {p : ℕ} {owned : OwnedPass} (hp : s.open_pass p = some owned) (e : ℕ) :
    (s.passes_of e).Perm ((of_encoder e (some owned)).toList ++ s.others p e) := by
  have hset := passes_of_set (open_pass_lt hp) (some owned) e
  obtain ⟨hlt, hget⟩ := List.getElem?_eq_some_iff.mp (getElem?_of_open hp)
  rw [← hget, List.set_getElem_self] at hset
  rw [← hget]
  exact hset

/-! ## The same on both -/

/-- Encoder by encoder the same recordings, and the same open passes in whatever
order. -/
structure Mirrors (s : Recorder) (t : Encoders) : Prop where
  recordings : s.encoders = t.encoders.map DropinEncoder.recording
  passes : ∀ (e : ℕ) (d : DropinEncoder), t.encoders[e]? = some d →
    d.passes.Perm (s.passes_of e)
  parents : ∀ owned, some owned ∈ s.passes → owned.parent < t.encoders.length
  command_buffers : s.command_buffers.map CommandBuffer.recording = t.command_buffers

theorem mirrors_new : Mirrors new ⟨[], []⟩ := by
  refine ⟨rfl, fun e d hd => ?_, fun owned howned => ?_, rfl⟩
  · exact absurd hd (by simp)
  · exact absurd howned List.not_mem_nil

namespace Mirrors

variable {t : Encoders} {e : ℕ} {d d' : DropinEncoder}

/-- One encoder and its passes change on both. -/
theorem set (h : Mirrors s t) (hencoders : s'.encoders = s.encoders.set e d'.recording)
    (hpasses : d'.passes.Perm (s'.passes_of e))
    (hothers : ∀ e', e' ≠ e → (s.passes_of e').Perm (s'.passes_of e'))
    (hparents : ∀ owned, some owned ∈ s'.passes → owned.parent < t.encoders.length)
    (hbuffers : s'.command_buffers = s.command_buffers) :
    Mirrors s' { t with encoders := t.encoders.set e d' } where
  recordings := by
    rw [hencoders, h.recordings, List.map_set]
  passes e' d'' hd := by
    by_cases heq : e' = e
    · rw [heq] at hd ⊢
      change (t.encoders.set e d')[e]? = some d'' at hd
      obtain ⟨hlt, hget⟩ := List.getElem?_eq_some_iff.mp hd
      rw [List.getElem_set_self] at hget
      rw [← hget]
      exact hpasses
    · change (t.encoders.set e d')[e']? = some d'' at hd
      rw [List.getElem?_set_ne (Ne.symm heq)] at hd
      exact (h.passes e' d'' hd).trans (hothers e' heq)
  parents owned howned := by
    rw [List.length_set]
    exact hparents owned howned
  command_buffers := by
    rw [hbuffers]
    exact h.command_buffers

/-- The encoder is there on both. -/
theorem encoder (h : Mirrors s t) (he : t.encoders[e]? = some d) :
    s.encoders[e]? = some d.recording := by
  rw [h.recordings, List.getElem?_map, he]
  rfl

/-- What is recorded on one encoder is pushed onto its recording. -/
theorem pushed (h : Mirrors s t) (he : t.encoders[e]? = some d) (c : EncoderCommand) :
    (s.push e c).encoders = s.encoders.set e (d.push c).recording := by
  show s.encoders.modify e _ = _
  rw [List.modify_eq_set_getElem?, h.encoder he]
  rfl

/-- An open pass can be turned to on its encoder. -/
theorem turn (h : Mirrors s t) {p : ℕ} {owned : OwnedPass} (hp : s.open_pass p = some owned) :
    ∃ d k rest, t.encoders[owned.parent]? = some d ∧
      d.turn_to k = some { d with passes := owned.pass :: rest } ∧
      rest.Perm (s.others p owned.parent) := by
  have hlt := h.parents owned (List.mem_of_getElem? (getElem?_of_open hp))
  obtain ⟨d, hd⟩ : ∃ d, t.encoders[owned.parent]? = some d := ⟨_, List.getElem?_eq_getElem hlt⟩
  have hperm := (h.passes _ d hd).trans (passes_of_open hp owned.parent)
  rw [of_encoder_self] at hperm
  have hmem : owned.pass ∈ d.passes := hperm.mem_iff.mpr List.mem_cons_self
  obtain ⟨k, hk⟩ := List.getElem?_of_mem hmem
  refine ⟨d, k, d.passes.eraseIdx k, hd, ?_, ?_⟩
  · show d.passes[k]? >>= _ = _
    rw [hk]
    rfl
  · -- both lists are the encoder's passes without this one
    obtain ⟨hlt, hget⟩ := List.getElem?_eq_some_iff.mp hk
    have hfront := List.getElem_cons_eraseIdx_perm hlt
    rw [hget] at hfront
    exact (hfront.trans hperm).cons_inv

/-- The pass at one place is another one, or none, on both. -/
theorem set_pass (h : Mirrors s t) {p : ℕ} {owned : OwnedPass} (hp : s.open_pass p = some owned)
    {slot : Option OwnedPass} (hslot : ∀ x, slot = some x → x.parent = owned.parent)
    {rest : List OpenPass} (hrest : rest.Perm (s.others p owned.parent))
    (hpasses : s'.passes = s.passes.set p slot) (hbuffers : s'.command_buffers = s.command_buffers)
    (hencoders : s'.encoders = s.encoders.set owned.parent d'.recording)
    (hd' : d'.passes = (slot.map OwnedPass.pass).toList ++ rest) :
    Mirrors s' { t with encoders := t.encoders.set owned.parent d' } := by
  have hof : ∀ e, (s'.passes_of e).Perm ((of_encoder e slot).toList ++ s.others p e) := by
    intro e
    unfold passes_of
    rw [hpasses]
    exact passes_of_set (open_pass_lt hp) slot e
  refine h.set hencoders ?_ (fun e' he' => ?_) (fun x hx => ?_) hbuffers
  · have hown : of_encoder owned.parent slot = slot.map OwnedPass.pass := by
      rcases slot with _ | x
      · rfl
      · rw [← hslot x rfl, of_encoder_self]
        rfl
    have hperm := hof owned.parent
    rw [hown] at hperm
    rw [hd']
    exact (hrest.append_left _).trans hperm.symm
  · -- the passes of other encoders are where they were
    have hnone : of_encoder e' slot = none := by
      rcases slot with _ | x
      · rfl
      · exact of_encoder_other (by rw [hslot x rfl]; exact Ne.symm he')
    have hperm := hof e'
    rw [hnone] at hperm
    have hold := passes_of_open hp e'
    rw [of_encoder_other (Ne.symm he')] at hold
    exact hold.trans hperm.symm
  · rw [hpasses] at hx
    rcases List.mem_or_eq_of_mem_set hx with hx | hx
    · exact h.parents x hx
    · rw [hslot x hx.symm]
      exact h.parents owned (List.mem_of_getElem? (getElem?_of_open hp))

end Mirrors

/-! ## One call -/

/-- The call that begins a pass puts it in front, whatever else is open. -/
theorem begun_step {c : RecorderCall} {owned : OwnedPass} (hc : begun c = some owned) :
    ∃ op, c.op = some op ∧ ∀ d : DropinEncoder,
      d.step op = some { d with passes := owned.pass :: d.passes } := by
  rcases c with _ | _ | ⟨e, label⟩ | ⟨e, desc⟩ | _ | _ | _ | _ | _ | _ | _ | _
  case begin_compute_pass =>
    rw [← Option.some.inj hc]
    exact ⟨_, rfl, fun d => rfl⟩
  case begin_render_pass =>
    obtain ⟨pass, hpass, rfl⟩ := Option.map_eq_some_iff.mp hc
    refine ⟨_, rfl, fun d => ?_⟩
    obtain ⟨color, hcolor, hpass⟩ := Option.bind_eq_some_iff.mp hpass
    obtain ⟨depth, hdepth, hpass⟩ := Option.bind_eq_some_iff.mp hpass
    rw [← Option.some.inj hpass]
    simp only [DropinEncoder.step, hcolor, hdepth, Option.bind_eq_bind, Option.bind_some]
    rfl
  all_goals cases hc

/-- The pass in front is ended: its commands move into the recording. -/
theorem end_step (d : DropinEncoder) (pass : OpenPass) (rest : List OpenPass) :
    DropinEncoder.step { d with passes := pass :: rest } pass.end_op =
      some { d.push pass.flush with passes := rest } := by
  rcases pass with ⟨label, commands⟩ | ⟨label, color, depth, commands⟩
  · rfl
  · rfl

/-- **One call** of the application is one move of the encoders, which gives them
the objects of the call, or ends a pass. -/
theorem Mirrors.effect {t : Encoders} {c : RecorderCall} (h : Mirrors s t) (heffect : Effect s c s') :
    ∃ o t', t.Moves o t' ∧ Mirrors s' t' ∧
      ∀ op, o = some op → c.op = some op ∨ ∃ pass : OpenPass, op = pass.end_op := by
  have hencoder : ∀ {e : ℕ}, e < s.encoders.length → ∃ d, t.encoders[e]? = some d := by
    intro e he
    rw [h.recordings, List.length_map] at he
    exact ⟨_, List.getElem?_eq_getElem he⟩
  have hself : ∀ {e : ℕ} {d : DropinEncoder} {passes : List OpenPass}, t.encoders[e]? = some d →
      s.encoders = s.encoders.set e (DropinEncoder.mk d.recording passes).recording := by
    intro e d passes hd
    obtain ⟨hlt, hget⟩ := List.getElem?_eq_some_iff.mp (h.encoder hd)
    show _ = s.encoders.set e d.recording
    rw [← hget, List.set_getElem_self]
  cases heffect with
  | create_command_encoder label =>
      refine ⟨_, _, .create_command_encoder label, ⟨?_, fun e d hd => ?_, fun owned howned => ?_,
        h.command_buffers⟩, fun _ hnone => by cases hnone⟩
      · rw [List.map_append, ← h.recordings]
        rfl
      · by_cases hlt : e < t.encoders.length
        · change (t.encoders ++ [_])[e]? = some d at hd
          rw [List.getElem?_append_left hlt] at hd
          exact h.passes e d hd
        · -- no pass is of an encoder that was not there
          have hnew : d ∈ [DropinEncoder.new label] := by
            change (t.encoders ++ [_])[e]? = some d at hd
            rw [List.getElem?_append_right (Nat.le_of_not_lt hlt)] at hd
            exact List.mem_of_getElem? hd
          have hnone : s.passes_of e = [] := by
            refine List.filterMap_eq_nil_iff.mpr fun slot hslot => ?_
            rcases slot with _ | owned
            · rfl
            · have hparent := h.parents owned hslot
              exact of_encoder_other (by omega)
          show d.passes.Perm (s.passes_of e)
          rw [hnone, List.mem_singleton.mp hnew]
          exact .nil
      · rw [List.length_append]
        exact Nat.lt_of_lt_of_le (h.parents owned howned) (Nat.le_add_right _ _)
  | @copy e op c he hop =>
      obtain ⟨d, hd⟩ := hencoder he
      have hstep : d.step op.op = some (d.push c) := by
        rw [step_copy, hop]
        rfl
      exact ⟨_, _, .call hd hstep, h.set (h.pushed hd c) (h.passes e d hd)
        (fun e' _ => .refl _) h.parents rfl, fun _ hop => Or.inl hop⟩
  | @begin_pass _ owned hc he =>
      obtain ⟨d, hd⟩ := hencoder he
      obtain ⟨op, hcall, hop⟩ := begun_step hc
      have hof : ∀ e, (s.begin owned).passes_of e =
          s.passes_of e ++ (of_encoder e (some owned)).toList := by
        intro e
        show (s.passes ++ [some owned]).filterMap _ = _
        rw [List.filterMap_append]
        rcases howned : of_encoder e (some owned) with _ | pass
        · rw [List.filterMap_cons_none howned]
          rfl
        · rw [List.filterMap_cons_some howned]
          rfl
      refine ⟨_, _, .call hd (hop d), h.set (hself hd) ?_ (fun e' he' => ?_) (fun x hx => ?_) rfl,
        fun _ hop => Or.inl (hcall.trans hop)⟩
      · have hswap : ([owned.pass] ++ s.passes_of owned.parent).Perm _ := List.perm_append_comm
        rw [hof, of_encoder_self]
        exact ((h.passes _ d hd).cons _).trans hswap
      · rw [hof, of_encoder_other (Ne.symm he')]
        exact .of_eq (List.append_nil _).symm
      · rcases List.mem_append.mp hx with hx | hx
        · exact h.parents x hx
        · rw [Option.some.inj (List.mem_singleton.mp hx)]
          exact (List.getElem?_eq_some_iff.mp hd).1
  | @compute p op e label commands c hp hop =>
      obtain ⟨d, k, rest, hd, hturn, hrest⟩ := h.turn hp
      have hstep : DropinEncoder.step { d with passes := .compute label commands :: rest }
          (.compute op) = some { d with passes := .compute label (commands ++ [c]) :: rest } := by
        show (DropinEncoder.compute_command op).bind _ = _
        rw [hop]
        rfl
      refine ⟨_, _, .turn_and_call hd hturn hstep, h.set_pass hp ?_ hrest rfl rfl (hself hd) rfl,
        fun _ hop => Or.inl hop⟩
      intro x hx
      rw [← Option.some.inj hx]
  | @render p op e label color depth commands c hp hop =>
      obtain ⟨d, k, rest, hd, hturn, hrest⟩ := h.turn hp
      have hstep : DropinEncoder.step
          { d with passes := .render label color depth commands :: rest } (.render op) =
            some { d with passes := .render label color depth (commands ++ [c]) :: rest } := by
        show (DropinEncoder.render_command op).bind _ = _
        rw [hop]
        rfl
      refine ⟨_, _, .turn_and_call hd hturn hstep, h.set_pass hp ?_ hrest rfl rfl (hself hd) rfl,
        fun _ hop => Or.inl hop⟩
      intro x hx
      rw [← Option.some.inj hx]
  | @drop p owned hp =>
      obtain ⟨d, k, rest, hd, hturn, hrest⟩ := h.turn hp
      have hmirrors : Mirrors
          ({ s with passes := s.passes.set p none }.push owned.parent owned.pass.flush) { t with
            encoders := t.encoders.set owned.parent
              { d.push owned.pass.flush with passes := rest } } :=
        h.set_pass hp (fun _ hnone => by cases hnone) hrest rfl rfl
          (h.pushed hd _) rfl
      exact ⟨_, _, .turn_and_call hd hturn (end_step d owned.pass rest), hmirrors,
        fun _ hop => Or.inr ⟨owned.pass, (Option.some.inj hop).symm⟩⟩
  | @finish e recording he =>
      obtain ⟨d, hd⟩ := hencoder (List.getElem?_eq_some_iff.mp he).1
      have hrecording : recording = d.recording := Option.some.inj (he.symm.trans (h.encoder hd))
      have hset : Mirrors { s with encoders := s.encoders.set e ⟨none, []⟩ } { t with
          encoders := t.encoders.set e { d with recording := ⟨none, []⟩ } } :=
        h.set rfl (h.passes e d hd) (fun e' _ => .refl _) h.parents rfl
      refine ⟨_, _, .finish hd, ⟨hset.recordings, hset.passes, hset.parents, ?_⟩,
        fun _ hnone => by cases hnone⟩
      show (s.command_buffers ++ [CommandBuffer.mk recording]).map CommandBuffer.recording = _
      rw [List.map_append, h.command_buffers, hrecording]
      rfl
  | method hc hs =>
      obtain ⟨hencoders, hpasses, hbuffers, -⟩ := unrecorded_same hs
      refine ⟨_, t, .unrecorded, ⟨by rw [hencoders]; exact h.recordings, fun e d hd => ?_, ?_, ?_⟩,
        fun _ hnone => by cases hnone⟩
      · unfold passes_of
        rw [hpasses]
        exact h.passes e d hd
      · rw [hpasses]
        exact h.parents
      · rw [hbuffers]
        exact h.command_buffers
  | on_uncaptured_error =>
      exact ⟨_, t, .unrecorded, ⟨h.recordings, h.passes, h.parents, h.command_buffers⟩,
        fun _ hnone => by cases hnone⟩

end Recorder

end Turns

end WgpuRemote.Client
