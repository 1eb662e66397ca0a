/-
Several devices on one client.

Each `request_device` makes a new `IdMinter`, and every minter starts at the
same id; the server keeps one set of tables for all of them. So two devices
that mint ids of one kind mint the same ids. As long as no two devices do, each
is on its own: its entries are touched by nobody else, and it is answered as it
would be if the others had issued nothing (`devices_apart_iff`).

What "issued nothing" means is `solo`: the engine on one device's actions, in
their order, with the others' left out.
-/
import WgpuRemote.System.Session
import WgpuRemote.System.Integrity
import WgpuRemote.Server.Isolation

set_option autoImplicit false

namespace WgpuRemote

open Bincode Client Server Footprint
open Wgpu (Occ Obj Event Gpu)

section Devices

variable [WgpuTypes]

namespace Devices

/-! ## The system -/

/-- The device has minted the id. -/
def Minted (f : Facade) (device : ℕ) (r : Ref) : Prop :=
  ∃ n, n < f.ids device r.kind ∧ nth_id r.kind n = r.id

instance (f : Facade) (device : ℕ) (r : Ref) : Decidable (Minted f device r) :=
  inferInstanceAs (Decidable (∃ n, n < f.ids device r.kind ∧ nth_id r.kind n = r.id))

/-- Every action sent through a device reads ids that the device minted. -/
def OwnHandles (f : Facade) : Prop := ∀ i ∈ f.issued, ∀ r ∈ i.action.reads, Minted f i.device r

instance (f : Facade) : Decidable (OwnHandles f) :=
  inferInstanceAs (Decidable (∀ i ∈ f.issued, ∀ r ∈ i.action.reads, Minted f i.device r))

/-- A session whose application uses each device with the device's own handles:
it makes no other calls. -/
def step (gpu : Gpu) (s : Session) (l : Session.Label) : Option Session := do
  let s' ← Session.step gpu s l
  if OwnHandles s'.facade then some s' else none

/-! ## One device alone -/

/-- The device whose dispatch made the call. -/
def owner (dispatched : List Entry) (ev : Event) : Option ℕ :=
  (dispatched[ev.occ.dispatch]?).map fun x => x.issue.device

/-- The calls made for one device. -/
def own_log (dispatched : List Entry) (device : ℕ) (log : List Event) : List Event :=
  log.filter fun ev => owner dispatched ev = some device

/-- One turn of the engine when only `device` issues anything. Another device's
turn passes; the number of the dispatch, which only names things, is used up. -/
def solo_turn (gpu : Gpu) (device : ℕ) (e : Engine) (x : Entry) : Engine :=
  if x.issue.device = device then (e.handle gpu x.frame.action).2
  else { e with dispatched := e.dispatched + 1 }

/-- The engine if the other devices had issued nothing. -/
def solo (gpu : Gpu) (device : ℕ) (dispatched : List Entry) : Engine :=
  dispatched.foldl (solo_turn gpu device) Engine.new

/-- wgpu, asked on behalf of a device, answers as if the calls made for the
other devices had not been made. -/
def AnswersAlone (gpu : Gpu) (s : Session) : Prop :=
  ∀ pre x post, s.dispatched = pre ++ x :: post → ∀ occ slice,
    gpu.map_result x.engine.log occ slice =
      gpu.map_result (own_log pre x.issue.device x.engine.log) occ slice ∧
    gpu.mapped_bytes x.engine.log occ slice =
      gpu.mapped_bytes (own_log pre x.issue.device x.engine.log) occ slice

/-- **The devices do not interfere.** -/
structure Apart (gpu : Gpu) (s : Session) : Prop where
  /-- Ids minted for one kind by different devices are different. -/
  ids : ∀ h h', s.facade.stage h ≠ none → s.facade.stage h' ≠ none → h.device ≠ h'.device →
    h.kind = h'.kind → h.id.raw ≠ h'.id.raw
  /-- No action changes the entry of another device's handle. -/
  entries : ∀ x ∈ s.dispatched, ∀ h, s.facade.stage h ≠ none → h.device ≠ x.issue.device →
    (x.engine.handle gpu x.frame.action).2.tables h.ref = x.engine.tables h.ref
  /-- Each device is answered as it would be alone. -/
  responses : AnswersAlone gpu s → ∀ pre x post, s.dispatched = pre ++ x :: post →
    x.response = ((solo gpu x.issue.device pre).handle gpu x.frame.action).1

/-- The step mints no id of a kind that another device has minted. -/
def MintsApart (s : Session) (l : Session.Label) : Prop :=
  ∀ device k, l = .client (.mint device k) → ∀ other, other ≠ device → s.facade.ids other k = 0

/-! ## What a run keeps -/

/-- The engine alone and the engine with everyone, as the device sees them. -/
structure Alike (gpu : Gpu) (s : Session) (device : ℕ) : Prop where
  number : (solo gpu device s.dispatched).dispatched = s.engine.dispatched
  log : (solo gpu device s.dispatched).log = own_log s.dispatched device s.engine.log
  tables : ∀ r : Ref, (∀ other, other ≠ device → s.facade.ids other r.kind = 0) →
    (solo gpu device s.dispatched).tables r = s.engine.tables r

structure Inv (gpu : Gpu) (s : Session) : Prop where
  session : Session.Inv gpu s
  own : OwnHandles s.facade
  /-- No two devices have minted ids of one kind. -/
  apart : ∀ d d' k, d ≠ d' → s.facade.ids d k = 0 ∨ s.facade.ids d' k = 0
  number : s.engine.dispatched = s.dispatched.length
  log : ∀ ev ∈ s.engine.log, ev.occ.dispatch < s.engine.dispatched
  alike : AnswersAlone gpu s → ∀ device, Alike gpu s device
  responses : AnswersAlone gpu s → ∀ pre x post, s.dispatched = pre ++ x :: post →
    x.response = ((solo gpu x.issue.device pre).handle gpu x.frame.action).1

theorem inv_new (gpu : Gpu) : Inv gpu Session.new where
  session := Session.inv_new gpu
  own i hi := absurd hi List.not_mem_nil
  apart _ _ _ _ := Or.inl rfl
  number := rfl
  log ev hev := absurd hev List.not_mem_nil
  alike _ device := ⟨rfl, rfl, fun _ _ => rfl⟩
  responses _ pre x post h := by simp [Session.new] at h

variable {gpu : Gpu} {s s' : Session}

/-- A handle's kind is minted by its device alone. -/
theorem Inv.sole (h : Inv gpu s) {device : ℕ} {k : Kind} (hk : s.facade.ids device k ≠ 0)
    (other : ℕ) (hne : other ≠ device) : s.facade.ids other k = 0 :=
  (h.apart other device k hne).resolve_right hk

/-- A handle that was requested has an id other than zero. -/
theorem minted_ids {f : Facade} (hf : f.Inv) {h : Slot} (hs : f.stage h ≠ none) :
    f.ids h.device h.kind ≠ 0 := by
  have hlt := (hf.minted h).mp hs
  omega

/-- An action touches entries of kinds that its device mints. -/
theorem touches_own (hi : Session.Inv gpu s) {x : Entry} (hx : x ∈ s.dispatched) {r : Ref}
    (ht : x.op.touches r) : s.facade.ids x.issue.device r.kind ≠ 0 := by
  have hf := hi.facade
  have hmem := hi.issued hx
  have haction := (hi.faithful x hx).action
  rcases Session.touches_outcome ht with hc | hd
  · rw [haction, hf.creates _ hmem] at hc
    obtain ⟨y, hy, rfl⟩ := Option.map_eq_some_iff.mp hc
    rw [← hf.device _ hmem y (Or.inl hy)]
    apply minted_ids hf
    intro hnone
    have hsent := hf.created_sent _ hmem y hy
    rw [hnone] at hsent
    exact absurd hsent (by simp [Stage.is_sent])
  · rw [haction, hf.destroys _ hmem] at hd
    obtain ⟨y, hy, rfl⟩ := Option.map_eq_some_iff.mp hd
    rw [← hf.device _ hmem y (Or.inr hy)]
    apply minted_ids hf
    rw [hf.destroyed_gone _ hmem y hy]
    exact Option.some_ne_none _

/-- The invariant is the property. -/
theorem Inv.separate (h : Inv gpu s) : Apart gpu s where
  ids := by
    intro x y hx hy hdevice hkind _
    have hkx := minted_ids h.session.facade hx
    have hky := minted_ids h.session.facade hy
    rw [hkind] at hkx
    exact hkx (h.sole hky x.device hdevice)
  entries := by
    intro x hx y hy hdevice
    rw [(h.session.faithful x hx).tables]
    refine Store.Op.apply_of_not_touches ?_ _
    intro ht
    have hky := minted_ids h.session.facade hy
    exact touches_own h.session hx ht (h.sole hky x.issue.device (Ne.symm hdevice))
  responses := h.responses

/-! ## One step -/

/-- What was answered alone so far was answered alone before. -/
theorem answers_alone_of_append {more : List Entry} (hd : s'.dispatched = s.dispatched ++ more)
    (h : AnswersAlone gpu s') : AnswersAlone gpu s := by
  intro pre x post hsplit
  apply h pre x (post ++ more)
  rw [hd, hsplit, List.append_assoc]
  rfl

/-- A step that dispatches nothing. -/
theorem Inv.quiet (h : Inv gpu s) (hsession : Session.Inv gpu s') (hown : OwnHandles s'.facade)
    (hapart : ∀ d d' k, d ≠ d' → s'.facade.ids d k = 0 ∨ s'.facade.ids d' k = 0)
    (hgrow : ∀ d k, s'.facade.ids d k = 0 → s.facade.ids d k = 0)
    (hdispatched : s'.dispatched = s.dispatched) (hengine : s'.engine = s.engine) :
    Inv gpu s' := by
  have hback : AnswersAlone gpu s' → AnswersAlone gpu s := by
    apply answers_alone_of_append
    rw [hdispatched]
    exact (List.append_nil _).symm
  refine ⟨hsession, hown, hapart, ?_, ?_, ?_, ?_⟩
  · rw [hengine, hdispatched]
    exact h.number
  · rw [hengine]
    exact h.log
  · intro halone device
    obtain ⟨hnumber, hlog, htables⟩ := h.alike (hback halone) device
    rw [← hdispatched, ← hengine] at hnumber hlog htables
    refine ⟨hnumber, hlog, ?_⟩
    intro r hr
    exact htables r fun other hne => hgrow other r.kind (hr other hne)
  · intro halone
    rw [hdispatched]
    exact h.responses (hback halone)

/-- The log of a device after one more dispatch. -/
theorem own_log_append {pre : List Entry} {x : Entry} {log evs : List Event} (device : ℕ)
    (hold : ∀ ev ∈ log, ev.occ.dispatch < pre.length)
    (hnew : ∀ ev ∈ evs, ev.occ.dispatch = pre.length) :
    own_log (pre ++ [x]) device (log ++ evs) =
      own_log pre device log ++ if x.issue.device = device then evs else [] := by
  unfold own_log
  rw [List.filter_append]
  -- the old events keep their owner, the new ones belong to the new entry
  have hkeep : log.filter (fun ev => owner (pre ++ [x]) ev = some device) =
      log.filter fun ev => owner pre ev = some device := by
    apply List.filter_congr
    intro ev hev
    rw [owner, owner, List.getElem?_append_left (hold ev hev)]
  have howner : ∀ ev ∈ evs, owner (pre ++ [x]) ev = some x.issue.device := by
    intro ev hev
    rw [owner, hnew ev hev, List.getElem?_append_right (Nat.le_refl _), Nat.sub_self]
    rfl
  rw [hkeep]
  by_cases hx : x.issue.device = device
  · have hall : evs.filter (fun ev => owner (pre ++ [x]) ev = some device) = evs := by
      refine List.filter_eq_self.mpr ?_
      intro ev hev
      rw [howner ev hev, hx]
      exact decide_eq_true rfl
    rw [if_pos hx, hall]
  · have hnone : evs.filter (fun ev => owner (pre ++ [x]) ev = some device) = [] := by
      refine List.filter_eq_nil_iff.mpr ?_
      intro ev hev
      rw [howner ev hev, decide_eq_true_iff]
      intro heq
      exact hx (Option.some.inj heq)
    rw [if_neg hx, hnone]

/-- wgpu answers a dispatch of the device as it answers the device alone. -/
theorem reply_alone {x : Entry} {e : Engine} {pre : List Entry}
    (hmap : ∀ occ slice, gpu.map_result x.engine.log occ slice =
        gpu.map_result (own_log pre x.issue.device x.engine.log) occ slice ∧
      gpu.mapped_bytes x.engine.log occ slice =
        gpu.mapped_bytes (own_log pre x.issue.device x.engine.log) occ slice)
    (hlog : e.log = own_log pre x.issue.device x.engine.log) :
    x.engine.reply gpu = e.reply gpu := by
  funext occ c
  unfold Engine.reply
  rw [hlog]
  congr 1
  · split
    · exact (hmap occ _).1
    · rfl
  · split
    · exact (hmap occ _).2
    · rfl

/-- A session alone takes one more turn, if the entry is its own. -/
theorem solo_snoc (device : ℕ) (pre : List Entry) (x : Entry) :
    solo gpu device (pre ++ [x]) = solo_turn gpu device (solo gpu device pre) x := by
  rw [solo, List.foldl_append]
  rfl

/-- What a step that dispatches `x` does to the session. -/
structure Dispatches (gpu : Gpu) (s s' : Session) (x : Entry) : Prop where
  ids : s'.facade.ids = s.facade.ids
  before : x.engine = s.engine
  after : s'.engine = (s.engine.handle gpu x.frame.action).2
  dispatched : s'.dispatched = s.dispatched ++ [x]

section Turn

variable {x : Entry}

/-- The new calls, and whose they are. -/
theorem Inv.own_calls (h : Inv gpu s) (hd : Dispatches gpu s s' x) {evs : List Event}
    (hevs : (s.engine.handle gpu x.frame.action).2.log = s.engine.log ++ evs) (device : ℕ) :
    own_log s'.dispatched device s'.engine.log = own_log s.dispatched device s.engine.log ++
      if x.issue.device = device then evs else [] := by
  obtain ⟨evs', hevs', hnumber⟩ := handle_log gpu s.engine x.frame.action
  have hsame : evs = evs' := List.append_cancel_left (hevs.symm.trans hevs')
  rw [hd.dispatched, hd.after, hevs]
  apply own_log_append
  · intro ev hev
    rw [← h.number]
    exact h.log ev hev
  · intro ev hev
    rw [hsame] at hev
    rw [← h.number]
    exact hnumber ev hev

/-- The device whose turn it is, alone and with the others: the same answer and
the same calls. -/
theorem Inv.same_answer (h : Inv gpu s) (hsession : Session.Inv gpu s')
    (hown : OwnHandles s'.facade) (hd : Dispatches gpu s s' x) (halone : AnswersAlone gpu s')
    (halike : Alike gpu s x.issue.device) :
    (s.engine.handle gpu x.frame.action).1 =
        ((solo gpu x.issue.device s.dispatched).handle gpu x.frame.action).1 ∧
      ∃ evs, (s.engine.handle gpu x.frame.action).2.log = s.engine.log ++ evs ∧
        ((solo gpu x.issue.device s.dispatched).handle gpu x.frame.action).2.log =
          (solo gpu x.issue.device s.dispatched).log ++ evs := by
  have hx : x ∈ s'.dispatched := by
    rw [hd.dispatched]
    exact List.mem_append_right _ (List.mem_singleton_self x)
  have hmap := halone s.dispatched x [] hd.dispatched
  have hreply := reply_alone (e := solo gpu x.issue.device s.dispatched) hmap
    (by rw [hd.before]; exact halike.log)
  rw [hd.before] at hreply
  refine handle_congr gpu halike.number.symm hreply ?_
  intro r hr
  -- the entry is of a kind that only this device mints
  rw [(hsession.faithful x hx).action] at hr
  obtain ⟨n, hn, -⟩ := hown _ (hsession.issued hx) r hr
  rw [hd.ids] at hn
  have hk : s.facade.ids x.issue.device r.kind ≠ 0 := by omega
  exact (halike.tables r (h.sole hk)).symm

/-- Its own turn keeps a device alike. -/
theorem Alike.turn (h : Inv gpu s) (hsession : Session.Inv gpu s') (hown : OwnHandles s'.facade)
    (hd : Dispatches gpu s s' x) (halone : AnswersAlone gpu s')
    (halike : Alike gpu s x.issue.device) : Alike gpu s' x.issue.device := by
  obtain ⟨hresp, evs, hevs, hevs'⟩ := h.same_answer hsession hown hd halone halike
  have hsolo : solo gpu x.issue.device s'.dispatched =
      ((solo gpu x.issue.device s.dispatched).handle gpu x.frame.action).2 := by
    rw [hd.dispatched, solo_snoc]
    exact if_pos rfl
  refine ⟨?_, ?_, ?_⟩
  · rw [hsolo, hd.after]
    exact congrArg (· + 1) halike.number
  · rw [hsolo, hevs', halike.log, h.own_calls hd hevs, if_pos rfl]
  · intro r hr
    rw [hd.ids] at hr
    rw [hsolo, hd.after, handle_tables, handle_tables, ← hresp, halike.number]
    exact Store.Op.apply_congr _ (halike.tables r hr)

/-- Another device's turn keeps a device alike. -/
theorem Alike.pass {device : ℕ} (h : Inv gpu s) (hsession : Session.Inv gpu s')
    (hd : Dispatches gpu s s' x) (hother : x.issue.device ≠ device)
    (halike : Alike gpu s device) : Alike gpu s' device := by
  have hsolo : solo gpu device s'.dispatched = { solo gpu device s.dispatched with
      dispatched := (solo gpu device s.dispatched).dispatched + 1 } := by
    rw [hd.dispatched, solo_snoc]
    exact if_neg hother
  have hx : x ∈ s'.dispatched := by
    rw [hd.dispatched]
    exact List.mem_append_right _ (List.mem_singleton_self x)
  obtain ⟨evs, hevs, -⟩ := handle_log gpu s.engine x.frame.action
  refine ⟨?_, ?_, ?_⟩
  · rw [hsolo, hd.after]
    exact congrArg (· + 1) halike.number
  · rw [hsolo, h.own_calls hd hevs, if_neg hother, List.append_nil]
    exact halike.log
  · intro r hr
    -- an entry no other device has minted the id of
    have huntouched : ¬ x.op.touches r := by
      intro ht
      exact touches_own hsession hx ht (hr _ hother)
    rw [hd.ids] at hr
    have htables := (hsession.faithful x hx).tables
    rw [hd.before] at htables
    rw [hsolo, hd.after, htables, Store.Op.apply_of_not_touches huntouched]
    exact halike.tables r hr

/-- **One dispatch.** -/
theorem Inv.serve (h : Inv gpu s) (hsession : Session.Inv gpu s') (hown : OwnHandles s'.facade)
    (hd : Dispatches gpu s s' x) : Inv gpu s' := by
  have hback : AnswersAlone gpu s' → AnswersAlone gpu s := answers_alone_of_append hd.dispatched
  refine ⟨hsession, hown, ?_, ?_, ?_, ?_, ?_⟩
  · rw [hd.ids]
    exact h.apart
  · rw [hd.after, hd.dispatched, List.length_append]
    show s.engine.dispatched + 1 = _
    rw [h.number]
    rfl
  · intro ev hev
    obtain ⟨evs, hevs, hnumber⟩ := handle_log gpu s.engine x.frame.action
    rw [hd.after, hevs] at hev
    rw [hd.after]
    show ev.occ.dispatch < s.engine.dispatched + 1
    rcases List.mem_append.mp hev with hev | hev
    · have hlt := h.log ev hev
      omega
    · rw [hnumber ev hev]
      omega
  · intro halone device
    have halike := h.alike (hback halone) device
    by_cases hx : x.issue.device = device
    · rw [← hx] at halike ⊢
      exact halike.turn h hsession hown hd halone
    · exact halike.pass h hsession hd hx
  · intro halone pre y post hsplit
    rw [hd.dispatched] at hsplit
    rcases Transition.split_snoc hsplit with ⟨rfl, rfl⟩ | ⟨front, hfront⟩
    · -- the new one
      have hy : y ∈ s'.dispatched := by
        rw [hd.dispatched]
        exact List.mem_append_right _ (List.mem_singleton_self y)
      obtain ⟨hresp, -⟩ := h.same_answer hsession hown hd halone (h.alike (hback halone) _)
      rw [(hsession.faithful y hy).response, hd.before]
      exact hresp
    · exact h.responses (hback halone) pre y front hfront

end Turn

/-- A minting of a kind that no other device has minted keeps the kinds apart. -/
theorem Inv.ids_step (h : Inv gpu s) {l : Facade.Label} {facade : Facade} {job : Option Job}
    (hstep : s.facade.step l = some (facade, job)) (hok : MintsApart s (.client l)) :
    (∀ d d' k, d ≠ d' → facade.ids d k = 0 ∨ facade.ids d' k = 0) ∧
      ∀ d k, facade.ids d k = 0 → s.facade.ids d k = 0 := by
  rcases Facade.step_ids hstep with hids | ⟨device, k, rfl, hids⟩
  · rw [hids]
    exact ⟨h.apart, fun _ _ hzero => hzero⟩
  · have hfresh := hok device k rfl
    have hcount : ∀ d j, facade.ids d j =
        if d = device ∧ j = k then s.facade.ids d j + 1 else s.facade.ids d j := by
      intro d j
      rw [hids]
      by_cases hd : d = device
      · by_cases hj : j = k
        · rw [if_pos ⟨hd, hj⟩, hd, hj]
          simp only [if_pos, IdMinter.mint]
        · rw [if_neg (by simp [hj]), hd]
          simp only [if_pos, IdMinter.mint, if_neg hj]
      · rw [if_neg (by simp [hd])]
        simp only [if_neg hd]
    refine ⟨?_, ?_⟩
    · intro d d' j hne
      rw [hcount, hcount]
      by_cases hd : d = device ∧ j = k
      · -- the minting device: the other one has none of the kind
        have hd' : ¬ (d' = device ∧ j = k) := fun hd' => hne (hd.1.trans hd'.1.symm)
        rw [if_neg hd', hd.2]
        exact Or.inr (hfresh d' fun heq => hne (hd.1.trans heq.symm))
      · rw [if_neg hd]
        by_cases hd' : d' = device ∧ j = k
        · rw [hd'.2]
          exact Or.inl (hfresh d fun heq => hne (heq.trans hd'.1.symm))
        · rw [if_neg hd']
          exact h.apart d d' j hne
    · intro d j hzero
      rw [hcount] at hzero
      by_cases hd : d = device ∧ j = k
      · rw [if_pos hd] at hzero
        exact absurd hzero (Nat.succ_ne_zero _)
      · rw [if_neg hd] at hzero
        exact hzero

/-- A step with many devices is a step of the session in which handles are used on their own
device. -/
theorem step_eq {l : Session.Label} (hstep : step gpu s l = some s') :
    Session.step gpu s l = some s' ∧ OwnHandles s'.facade := by
  rcases h : Session.step gpu s l with _ | t
  · simp only [step, h] at hstep
    exact absurd hstep (by simp)
  · by_cases hown : OwnHandles t.facade
    · simp only [step, h, Option.bind_eq_bind, Option.bind_some, if_pos hown] at hstep
      rw [← Option.some.inj hstep]
      exact ⟨rfl, hown⟩
    · simp only [step, h, Option.bind_eq_bind, Option.bind_some, if_neg hown] at hstep
      exact absurd hstep (by simp)

/-- **One step** that mints nothing another device has minted. -/
theorem Inv.step {l : Session.Label} (h : Inv gpu s) (hstep : step gpu s l = some s')
    (hok : MintsApart s l) : Inv gpu s' := by
  obtain ⟨hs, hown⟩ := step_eq hstep
  have hsession := h.session.step hs
  rcases Session.step_cases h.session hs with ⟨cl, facade, job, rfl, hf, rfl⟩ |
    ⟨job, inbox, rfl, hinbox, rfl⟩ | ⟨job, stream, rid, rfl, hstream, rfl⟩
  · obtain ⟨hapart, hgrow⟩ := h.ids_step hf hok
    exact h.quiet hsession hown hapart hgrow rfl rfl
  · exact h.quiet hsession hown h.apart (fun _ _ hzero => hzero) rfl rfl
  · exact h.serve hsession hown ⟨rfl, rfl, rfl, rfl⟩

/-- A minting of a kind that another device has minted gives both the same id. -/
theorem Inv.collision {l : Session.Label} (h : Inv gpu s) (hstep : Devices.step gpu s l = some s')
    (hbad : ¬ MintsApart s l) : ¬ Apart gpu s' := by
  intro hapart
  apply hbad
  rintro device k rfl other hne
  by_contra hother
  obtain ⟨hs, -⟩ := step_eq hstep
  have hinv := (h.session.step hs).facade
  have hids : s'.facade.ids device k ≠ 0 ∧ s'.facade.ids other k = s.facade.ids other k := by
    rcases Session.step_cases h.session hs with ⟨cl, facade, job, hl, hf, rfl⟩ |
      ⟨job, inbox, hl, -, -⟩ | ⟨job, stream, rid, hl, -, -⟩
    · rw [← Session.Label.client.inj hl] at hf
      have hmint := hf
      unfold Facade.step at hmint
      by_cases hd : device < s.facade.devices
      · simp only [if_pos hd] at hmint
        obtain ⟨rfl, -⟩ := Prod.mk.inj (Option.some.inj hmint)
        simp [IdMinter.mint, hne]
      · simp only [if_neg hd] at hmint
        exact absurd hmint (by simp)
    · exact absurd hl (by simp)
    · exact absurd hl (by simp)
  -- the first id of either device is the same
  have hfirst : ∀ d, s'.facade.ids d k ≠ 0 → s'.facade.stage ⟨d, k, 0⟩ ≠ none := by
    intro d hd
    exact (hinv.minted ⟨d, k, 0⟩).mpr (Nat.pos_of_ne_zero hd)
  refine hapart.ids ⟨device, k, 0⟩ ⟨other, k, 0⟩ (hfirst device hids.1) ?_ (Ne.symm hne) rfl rfl
  apply hfirst other
  rw [hids.2]
  exact hother

/-- **When devices are apart**: all along a run, exactly if no step of it mints
an id of a kind that another device has minted. -/
theorem devices_apart_iff (gpu : Gpu) (labels : List Session.Label) :
    Transition.Always (step gpu) (Apart gpu) Session.new labels ↔
      Transition.Guarded (step gpu) MintsApart Session.new labels :=
  Transition.always_iff_guarded (step gpu) (fun _ h => h.separate)
    (fun _ _ _ h hstep hok => h.step hstep hok) (fun _ _ _ h hstep hbad => h.collision hstep hbad)
    labels (inv_new gpu)

end Devices

end Devices

section Runs

attribute [local instance] WgpuTypes.numeric

/-- Two devices, a buffer on each. -/
def two_devices : List Session.Label :=
  [.client .request_device, .client .request_device,
    .client (.mint 0 .Buffer), .client (.mint 1 .Buffer)]

/-- They get the same id. -/
theorem two_devices_collide :
    ¬ ∀ labels s, Transition.run (Devices.step idle_gpu) Session.new labels = some s →
      Devices.Apart idle_gpu s := by
  intro hall
  obtain ⟨s, hrun, h0, h1⟩ : ∃ s,
      Transition.run (Devices.step idle_gpu) Session.new two_devices = some s ∧
        s.facade.stage ⟨0, .Buffer, 0⟩ ≠ none ∧ s.facade.stage ⟨1, .Buffer, 0⟩ ≠ none := by
    refine ⟨_, rfl, ?_, ?_⟩
    · decide
    · decide
  exact (hall two_devices s hrun).ids ⟨0, .Buffer, 0⟩ ⟨1, .Buffer, 0⟩ h0 h1 (by decide) rfl rfl

end Runs

end WgpuRemote
