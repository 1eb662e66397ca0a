/-
References resolve to what they name.

A create is sent before its handle exists, so whatever is sent while the handle
is alive comes later in the queue, and its `Destroy` later still. The server
dispatches in that order. So an action sent while a handle was alive finds the
object of that handle's create, or finds nothing because the create failed
(`reference_integrity`).

That the entry is not some other handle's rests on the ids being different. One
device's are, until a counter has gone through all of its 2^64 values.
-/
import WgpuRemote.System.Session
import WgpuRemote.Server.Lifetime

set_option autoImplicit false

namespace WgpuRemote

open Bincode Client Server
open Wgpu (Occ Obj Gpu)

section Integrity

variable [WgpuTypes]

/-- The one wgpu call this dispatch made, and so the object it created. -/
def Entry.Made (gpu : Gpu) (x : Entry) (o : Occ) : Prop :=
  ∃ call, (x.engine.handle gpu x.frame.action).2.log = x.engine.log ++ [⟨o, call⟩]

namespace Session

/-- What an action finds under a handle's id, given what was dispatched before
it: the object of the handle's create, or nothing if the create was answered an
error, or if its frame never left the client. -/
def Resolved (gpu : Gpu) (s : Session) (pre : List Entry) (x : Entry) (h : Slot) : Prop :=
  (∃ c ∈ pre, c.issue.creates = some h ∧ c.frame.action.creates = some h.ref ∧
    ((c.response = some .Ok ∧ ∃ o, c.Made gpu o ∧ x.engine.tables h.ref = some o) ∨
      (∃ code message, c.response = some (.Error code message)) ∧
        x.engine.tables h.ref = none)) ∨
  s.facade.refused h = true ∧ x.engine.tables h.ref = none

/-- **Reference integrity**: every dispatched action, for every id it reads
through a handle that was alive when it was sent. -/
def ReferenceIntegrity (gpu : Gpu) (s : Session) : Prop :=
  ∀ pre x post, s.dispatched = pre ++ x :: post → ∀ h, x.issue.live h = true →
    h.ref ∈ x.frame.action.reads → Resolved gpu s pre x h

/-- The handles minted so far have different ids. -/
def Distinct (s : Facade) : Prop :=
  ∀ h h', s.stage h ≠ none → s.stage h' ≠ none → h.ref = h'.ref → h = h'

/-! ## What touches an entry -/

/-- An action touches at most the id it creates or destroys. -/
theorem touches_outcome {d : ℕ} {a : Action} {resp : Option Response} {r : Ref}
    (h : (outcome d a resp).touches r) : a.creates = some r ∨ a.destroys = some r := by
  have heffect : (effect d a).touches r := by
    unfold outcome at h
    split at h
    · exact h.elim
    · exact h
  unfold effect at heffect
  rcases hc : a.creates with _ | x
  · rcases hd : a.destroys with _ | x
    · rw [hc, removes_eq_none hd] at heffect
      exact heffect.elim
    · rw [hc, removes_of_destroys hd] at heffect
      by_cases hk : x.kind = .Buffer
      · rw [if_pos hk] at heffect
        exact Or.inr (congrArg some heffect)
      · rw [if_neg hk] at heffect
        exact heffect.elim
  · rw [hc] at heffect
    exact Or.inl (congrArg some heffect)

variable {gpu : Gpu} {s : Session}

/-- What was dispatched is on the client's record. -/
theorem Inv.issued (hi : Inv gpu s) {x : Entry} (hx : x ∈ s.dispatched) :
    x.issue ∈ s.facade.issued := by
  rw [hi.queue, List.append_assoc]
  exact List.mem_append_left _ (List.mem_map_of_mem hx)

/-- With different ids, only a handle's own create and destroy touch its entry. -/
theorem Inv.touches (hi : Inv gpu s) (hdistinct : Distinct s.facade) {x : Entry}
    (hx : x ∈ s.dispatched) {h : Slot} (hs : Stage.is_sent (s.facade.stage h) = true)
    (ht : x.op.touches h.ref) : x.issue.creates = some h ∨ x.issue.destroys = some h := by
  have hmem := hi.issued hx
  have hne : s.facade.stage h ≠ none := by
    intro hnone
    rw [hnone] at hs
    exact absurd hs (by simp [Stage.is_sent])
  have haction := (hi.faithful x hx).action
  -- the handle whose create or destroy it is has the same reference, so it is `h`
  rcases touches_outcome ht with hc | hd
  · rw [haction, hi.facade.creates _ hmem] at hc
    obtain ⟨y, hy, href⟩ := Option.map_eq_some_iff.mp hc
    have hys := hi.facade.created_sent _ hmem y hy
    have hyne : s.facade.stage y ≠ none := by
      intro hnone
      rw [hnone] at hys
      exact absurd hys (by simp [Stage.is_sent])
    rw [hdistinct y h hyne hne href] at hy
    exact Or.inl hy
  · rw [haction, hi.facade.destroys _ hmem] at hd
    obtain ⟨y, hy, href⟩ := Option.map_eq_some_iff.mp hd
    have hyg := hi.facade.destroyed_gone _ hmem y hy
    have hyne : s.facade.stage y ≠ none := by
      rw [hyg]
      exact Option.some_ne_none _
    rw [hdistinct y h hyne hne href] at hy
    exact Or.inr hy

/-- The place of a dispatched action in the client's record. -/
theorem Inv.split (hi : Inv gpu s) {pre post : List Entry} {x : Entry}
    (hsplit : s.dispatched = pre ++ x :: post) :
    ∃ rest, s.facade.issued = pre.map Entry.issue ++ x.issue :: rest := by
  rw [hi.queue, hsplit, List.map_append, List.map_cons, List.append_assoc, List.append_assoc]
  exact ⟨_, rfl⟩

/-! ## One reference -/

/-- An action that finds a handle's create before it, and no destroy, finds
what the create left. -/
theorem Inv.created (hi : Inv gpu s) (hdistinct : Distinct s.facade) {pre post : List Entry}
    {x : Entry} (hsplit : s.dispatched = pre ++ x :: post) {h : Slot} {c : Entry} (hc : c ∈ pre)
    (hcreates : c.issue.creates = some h) (hkept : ∀ y ∈ pre, y.issue.destroys ≠ some h) :
    (c.response = some .Ok ∧ ∃ o, c.Made gpu o ∧ x.engine.tables h.ref = some o) ∨
      (∃ code message, c.response = some (.Error code message)) ∧
        x.engine.tables h.ref = none := by
  have hpre : ∀ y ∈ pre, y ∈ s.dispatched := by
    intro y hy
    rw [hsplit]
    exact List.mem_append_left _ hy
  have hsent := hi.facade.created_sent _ (hi.issued (hpre c hc)) h hcreates
  obtain ⟨p1, p2, rfl⟩ := List.append_of_mem hc
  -- the create is the only dispatched action that touches the entry
  have hothers : ∀ y, y ∈ p1 ∨ y ∈ p2 → ¬ y.op.touches h.ref := by
    intro y hy ht
    have hmem : y ∈ p1 ++ c :: p2 := by
      rcases hy with hy | hy
      · exact List.mem_append_left _ hy
      · exact List.mem_append_right _ (List.mem_cons_of_mem c hy)
    rcases hi.touches hdistinct (hpre y hmem) hsent ht with hyc | hyd
    · obtain ⟨rest, hrest⟩ := hi.split hsplit
      have honce := hi.facade.once
      rw [hrest, List.map_append, List.map_cons, List.filterMap_append, List.filterMap_append,
        List.filterMap_cons_some hcreates] at honce
      have hnodup := (List.nodup_append.mp honce).1
      obtain ⟨-, hright, hdisjoint⟩ := List.nodup_append.mp hnodup
      rcases hy with hy | hy
      · have hin : h ∈ (p1.map Entry.issue).filterMap Issue.creates :=
          List.mem_filterMap.mpr ⟨y.issue, List.mem_map_of_mem hy, hyc⟩
        exact hdisjoint h hin h List.mem_cons_self rfl
      · have hin : h ∈ (p2.map Entry.issue).filterMap Issue.creates :=
          List.mem_filterMap.mpr ⟨y.issue, List.mem_map_of_mem hy, hyc⟩
        exact (List.nodup_cons.mp hright).1 hin
    · exact hkept y hmem hyd
  have htables := hi.tables_at _ _ _ hsplit
  rw [List.map_append, List.map_cons] at htables
  have hp1 : ∀ o ∈ p1.map Entry.op, ¬ o.touches h.ref := by
    intro o ho
    obtain ⟨y, hy, rfl⟩ := List.mem_map.mp ho
    exact hothers y (Or.inl hy)
  have hp2 : ∀ o ∈ p2.map Entry.op, ¬ o.touches h.ref := by
    intro o ho
    obtain ⟨y, hy, rfl⟩ := List.mem_map.mp ho
    exact hothers y (Or.inr hy)
  obtain ⟨hat, hbefore⟩ :=
    Store.run_of_touched_once (s := ResourceTables.empty) (o := c.op) hp1 hp2
  rw [← htables] at hat
  rw [hat]
  have hfaithful := hi.faithful c (hpre c hc)
  have haction : c.frame.action.creates = some h.ref := by
    rw [hfaithful.action, hi.facade.creates _ (hi.issued (hpre c hc)), hcreates]
    rfl
  rcases handle_create gpu c.engine haction with hok | ⟨code, message, herr⟩
  · -- acknowledged: the entry is the object of the create's call
    have hresp : c.response = some .Ok := hfaithful.response.trans hok
    refine Or.inl ⟨hresp, ⟨c.engine.dispatched, 0⟩, ?_, ?_⟩
    · have hadm : Admitted c.frame.action c.engine.tables := by
        by_contra hadm
        obtain ⟨-, r, hr, herr⟩ := handle_rejected gpu c.engine c.frame.action hadm
        rw [hok] at hr
        rcases herr with ⟨what, raw, rfl⟩ | ⟨-, message, rfl⟩
        · exact absurd hr (by simp [unknown])
        · exact absurd hr (by simp)
      exact handle_creates_log gpu c.engine haction hadm
    · rw [Entry.op, hresp]
      show (effect _ _).apply _ _ = _
      rw [effect, haction]
      exact Store.insert_self _ _ _
  · have hresp : c.response = some (.Error code message) := hfaithful.response.trans herr
    refine Or.inr ⟨⟨code, message, hresp⟩, ?_⟩
    rw [Entry.op, hresp]
    exact hbefore

/-- An action before which a handle was not created finds nothing there. -/
theorem Inv.uncreated (hi : Inv gpu s) (hdistinct : Distinct s.facade) {pre post : List Entry}
    {x : Entry} (hsplit : s.dispatched = pre ++ x :: post) {h : Slot}
    (hs : Stage.is_sent (s.facade.stage h) = true)
    (hnot : ∀ y ∈ pre, y.issue.creates ≠ some h) (hkept : ∀ y ∈ pre, y.issue.destroys ≠ some h) :
    x.engine.tables h.ref = none := by
  rw [hi.tables_at _ _ _ hsplit]
  refine Store.run_of_untouched ?_
  intro o ho ht
  obtain ⟨y, hy, rfl⟩ := List.mem_map.mp ho
  have hmem : y ∈ s.dispatched := by
    rw [hsplit]
    exact List.mem_append_left _ hy
  rcases hi.touches hdistinct hmem hs ht with hc | hd
  · exact hnot y hy hc
  · exact hkept y hy hd

/-- With different ids, references resolve to what they name. -/
theorem Inv.integrity (hi : Inv gpu s) (hdistinct : Distinct s.facade) :
    ReferenceIntegrity gpu s := by
  intro pre x post hsplit h hlive _
  obtain ⟨rest, hrest⟩ := hi.split hsplit
  obtain ⟨hcreated, hkept⟩ := hi.facade.order _ _ _ hrest h hlive
  have hkept' : ∀ y ∈ pre, y.issue.destroys ≠ some h :=
    fun y hy => hkept y.issue (List.mem_map_of_mem hy)
  rcases hcreated with hrefused | hmem
  · -- the create's frame never left the client
    obtain ⟨hs, hnever⟩ := hi.facade.refused h hrefused
    refine Or.inr ⟨hrefused, hi.uncreated hdistinct hsplit hs ?_ hkept'⟩
    intro y hy hyc
    refine hnever (List.mem_filterMap.mpr ⟨y.issue, ?_, hyc⟩)
    rw [hrest]
    exact List.mem_append_left _ (List.mem_map_of_mem hy)
  · obtain ⟨i, himem, hcreates⟩ := List.mem_filterMap.mp hmem
    obtain ⟨c, hc, rfl⟩ := List.mem_map.mp himem
    refine Or.inl ⟨c, hc, hcreates, ?_, hi.created hdistinct hsplit hc hcreates hkept'⟩
    have hcd : c ∈ s.dispatched := by
      rw [hsplit]
      exact List.mem_append_left _ hc
    rw [(hi.faithful c hcd).action, hi.facade.creates _ (hi.issued hcd), hcreates]
    rfl

/-! ## One device -/

/-- The ids of one device are different as long as its counters have not wrapped. -/
theorem distinct_of_one_device {f : Facade} (hf : f.Inv) (hone : f.devices ≤ 1)
    (hbound : ∀ k, f.ids 0 k ≤ 2 ^ 64) : Distinct f := by
  have hminted : ∀ h, f.stage h ≠ none → h.device = 0 ∧ h.n < 2 ^ 64 := by
    intro h hne
    have hlt := (hf.minted h).mp hne
    have hdev : h.device = 0 := by
      by_contra hd
      have hle : f.devices ≤ h.device := by omega
      rw [hf.unrequested h.device hle] at hlt
      exact absurd hlt (Nat.not_lt_zero _)
    refine ⟨hdev, ?_⟩
    rw [hdev] at hlt
    exact Nat.lt_of_lt_of_le hlt (hbound h.kind)
  -- two of one kind with one id have one number, which has not wrapped
  intro h h' hne hne' href
  obtain ⟨hd, hn⟩ := hminted h hne
  obtain ⟨hd', hn'⟩ := hminted h' hne'
  obtain ⟨device, kind, n⟩ := h
  obtain ⟨device', kind', n'⟩ := h'
  have hkind : kind = kind' := congrArg Ref.kind href
  subst hkind
  have hid : nth_id kind n = nth_id kind n' := Id.ref_inj.mp href
  change device = 0 at hd
  change device' = 0 at hd'
  have hnum : n = n' := nth_id_inj hn hn' hid
  rw [hd, hd', hnum]

/-- **Reference integrity of one device**, over every run. -/
theorem reference_integrity (gpu : Gpu) (labels : List Label) (s : Session)
    (hrun : Transition.run (step gpu) new labels = some s) (hone : s.facade.devices ≤ 1)
    (hbound : ∀ k, s.facade.ids 0 k ≤ 2 ^ 64) : ReferenceIntegrity gpu s := by
  have hi := inv_run hrun
  exact hi.integrity (distinct_of_one_device hi.facade hone hbound)

/-! ## When a counter wraps -/

/-- Any number of threads may each have minted an id, and not sent its create. -/
theorem run_mints (gpu : Gpu) (k : Kind) (n : ℕ) (s : Session) (hd : 0 < s.facade.devices) :
    ∃ ids stage, Transition.run (step gpu) s (List.replicate n (.client (.mint 0 k))) =
        some { s with facade := { s.facade with ids, stage } } ∧
      ids 0 k = s.facade.ids 0 k + n ∧
      (∀ h, h.n < s.facade.ids 0 k → stage h = s.facade.stage h) ∧
      ∀ j, s.facade.ids 0 k ≤ j → j < s.facade.ids 0 k + n →
        stage ⟨0, k, j⟩ = some .creating := by
  induction n generalizing s with
  | zero =>
      refine ⟨s.facade.ids, s.facade.stage, rfl, rfl, fun _ _ => rfl, ?_⟩
      intro j hle hlt
      omega
  | succ n ih =>
      have hone : step gpu s (.client (.mint 0 k)) = some { s with
          facade := { s.facade with
            ids := fun d => if d = 0 then (IdMinter.mint (s.facade.ids 0) k).2 else s.facade.ids d
            stage := fun x => if x = ⟨0, k, s.facade.ids 0 k⟩ then some .creating
              else s.facade.stage x } } := by
        simp only [step, Facade.step, if_pos hd]
        show some _ = some _
        simp only [Option.toList_none, List.append_nil]
      obtain ⟨ids, stage, hrun, hids, hold, hnew⟩ := ih { s with
        facade := { s.facade with
          ids := fun d => if d = 0 then (IdMinter.mint (s.facade.ids 0) k).2 else s.facade.ids d
          stage := fun x => if x = ⟨0, k, s.facade.ids 0 k⟩ then some .creating
            else s.facade.stage x } } hd
      -- the induction hypothesis counts from the number after the first
      have hnext : (IdMinter.mint (s.facade.ids 0) k).2 k = s.facade.ids 0 k + 1 := if_pos rfl
      simp only [if_pos, hnext] at hids hold hnew
      refine ⟨ids, stage, ?_, ?_, ?_, ?_⟩
      · rw [List.replicate_succ, Transition.run_cons, hone, Option.bind_some, hrun]
      · rw [hids]
        omega
      · intro h hlt
        have hne : h ≠ ⟨0, k, s.facade.ids 0 k⟩ := by
          rintro rfl
          exact absurd hlt (Nat.lt_irrefl _)
        rw [hold h (by omega), if_neg hne]
      · intro j hle hlt
        by_cases hj : j = s.facade.ids 0 k
        · rw [hold ⟨0, k, j⟩ (by show j < _; omega), hj, if_pos rfl]
        · exact hnew j (by omega) (by omega)

end Session

end Integrity

/-! ## Runs of one device -/

section Runs

open Session

attribute [local instance] WgpuTypes.numeric

/-- The first buffer of the first device. -/
def first_buffer : Slot := ⟨0, .Buffer, 0⟩

/-- A buffer of four bytes. -/
def small_buffer : BufferDescriptor := ⟨none, 4, (8 : UInt32), false⟩

/-- A device creates its first buffer. -/
def create_first : List Label :=
  [.client .request_device, .client (.mint 0 .Buffer),
    .client (.send_create first_buffer (.CreateBuffer ⟨1⟩ small_buffer))]

/-- It writes to it, and the server gets that far. -/
def write_first : List Label :=
  [.client (.send 0 (.WriteBuffer ⟨1⟩ 0 [])), .write, .write, .serve, .serve]

/-- The write finds the buffer. -/
theorem first_buffer_resolves :
    ∃ s, Transition.run (step idle_gpu) new (create_first ++ write_first) = some s ∧
      s.dispatched.length = 2 ∧ ReferenceIntegrity idle_gpu s := by
  obtain ⟨s, hrun, hlen, hone, hids⟩ : ∃ s, Transition.run (step idle_gpu) new
      (create_first ++ write_first) = some s ∧ s.dispatched.length = 2 ∧
      s.facade.devices ≤ 1 ∧ ∀ k, s.facade.ids 0 k ≤ 2 ^ 64 := by
    refine ⟨_, rfl, rfl, Nat.le_refl 1, ?_⟩
    intro k
    rcases k with _ | _ | _ | _ | _ | _ | _ | _ | _ | _ <;> decide
  exact ⟨s, hrun, hlen, reference_integrity idle_gpu _ s hrun hone hids⟩

/-- The client and the server when the first buffer has just been created. -/
theorem run_create_first : ∃ s first,
    Transition.run (step idle_gpu) new create_first = some s ∧ s.facade.devices = 1 ∧
    s.facade.ids 0 .Buffer = 1 ∧ s.facade.next_request_id = 2 ∧
    s.facade.refused first_buffer = false ∧ s.facade.stage first_buffer = some (.alive 0) ∧
    s.inbox = [first] ∧ s.stream = [] ∧ s.engine = Engine.new ∧ s.dispatched = [] ∧
    first.issue.action = .CreateBuffer ⟨1⟩ small_buffer ∧
    encode_frame Wire.frame ⟨some ⟨1⟩, first.issue.action⟩ = .ok first.bytes := by
  obtain ⟨bytes, henc⟩ : ∃ b, encode_frame Wire.frame
      ⟨some ⟨1⟩, .CreateBuffer ⟨1⟩ small_buffer⟩ = .ok b := ⟨_, rfl⟩
  obtain ⟨s, hmint, hstage, hids, hrest⟩ : ∃ s, Transition.run (step idle_gpu) new
      [.client .request_device, .client (.mint 0 .Buffer)] = some s ∧
      s.facade.stage first_buffer = some .creating ∧ s.facade.ids 0 .Buffer = 1 ∧
      s = { new with facade := { s.facade with
        devices := 1, next_request_id := 1, refused := fun _ => false, issued := [] } } :=
    ⟨_, rfl, rfl, rfl, rfl⟩
  have hsplit : create_first = [.client .request_device, .client (.mint 0 .Buffer)] ++
      [.client (.send_create first_buffer (.CreateBuffer ⟨1⟩ small_buffer))] := rfl
  rw [hsplit, Transition.run_append, hmint, Option.bind_some, Transition.run_cons,
    step_send_create hstage rfl]
  rw [hrest, Facade.send_of_encodes henc]
  refine ⟨_, ⟨_, bytes⟩, rfl, rfl, hids, rfl, rfl, rfl, rfl, rfl, rfl, rfl, rfl, henc⟩

/-- The buffer whose id is 1 again: the counter has gone once around. -/
def wrapped_buffer : Slot := ⟨0, .Buffer, 2 ^ 64⟩

/-- The device creates it, then writes to the buffer with id 1. -/
def create_wrapped : List Label :=
  [.client (.send_create wrapped_buffer (.CreateBuffer ⟨1⟩ small_buffer)),
    .client (.send 0 (.WriteBuffer ⟨1⟩ 0 [])), .write, .write, .write, .serve, .serve, .serve]

/-- The create call of the wrapped buffer sends; the first buffer stays alive. -/
theorem send_wrapped {s : Session} (hnext : s.facade.next_request_id = 2)
    (hwrapped : s.facade.stage wrapped_buffer = some .creating)
    (hfirst : s.facade.stage first_buffer = some (.alive 0)) :
    ∃ s' job, s.step idle_gpu (.client (.send_create wrapped_buffer
        (.CreateBuffer ⟨1⟩ small_buffer))) = some s' ∧
      s'.facade.devices = s.facade.devices ∧ s'.facade.refused = s.facade.refused ∧
      s'.facade.next_request_id = 3 ∧ s'.facade.live first_buffer = true ∧
      s'.inbox = s.inbox ++ [job] ∧ s'.stream = s.stream ∧ s'.engine = s.engine ∧
      s'.dispatched = s.dispatched ∧
      job.issue.creates = some wrapped_buffer ∧
      job.issue.action = .CreateBuffer ⟨1⟩ small_buffer ∧
      encode_frame Wire.frame ⟨some ⟨2⟩, job.issue.action⟩ = .ok job.bytes := by
  obtain ⟨bytes, henc⟩ : ∃ b, encode_frame Wire.frame
      ⟨some ⟨2⟩, .CreateBuffer ⟨1⟩ small_buffer⟩ = .ok b := ⟨_, rfl⟩
  have hsend : encode_frame Wire.frame
      ⟨some ⟨s.facade.next_request_id⟩, .CreateBuffer ⟨1⟩ small_buffer⟩ = .ok bytes := by
    rw [hnext]
    exact henc
  rw [step_send_create hwrapped rfl, Facade.send_of_encodes hsend]
  refine ⟨_, ⟨_, bytes⟩, rfl, rfl, rfl, ?_, ?_, rfl, rfl, rfl, rfl, rfl, rfl, henc⟩
  · show s.facade.next_request_id + 1 = 3
    rw [hnext]
    rfl
  · -- only the stage of the wrapped buffer moves on
    have hne : wrapped_buffer ≠ first_buffer := by decide
    show Stage.is_alive (if some wrapped_buffer = some first_buffer then some (.alive 0)
      else if none = some first_buffer then some .gone else s.facade.stage first_buffer) = true
    rw [if_neg (fun h => hne (Option.some.inj h)), if_neg (by simp), hfirst]
    rfl

/-- What the server has dispatched after that, on a client that holds the first
buffer and has minted the wrapped one. -/
theorem run_wrapped {s : Session} {first : Job} (hnext : s.facade.next_request_id = 2)
    (hwrapped : s.facade.stage wrapped_buffer = some .creating)
    (hfirst : s.facade.stage first_buffer = some (.alive 0))
    (hinbox : s.inbox = [first]) (hstream : s.stream = []) (hengine : s.engine = Engine.new)
    (hdispatched : s.dispatched = [])
    (haction : first.issue.action = .CreateBuffer ⟨1⟩ small_buffer)
    (hbytes : encode_frame Wire.frame ⟨some ⟨1⟩, first.issue.action⟩ = .ok first.bytes) :
    ∃ s', Transition.run (step idle_gpu) s create_wrapped = some s' ∧
      s'.facade.devices = s.facade.devices ∧ s'.facade.refused = s.facade.refused ∧
      ∃ e1 e2 e3, s'.dispatched = [e1, e2, e3] ∧
      e1.engine = Engine.new ∧ e1.frame.action = .CreateBuffer ⟨1⟩ small_buffer ∧
      e2.issue.creates = some wrapped_buffer ∧
      e3.issue.live first_buffer = true ∧ e3.frame.action = .WriteBuffer ⟨1⟩ 0 [] ∧
      e3.engine.tables first_buffer.ref = some ⟨1, 0⟩ := by
  obtain ⟨s1, second, hstep, hdevices1, hrefused1, hnext1, hlive1, hinbox1, hstream1, hengine1,
    hdispatched1, hcreates2, haction2, hbytes2⟩ := send_wrapped hnext hwrapped hfirst
  rw [hinbox] at hinbox1
  rw [hstream] at hstream1
  rw [hengine] at hengine1
  rw [hdispatched] at hdispatched1
  unfold create_wrapped
  rw [Transition.run_cons, hstep, Option.bind_some, ← hdevices1, ← hrefused1]
  obtain ⟨facade, inbox, stream, engine, dispatched⟩ := s1
  cases hinbox1
  cases hstream1
  cases hengine1
  cases hdispatched1
  obtain ⟨bytes, henc⟩ : ∃ b, encode_frame Wire.frame
      ⟨some ⟨3⟩, .WriteBuffer ⟨1⟩ 0 []⟩ = .ok b := ⟨_, rfl⟩
  have hsend : encode_frame Wire.frame
      ⟨some ⟨facade.next_request_id⟩, .WriteBuffer ⟨1⟩ 0 []⟩ = .ok bytes := by
    change facade.next_request_id = 3 at hnext1
    rw [hnext1]
    exact henc
  rw [Transition.run_cons, step_send rfl rfl, Facade.send_of_encodes hsend, Option.bind_some]
  -- the three frames go to the server, which dispatches them in their order
  rw [Transition.run_cons, step_write rfl, Option.bind_some, Transition.run_cons, step_write rfl,
    Option.bind_some, Transition.run_cons, step_write rfl, Option.bind_some]
  rw [Transition.run_cons, step_serve rfl hbytes, Option.bind_some, Transition.run_cons,
    step_serve rfl hbytes2, Option.bind_some, Transition.run_cons, step_serve rfl henc,
    Option.bind_some]
  refine ⟨_, rfl, rfl, rfl, _, _, _, rfl, rfl, haction, hcreates2, hlive1, rfl, ?_⟩
  -- both creates put their object under the same id
  show ((Engine.new.handle idle_gpu first.issue.action).2.handle idle_gpu
    second.issue.action).2.tables first_buffer.ref = _
  rw [haction, haction2]
  rfl

/-- **A wrapped counter** gives the id of a live handle away: the write through
the first buffer finds the other one. -/
theorem wrapped_id_aliases :
    ¬ ∀ (gpu : Gpu) (labels : List Label) (s : Session),
      Transition.run (step gpu) new labels = some s → s.facade.devices ≤ 1 →
        ReferenceIntegrity gpu s := by
  intro h
  obtain ⟨s0, first, hrun0, hdevices, hids, hnext, hrefused, hstage, hinbox, hstream, hengine,
    hdispatched, haction, hbytes⟩ := run_create_first
  -- the counter goes once around, and one step further
  obtain ⟨ids, stage, hmints, -, hold, hnew⟩ :=
    run_mints idle_gpu .Buffer (2 ^ 64) s0 (by rw [hdevices]; exact Nat.one_pos)
  have hfirst : stage first_buffer = some (.alive 0) := by
    rw [hold first_buffer (by rw [hids]; exact Nat.one_pos), hstage]
  have hwrapped : stage wrapped_buffer = some .creating := by
    apply hnew
    · rw [hids]
      decide
    · rw [hids]
      decide
  obtain ⟨s', hrun', hdevices', hrefused', e1, e2, e3, hentries, hengine1, haction1, hcreates2,
      hlive3, haction3, htables3⟩ :=
    run_wrapped (s := { s0 with facade := { s0.facade with ids, stage } }) hnext hwrapped hfirst
      hinbox hstream hengine hdispatched haction hbytes
  have hrun : Transition.run (step idle_gpu) new
      (create_first ++ (List.replicate (2 ^ 64) (.client (.mint 0 .Buffer)) ++ create_wrapped)) =
      some s' := by
    rw [Transition.run_append, hrun0, Option.bind_some, Transition.run_append, hmints,
      Option.bind_some, hrun']
  have hone : s'.facade.devices ≤ 1 := by
    rw [hdevices']
    exact Nat.le_of_eq hdevices
  have hreads : first_buffer.ref ∈ e3.frame.action.reads := by
    rw [haction3]
    exact List.mem_singleton_self _
  rcases h idle_gpu _ s' hrun hone [e1, e2] e3 [] hentries first_buffer hlive3 hreads with
    ⟨c, hc, hcreates, -, hresolved⟩ | ⟨hr, -⟩
  · -- its create is the first entry, and what it made is not what is found
    have hc1 : c = e1 := by
      rcases List.mem_cons.mp hc with hc | hc
      · exact hc
      · rw [List.mem_singleton.mp hc, hcreates2] at hcreates
        exact absurd hcreates (by decide)
    rcases hresolved with ⟨-, o, ⟨call, hlog⟩, ho⟩ | ⟨-, hnone⟩
    · rw [hc1, haction1, hengine1] at hlog
      rw [htables3] at ho
      have hocc : o = ⟨0, 0⟩ :=
        (congrArg Wgpu.Event.occ (List.singleton_inj.mp hlog)).symm
      rw [hocc] at ho
      exact absurd ho (by decide)
    · rw [htables3] at hnone
      exact absurd hnone (by simp)
  · rw [hrefused'] at hr
    change s0.facade.refused first_buffer = true at hr
    rw [hrefused] at hr
    exact absurd hr (by simp)

end Runs

end WgpuRemote
