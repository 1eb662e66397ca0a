/-
What becomes of a request when the connection dies.

When the reader task ends it clears the pending map, which resolves every
request whose sender is in it. The writer task may live on: it ends only when a
write fails. So a request that comes to its insertion late puts its sender into
a map nobody reads any more, and while the writer still takes its job it waits
for good (`late_request_stranded`). Every other request returns
(`dead_connection_iff`).
-/
import WgpuRemote.Client.Mux

set_option autoImplicit false

namespace WgpuRemote.Client

open Bincode

section Disconnect

variable [WgpuTypes]

namespace Mux

/-! ## The property -/

/-- Once the reader task has finished, the pending map holds nothing. -/
def PendingEmpty (s : Mux) : Prop := s.reader = .cleared → ∀ rid, s.pending rid = none

/-- Once the reader task has finished, every request that awaits its channel
finds it resolved: it returns with its next piece. -/
def NoneStranded (s : Mux) : Prop :=
  s.reader = .cleared → ∀ n, s.phase n = .awaiting → s.oneshot n ≠ .waiting

/-- No request inserts its sender when the reader task has finished. -/
def NoLateInsert (s : Mux) (l : Label) : Prop :=
  ∀ n c bytes, l = .insert n → s.calls[n]? = some c → c.encode = .ok bytes → s.reader ≠ .cleared

/-- No request whose sender the reader task has missed pushes a job that the
writer task still takes. -/
def NoLatePush (s : Mux) (l : Label) : Prop :=
  ∀ n, l = .push n → s.writer = true → s.oneshot n = .waiting → s.reader ≠ .cleared

/-! ## Whose sender is in the map -/

/-- A call that expects a response has its sender in the map, or its channel is
resolved. -/
structure Tracked (s : Mux) : Prop where
  fresh : ∀ n, s.calls.length ≤ n → s.phase n = .minted
  waiting : ∀ n c, s.calls[n]? = some c → (s.phase n).expects = true → s.oneshot n = .waiting →
    s.pending c.rid = some n

theorem tracked_new (next_request_id : UInt64) : (new next_request_id).Tracked where
  fresh _ _ := rfl
  waiting n c hc := absurd hc (by simp [new])

variable {s s' : Mux} {n : ℕ}

/-- A call that has gone on is one of the calls. -/
theorem Tracked.lt (h : s.Tracked) (hp : s.phase n ≠ .minted) : n < s.calls.length := by
  by_contra hle
  exact hp (h.fresh n (Nat.le_of_not_lt hle))

/-- A call that is past minting is on the list. -/
theorem Tracked.call (h : s.Tracked) (hp : s.phase n ≠ .minted) : ∃ c, s.calls[n]? = some c :=
  ⟨_, List.getElem?_eq_getElem (h.lt hp)⟩

/-- A call on the list has been minted. -/
theorem lt_of_call {c : Call} (hc : s.calls[n]? = some c) : n < s.calls.length :=
  (List.getElem?_eq_some_iff.mp hc).1

/-- A piece that leaves calls, channels and map alone, and has no call begin to
expect a response. -/
theorem Tracked.quiet (h : s.Tracked) (hcalls : s'.calls = s.calls)
    (hphase : ∀ m, s.calls.length ≤ m → s'.phase m = s.phase m)
    (hexpects : ∀ m, (s'.phase m).expects = true → (s.phase m).expects = true)
    (honeshot : s'.oneshot = s.oneshot) (hpending : s'.pending = s.pending) : s'.Tracked := by
  refine ⟨?_, ?_⟩
  · intro m hm
    rw [hcalls] at hm
    rw [hphase m hm]
    exact h.fresh m hm
  · intro m c hc he hw
    rw [hcalls] at hc
    rw [honeshot] at hw
    rw [hpending]
    exact h.waiting m c hc (hexpects m he) hw

/-- A call goes on, and does not begin to expect a response. -/
theorem Tracked.enter (h : s.Tracked) {p : Phase} (hn : n < s.calls.length)
    (hp : p.expects = true → (s.phase n).expects = true) : (s.enter n p).Tracked := by
  refine h.quiet rfl ?_ ?_ rfl rfl
  · intro m hm
    show Function.update s.phase n p m = _
    rw [Function.update_of_ne (by omega)]
  · intro m he
    change (Function.update s.phase n p m).expects = true at he
    by_cases hmn : m = n
    · rw [hmn, Function.update_self] at he
      rw [hmn]
      exact hp he
    · rwa [Function.update_of_ne hmn] at he

/-- Minting takes a fresh id and leaves the calls before it alone. -/
theorem Tracked.mint (h : s.Tracked) (awaited : Bool) (action : Action) :
    (s.mint awaited action).Tracked := by
  refine ⟨?_, ?_⟩
  · intro m hm
    apply h.fresh
    change (s.calls ++ [_]).length ≤ m at hm
    rw [List.length_append, List.length_singleton] at hm
    omega
  · intro m c hc he hw
    change (s.calls ++ [_])[m]? = some c at hc
    by_cases hm : m < s.calls.length
    · rw [List.getElem?_append_left hm] at hc
      exact h.waiting m c hc he hw
    · -- the new call expects nothing yet
      change (s.phase m).expects = true at he
      rw [h.fresh m (Nat.le_of_not_lt hm)] at he
      exact absurd he (by simp [Phase.expects])

/-- Inserting the sender makes the entry under the call's id its own. -/
theorem Tracked.insert (h : s.Tracked) {c : Call} (hc : s.calls[n]? = some c) (bytes : Bytes) :
    (s.insert n c.rid bytes).Tracked := by
  have hn := lt_of_call hc
  refine ⟨?_, ?_⟩
  · intro m hm
    change s.calls.length ≤ m at hm
    show Function.update s.phase n _ m = _
    rw [Function.update_of_ne (by omega)]
    exact h.fresh m hm
  · intro m d hd he hw
    change s.calls[m]? = some d at hd
    change (Function.update s.phase n _ m).expects = true at he
    change Function.update (s.drop_sender c.rid) n .waiting m = .waiting at hw
    show Store.insert s.pending c.rid n d.rid = some m
    by_cases hmn : m = n
    · rw [hmn, hc] at hd
      rw [← Option.some.inj hd, hmn, Store.insert_self]
    · rw [Function.update_of_ne hmn] at he hw
      obtain ⟨hwaiting, hother⟩ := of_drop_sender (by simp) hw
      have hpending := h.waiting m d hd he hwaiting
      -- under the inserted id stood another sender, or none
      have hrid : d.rid ≠ c.rid := by
        intro hrid
        rw [hrid] at hpending
        exact hother hpending
      rw [Store.insert_of_ne _ _ hrid]
      exact hpending

/-- Removing an entry drops its sender; who still waits is under another id. -/
theorem Tracked.remove (h : s.Tracked) (rid : RequestId) : (s.remove rid).Tracked := by
  refine ⟨h.fresh, ?_⟩
  intro m d hd he hw
  obtain ⟨hwaiting, hother⟩ := of_drop_sender (by simp) hw
  have hpending := h.waiting m d hd he hwaiting
  have hrid : d.rid ≠ rid := by
    intro hrid
    rw [hrid] at hpending
    exact hother hpending
  show Store.remove s.pending rid d.rid = some m
  rw [Store.remove_of_ne _ hrid]
  exact hpending

/-- A response takes one sender out of the map, and its caller does not wait any more. -/
theorem Tracked.deliver (h : s.Tracked) (frame : ResponseFrame) : (s.deliver frame).Tracked := by
  unfold Mux.deliver
  rcases hp : s.pending frame.request_id with _ | m
  · exact h
  · refine ⟨h.fresh, ?_⟩
    intro k d hd he hw
    change Function.update s.oneshot m _ k = .waiting at hw
    have hkm : k ≠ m := by
      rintro rfl
      rw [Function.update_self] at hw
      exact absurd hw (by simp)
    rw [Function.update_of_ne hkm] at hw
    have hpending := h.waiting k d hd he hw
    have hrid : d.rid ≠ frame.request_id := by
      intro hrid
      rw [hrid, hp] at hpending
      exact hkm (Option.some.inj hpending).symm
    show Store.remove s.pending frame.request_id d.rid = some k
    rw [Store.remove_of_ne _ hrid]
    exact hpending

/-- The reader's clearing resolves every channel that is still waited for. -/
theorem Tracked.cleared (h : s.Tracked) {c : Call} (hc : s.calls[n]? = some c)
    (he : (s.phase n).expects = true) : s.clear.oneshot n ≠ .waiting := by
  intro hw
  rw [clear_oneshot s hc] at hw
  by_cases hp : s.pending c.rid = some n
  · rw [if_pos hp] at hw
    exact absurd hw (by simp)
  · rw [if_neg hp] at hw
    exact hp (h.waiting n c hc he hw)

/-- Clearing the map wakes every call that waits in it. -/
theorem Tracked.clear (h : s.Tracked) : s.clear.Tracked :=
  ⟨h.fresh, fun _ _ hc he hw => absurd hw (h.cleared hc he)⟩

/-- **One piece** keeps the senders tracked. -/
theorem Tracked.step {l : Label} (h : s.Tracked) (hstep : s.step l = some s') : s'.Tracked := by
  rcases moves_of_step hstep
  case call awaited action => exact h.mint awaited action
  case encode_error n c e hc ha hp he =>
    exact (h.enter (lt_of_call hc) (by simp [Phase.expects])).quiet rfl (fun _ _ => rfl)
      (fun _ => id) rfl rfl
  case insert n c bytes hc ha hp he => exact h.insert hc _
  case push n bytes hp hw =>
    -- the job is in the inbox, the call still expects its response
    exact (h.enter (h.lt (by rw [hp]; simp)) (fun _ => by rw [hp]; rfl)).quiet rfl
      (fun _ _ => rfl) (fun _ => id) rfl rfl
  case refuse n bytes hp hw => exact h.enter (h.lt (by rw [hp]; simp)) (fun _ => by rw [hp]; rfl)
  case give_up n c hc hp =>
    -- the entry goes, and the call with it
    exact ((h.remove _).enter (lt_of_call hc) (by simp [Phase.expects])).quiet rfl (fun _ _ => rfl)
      (fun _ => id) rfl rfl
  case resume n r hp ho | closed n hp ho =>
    exact (h.enter (h.lt (by rw [hp]; simp)) (by simp [Phase.expects])).quiet rfl (fun _ _ => rfl)
      (fun _ => id) rfl rfl
  case cancel n c hc hp => exact h.enter (lt_of_call hc) (by simp [Phase.expects])
  case send_error n c hc ha hp => exact h.enter (lt_of_call hc) (by simp [Phase.expects])
  case send n c bytes hc ha hp he hw =>
    exact (h.enter (lt_of_call hc) (by simp [Phase.expects])).quiet rfl (fun _ _ => rfl)
      (fun _ => id) rfl rfl
  case read raw frame used hr hd => exact h.deliver _
  case clear hr => exact h.clear
  -- the tasks take jobs and frames, or end, and leave the calls alone
  all_goals exact h.quiet rfl (fun _ _ => rfl) (fun _ => id) rfl rfl

/-! ## When the map stays empty -/

/-- An empty map strands nobody. -/
theorem Tracked.none_stranded (h : s.Tracked) (hempty : s.PendingEmpty) : s.NoneStranded := by
  intro hr n hp hw
  obtain ⟨c, hc⟩ := h.call (n := n) (by rw [hp]; simp)
  have hpending := h.waiting n c hc (by rw [hp]; rfl) hw
  rw [hempty hr c.rid] at hpending
  exact absurd hpending (by simp)

/-- A piece that adds nothing to the map, and does not end the reader task. -/
theorem PendingEmpty.shrinks (h : s.PendingEmpty) (hreader : s'.reader = .cleared → s.reader = .cleared)
    (hpending : ∀ rid, s.pending rid = none → s'.pending rid = none) : s'.PendingEmpty :=
  fun hr rid => hpending rid (h (hreader hr) rid)

omit [WgpuTypes] in
/-- An entry that is empty is so after a removal. -/
theorem remove_none {pending : RequestId → Option ℕ} {rid x : RequestId} (h : pending x = none) :
    Store.remove pending rid x = none := by
  unfold Store.remove
  rw [h, ite_self]

/-- **One piece that inserts nothing late** keeps the map empty. -/
theorem PendingEmpty.step {l : Label} (h : s.PendingEmpty) (hstep : s.step l = some s')
    (hok : s.NoLateInsert l) : s'.PendingEmpty := by
  rcases moves_of_step hstep
  case insert n c bytes hc ha hp he =>
    intro hr
    exact absurd hr (hok _ _ _ rfl hc he)
  case give_up n c hc hp => exact h.shrinks id fun _ => remove_none
  case decode_error raw hr | read_error hr =>
    intro hcleared
    exact absurd hcleared (by simp)
  case read raw frame used hr hd =>
    -- while the reader is delivering it has not finished
    intro hcleared
    unfold Mux.deliver at hcleared
    split at hcleared
    · rw [show s.reader = .cleared from hcleared] at hr
      exact absurd hr (by simp)
    · rw [hcleared] at hr
      exact absurd hr (by simp)
  case clear hr =>
    intro _ rid
    rfl
  -- no other piece touches the map
  all_goals exact h.shrinks id fun _ => id

/-- A late insertion is in the map at once. -/
theorem late_insert {l : Label} (hstep : s.step l = some s') (hbad : ¬ s.NoLateInsert l) :
    ¬ s'.PendingEmpty := by
  intro hempty
  apply hbad
  rintro n c bytes rfl hc he hr
  rcases moves_of_step hstep
  case encode_error c' e ha he' hc' hp =>
    rw [hc] at hc'
    rw [← Option.some.inj hc', he] at he'
    exact absurd he' (by simp)
  case insert c' bytes' ha he' hc' hp =>
    have hnone := hempty hr c.rid
    rw [hc] at hc'
    rw [← Option.some.inj hc'] at hnone
    exact absurd (Store.insert_self s.pending c.rid n) (by
      intro hsome
      exact absurd (hsome.symm.trans hnone) (by simp))

/-! ## When nobody is stranded -/

/-- A piece that does not end the reader task, and after which whoever awaits a
channel awaited it before. -/
theorem NoneStranded.shrinks (h : s.NoneStranded)
    (hreader : s'.reader = .cleared → s.reader = .cleared)
    (hphase : ∀ n, s'.phase n = .awaiting → s.phase n = .awaiting)
    (honeshot : ∀ n, s'.oneshot n = .waiting → s.oneshot n = .waiting ∨ s'.phase n ≠ .awaiting) :
    s'.NoneStranded := by
  intro hr n hp hw
  rcases honeshot n hw with hw' | hne
  · exact h (hreader hr) n (hphase n hp) hw'
  · exact hne hp

/-- **One piece that pushes nothing late** strands nobody. -/
theorem NoneStranded.step {l : Label} (h : s.NoneStranded) (ht : s.Tracked)
    (hstep : s.step l = some s') (hok : s.NoLatePush l) : s'.NoneStranded := by
  rcases moves_of_step hstep
  case call awaited action => exact h.shrinks id (fun _ => id) fun _ => Or.inl
  case insert n c bytes hc ha hp he =>
    -- the channel inserted is new, the sender that it replaces is dropped
    refine h.shrinks id (fun _ => of_update_phase (by simp)) ?_
    intro m hw
    change Function.update (s.drop_sender c.rid) n .waiting m = .waiting at hw
    by_cases hmn : m = n
    · refine Or.inr ?_
      rw [hmn]
      show Function.update s.phase n _ n ≠ _
      rw [Function.update_self]
      simp
    · rw [Function.update_of_ne hmn] at hw
      exact Or.inl (of_drop_sender (by simp) hw).1
  case push n bytes hp hw =>
    -- a call begins to await its channel
    intro hr m hm hwaiting
    change Function.update s.phase n _ m = _ at hm
    by_cases hmn : m = n
    · rw [hmn] at hwaiting
      exact hok n rfl hw hwaiting hr
    · rw [Function.update_of_ne hmn] at hm
      exact h hr m hm hwaiting
  case give_up n c hc hp =>
    refine h.shrinks id (fun _ => of_update_phase (by simp)) ?_
    intro m hw
    exact Or.inl (of_drop_sender (by simp) hw).1
  case write job inbox hw hi => exact h.shrinks id (fun _ => id) fun _ => Or.inl
  case write_error hw => exact h.shrinks id (fun _ => id) fun _ => Or.inl
  case decode_error raw hr | read_error hr =>
    intro hcleared
    exact absurd hcleared (by simp)
  case read raw frame used hr hd =>
    -- a response resolves the channel it finds in the map
    unfold Mux.deliver
    split
    · rename_i k _
      refine h.shrinks id (fun _ => id) ?_
      intro m hw
      change Function.update s.oneshot k _ m = _ at hw
      by_cases hmk : m = k
      · rw [hmk, Function.update_self] at hw
        exact absurd hw (by simp)
      · rw [Function.update_of_ne hmk] at hw
        exact Or.inl hw
    · exact h
  case clear hr =>
    intro _ m hm
    obtain ⟨c, hc⟩ := ht.call (n := m) (by
      intro hminted
      exact absurd (hminted.symm.trans hm) (by simp))
    exact ht.cleared hc (by rw [show s.phase m = .awaiting from hm]; rfl)
  -- the call concerned is not awaiting afterwards
  all_goals exact h.shrinks id (fun _ => of_update_phase (by simp)) fun _ => Or.inl

/-- A late push strands its request at once. -/
theorem late_push {l : Label} (hstep : s.step l = some s') (hbad : ¬ s.NoLatePush l) :
    ¬ s'.NoneStranded := by
  intro hnone
  apply hbad
  rintro n rfl hw hwaiting hr
  rcases moves_of_step hstep
  case push bytes hw' hp =>
    refine hnone hr n ?_ hwaiting
    show Function.update s.phase n _ n = _
    rw [Function.update_self]
  case refuse bytes hdead hp =>
    rw [hw] at hdead
    exact absurd hdead (by simp)

/-! ## Every run -/

/-- The property of a connection that may die. -/
def NeverStrands (s : Mux) : Prop := s.PendingEmpty ∧ s.NoneStranded

/-- **When a dead connection strands nobody**, over every run. The map stays
empty, and so nobody is stranded, exactly if no request inserts its sender when
the reader task has finished. Such a request is itself stranded exactly if it
pushes its job while the writer task is running. -/
theorem dead_connection_iff (next_request_id : UInt64) (labels : List Label) :
    (Transition.Always step NeverStrands (new next_request_id) labels ↔
      Transition.Guarded step NoLateInsert (new next_request_id) labels) ∧
    (Transition.Always step NoneStranded (new next_request_id) labels ↔
      Transition.Guarded step NoLatePush (new next_request_id) labels) := by
  have hnew : (new next_request_id).PendingEmpty := fun _ _ => rfl
  have htracked := tracked_new next_request_id
  have hinserts : Transition.Always step NeverStrands (new next_request_id) labels ↔
      Transition.Guarded step NoLateInsert (new next_request_id) labels :=
    Transition.always_iff_guarded step (fun s (h : s.Tracked ∧ s.PendingEmpty) => ⟨h.2, h.1.none_stranded h.2⟩)
    (fun _ _ _ h hstep hok => ⟨h.1.step hstep, h.2.step hstep hok⟩)
    (fun _ _ _ _ hstep hbad hnever => late_insert hstep hbad hnever.1) labels ⟨htracked, hnew⟩
  have hpushes : Transition.Always step NoneStranded (new next_request_id) labels ↔
      Transition.Guarded step NoLatePush (new next_request_id) labels :=
    Transition.always_iff_guarded step (fun s (h : s.Tracked ∧ s.NoneStranded) => h.2)
    (fun _ _ _ h hstep hok => ⟨h.1.step hstep, h.2.step h.1 hstep hok⟩)
    (fun _ _ _ _ hstep hbad => late_push hstep hbad) labels
    ⟨htracked, htracked.none_stranded hnew⟩
  exact ⟨hinserts, hpushes⟩

end Mux

end Disconnect

/-! ## A late request -/

section Runs

open Mux

attribute [local instance] WgpuTypes.numeric

/-- The reader task fails and finishes; then a request begins. -/
def late_request : List Label :=
  [.read_error, .clear, .call true .RequestAdapter, .insert 0, .push 0]

/-- **It waits for good**: its job is taken, its sender is in the map, and there
is no reader task to resolve its channel. -/
theorem late_request_stranded :
    ¬ ∀ (next_request_id : UInt64) (labels : List Label) (s : Mux),
      Transition.run step (new next_request_id) labels = some s → s.NeverStrands := by
  intro h
  obtain ⟨s, hrun, hreader, hphase, honeshot⟩ : ∃ s,
      Transition.run step (new 1) late_request = some s ∧ s.reader = .cleared ∧
        s.phase 0 = .awaiting ∧ s.oneshot 0 = .waiting := ⟨_, rfl, rfl, rfl, rfl⟩
  exact (h 1 late_request s hrun).2 hreader 0 hphase honeshot

end Runs

end WgpuRemote.Client
