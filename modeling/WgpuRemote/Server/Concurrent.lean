/-
Several streams on one engine.

`run_connection` runs one `handle_stream` for each stream, and all of them
dispatch on the same `Engine`. A step of the system takes one stream through the
next critical section of the action it has in hand. A create action that looks
something up goes through two, one to look up and one to insert, and a `Submit`
through one for each recording; between them the other streams go on.

A sequential explanation of what came out is a list of all the actions that
keeps the order of each stream, and that one engine, dispatching one action at a
time, answers the same and leaves with the same tables. There need not be one:
what an action has found in its first section may be gone when it is done, and
another stream may have seen both. There is one, in the order in which the
actions were finished, if no entry that an action reads is made or removed by
another stream while that action is in progress (`consistent_of_undisturbed`).
-/
import Mathlib.Logic.Function.Basic
import WgpuRemote.Lib.Transition
import WgpuRemote.Server.Sections

set_option autoImplicit false

namespace WgpuRemote.Server

open Bincode Footprint Transition
open Wgpu (Occ Obj Call Event Gpu)
open Prog (Mem Free Ends SameNames)

section Concurrent

variable [WgpuTypes]

/-! ## One action at a time -/

/-- An action of a stream, with the number its calls are named by. -/
structure Numbered where
  number : ℕ
  action : Action

/-- How an action was answered, and the calls it made. -/
structure Finished where
  response : Option Response
  events : List Event

/-- What has come of the actions finished so far. -/
structure Outcome (ι : Type) where
  tables : ResourceTables
  /-- The calls that take effect in their order. They are what wgpu answers a
  readback from. -/
  device : List Event
  served : ι → List Finished

/-- What wgpu answers. -/
def answer (gpu : Gpu) (device : List Event) : Occ → Call → Answer :=
  Engine.reply gpu ⟨ResourceTables.empty, device, 0⟩

/-- The calls of `events` that take effect in their order. -/
def device_calls (events : List Event) : List Event := events.filter fun ev => on_device ev.call

variable {ι : Type} [DecidableEq ι]

/-- One action of stream `i`, dispatched to its end. -/
def Outcome.serve (gpu : Gpu) (o : Outcome ι) (x : ι × Numbered) : Outcome ι :=
  let (response, m) := (handle x.2.action).run (answer gpu o.device) x.2.number ⟨o.tables, []⟩
  { tables := m.tables
    device := o.device ++ device_calls m.events
    served := Function.update o.served x.1 (o.served x.1 ++ [⟨response, m.events⟩]) }

/-! ## All streams at once -/

/-- An action in progress, at the start of one of its sections. -/
structure Running where
  item : Numbered
  rest : Prog (Option Response)
  events : List Event

/-- An action before its first section. -/
def Numbered.begin (x : Numbered) : Running := ⟨x, handle x.action, []⟩

/-- The engine, and where each stream is. -/
structure Streams (ι : Type) where
  outcome : Outcome ι
  todo : ι → List Numbered
  current : ι → Option Running

namespace Streams

def new (start : Outcome ι) (streams : ι → List Numbered) : Streams ι where
  outcome := start
  todo := streams
  current := fun _ => none

/-- What stream `i` goes on with, and what it has left after that. -/
def in_hand (s : Streams ι) (i : ι) : Option (Running × List Numbered) :=
  match s.current i, s.todo i with
  | some r, todo => some (r, todo)
  | none, x :: todo => some (x.begin, todo)
  | none, [] => none

/-- One critical section of stream `i`. -/
def step (gpu : Gpu) (s : Streams ι) (i : ι) : Option (Streams ι) :=
  match s.in_hand i with
  | none => none
  | some (r, todo) =>
      let o := s.outcome
      let (rest, m) := r.rest.advance (answer gpu o.device) r.item.number false ⟨o.tables, r.events⟩
      let device := o.device ++ device_calls (m.events.drop r.events.length)
      match rest with
      | .done response =>
          some
            { outcome :=
                { tables := m.tables, device
                  served := Function.update o.served i (o.served i ++ [⟨response, m.events⟩]) }
              todo := Function.update s.todo i todo
              current := Function.update s.current i none }
      | rest =>
          some
            { outcome := { tables := m.tables, device, served := o.served }
              todo := Function.update s.todo i todo
              current := Function.update s.current i (some ⟨r.item, rest, m.events⟩) }

/-- All actions are finished. -/
def finished (s : Streams ι) : Prop := ∀ i, s.todo i = [] ∧ s.current i = none

/-! ## The property -/

/-- The actions of stream `i` in a list of actions of all streams. -/
def actions_of (i : ι) (order : List (ι × Numbered)) : List Numbered :=
  (order.filter fun x => x.1 = i).map Prod.snd

/-- There is a sequential explanation. -/
def Consistent (gpu : Gpu) (start : Outcome ι) (streams : ι → List Numbered) (s : Streams ι) :
    Prop :=
  ∃ order : List (ι × Numbered), (∀ i, actions_of i order = streams i) ∧
    (order.foldl (Outcome.serve gpu) start).tables = s.outcome.tables ∧
    ∀ i, ((order.foldl (Outcome.serve gpu) start).served i).map Finished.response =
      (s.outcome.served i).map Finished.response

/-- The entry an action makes or removes. -/
def writes (a : Action) : Option Ref := a.creates.or (removes a)

/-- The action stream `i` goes on with makes and removes no entry that an action
in progress on another stream reads. -/
def Undisturbed (s : Streams ι) (i : ι) : Prop :=
  ∀ r todo, s.in_hand i = some (r, todo) → ∀ j, j ≠ i → ∀ other, s.current j = some other →
    ∀ ref ∈ other.item.action.reads, writes r.item.action ≠ some ref

end Streams

/-! ## An action in progress -/

/-- Finishing the action now comes to the same as doing all of it now, on any
tables with the entries it reads, and whatever the device has done. -/
structure InProgress (gpu : Gpu) (tables : ResourceTables) (r : Running) : Prop where
  ends : Ends r.item.action.reads r.rest
  quiet : device_calls r.events = []
  same : ∀ device t, AgreeOn r.item.action.reads tables t →
    r.rest.run (answer gpu device) r.item.number ⟨t, r.events⟩ =
      (handle r.item.action).run (answer gpu device) r.item.number ⟨t, []⟩

/-- An action that has just begun has all of its sections before it. -/
theorem InProgress.begin (gpu : Gpu) (tables : ResourceTables) (x : Numbered) :
    InProgress gpu tables x.begin where
  ends := ends_handle x.action
  quiet := rfl
  same _ _ _ := rfl

/-- Entries it does not read may change. -/
theorem InProgress.mono {gpu : Gpu} {tables tables' : ResourceTables} {r : Running}
    (h : InProgress gpu tables r) (hagree : AgreeOn r.item.action.reads tables tables') :
    InProgress gpu tables' r where
  ends := h.ends
  quiet := h.quiet
  same device t ht := h.same device t fun ref href => (hagree ref href).trans (ht ref href)

/-- What a gpu makes is named by the call, whatever the device has done before. -/
theorem same_names (gpu : Gpu) (device device' : List Event) :
    SameNames (answer gpu device) (answer gpu device') := fun _ _ => rfl

/-- The calls of one advance are added to those before. -/
theorem advance_events (reply : Occ → Call → Answer) (d : ℕ) {α : Type} (p : Prog α)
    (entered : Bool) (m : Mem) :
    ∃ evs, (p.advance reply d entered m).2.events = m.events ++ evs := by
  induction p generalizing entered m with
  | done a => exact ⟨[], (List.append_nil _).symm⟩
  | lock next ih =>
      rcases entered
      · exact ih m.tables true m
      · exact ⟨[], (List.append_nil _).symm⟩
  | store t next ih => exact ih entered { m with tables := t }
  | unlock next ih => exact ih entered m
  | add a b next ih => exact ih (a + b) entered m
  | call c next ih =>
      obtain ⟨evs, hevs⟩ := ih (reply (m.next_occ d) c) entered (m.log d c)
      refine ⟨⟨m.next_occ d, c⟩ :: evs, ?_⟩
      rw [Mem.log_events, List.append_assoc] at hevs
      exact hevs

/-- One section of an action in progress: it is finished, as if all of it had
been done now, or it is still in progress and nothing has happened. -/
theorem InProgress.advance {gpu : Gpu} {tables : ResourceTables} {r : Running}
    (h : InProgress gpu tables r) (device : List Event) :
    let out := r.rest.advance (answer gpu device) r.item.number false ⟨tables, r.events⟩
    (∃ response, out.1 = .done response ∧
        (handle r.item.action).run (answer gpu device) r.item.number ⟨tables, []⟩ =
          (response, out.2) ∧
        device_calls (out.2.events.drop r.events.length) = device_calls out.2.events) ∨
      ∃ next, out.1 = .lock next ∧ out.2.tables = tables ∧
        device_calls (out.2.events.drop r.events.length) = [] ∧
        InProgress gpu tables ⟨r.item, .lock next, out.2.events⟩ := by
  intro out
  have hrun := Prog.run_advance (answer gpu device) r.item.number r.rest false ⟨tables, r.events⟩
  -- the action ends here, or pauses before its next section
  rcases Prog.advance_ends h.ends (answer gpu device) r.item.number false ⟨tables, r.events⟩ with
    ⟨response, hdone⟩ | ⟨next, evs, hadv, hends, hquiet, hsame⟩
  · refine Or.inl ⟨response, hdone, ?_, ?_⟩
    · rw [← h.same device tables fun _ _ => rfl, ← hrun, hdone]
      rfl
    · obtain ⟨evs, hevs⟩ := advance_events (answer gpu device) r.item.number r.rest false
        ⟨tables, r.events⟩
      have hevs' : out.2.events = r.events ++ evs := hevs
      have hquiet := h.quiet
      unfold device_calls at hquiet ⊢
      rw [hevs', List.drop_left, List.filter_append, hquiet]
      rfl
  · have hout : out = (.lock next, ⟨tables, r.events ++ evs⟩) := hadv
    -- what pauses has not been to the queue
    have hnone : device_calls evs = [] := by
      refine List.filter_eq_nil_iff.mpr fun ev hev => ?_
      rw [hquiet ev hev]
      exact Bool.false_ne_true
    refine Or.inr ⟨next, by rw [hout], by rw [hout], ?_, ?_⟩
    · rw [hout, List.drop_left]
      exact hnone
    · rw [hout]
      refine ⟨hends, ?_, fun device' t hagree => ?_⟩
      · have hbefore := h.quiet
        unfold device_calls at hbefore hnone ⊢
        rw [List.filter_append, hbefore, hnone]
        rfl
      · -- the same sections, run on `t` in one go
        have hthere := hsame (answer gpu device') t (same_names gpu device device') hagree
        have hrun' := Prog.run_advance (answer gpu device') r.item.number r.rest false ⟨t, r.events⟩
        rw [hthere] at hrun'
        exact hrun'.trans (h.same device' t hagree)

/-- An action leaves the entries alone that it neither makes nor removes. -/
theorem handle_keeps (gpu : Gpu) (device : List Event) (x : Numbered) (t : ResourceTables) {ref : Ref}
    (h : Streams.writes x.action ≠ some ref) :
    ((handle x.action).run (answer gpu device) x.number ⟨t, []⟩).2.tables ref = t ref := by
  have htables := handle_tables gpu ⟨t, device, x.number⟩ x.action
  have hkeeps : (effect x.number x.action).apply t ref = t ref := by
    refine Store.Op.apply_of_not_touches ?_ t
    unfold Streams.writes at h
    unfold effect
    -- an action writes the entry it makes or the one it removes
    rcases hc : x.action.creates with _ | made
    · rw [hc, Option.none_or] at h
      rcases hr : removes x.action with _ | gone
      · exact id
      · rintro rfl
        exact h hr
    · rw [hc] at h
      rintro rfl
      exact h rfl
  show ((⟨t, device, x.number⟩ : Engine).handle gpu x.action).2.tables ref = t ref
  rw [htables]
  unfold outcome
  split
  · rfl
  · exact hkeeps

namespace Streams

variable {gpu : Gpu} {start : Outcome ι} {streams : ι → List Numbered} {s s' : Streams ι}

/-! ## The order in which the actions finish -/

/-- The finished actions explain what has come of them, in the order in which
they were finished, and the others are at liberty to finish as if they had not
begun yet. -/
structure Explained (gpu : Gpu) (start : Outcome ι) (streams : ι → List Numbered)
    (order : List (ι × Numbered)) (s : Streams ι) : Prop where
  kept : ∀ i, actions_of i order ++ ((s.current i).map Running.item).toList ++ s.todo i = streams i
  outcome : order.foldl (Outcome.serve gpu) start = s.outcome
  current : ∀ i r, s.current i = some r → InProgress gpu s.outcome.tables r

theorem explained_new : Explained gpu start streams [] (new start streams) where
  kept _ := rfl
  outcome := rfl
  current _ _ h := absurd h (by simp [new])

/-- What a stream goes on with. -/
theorem Explained.in_hand {order : List (ι × Numbered)} (h : Explained gpu start streams order s)
    {i : ι} {r : Running} {todo : List Numbered} (hr : s.in_hand i = some (r, todo)) :
    actions_of i order ++ r.item :: todo = streams i ∧ InProgress gpu s.outcome.tables r := by
  have hkept := h.kept i
  unfold Streams.in_hand at hr
  split at hr
  · rename_i r' hcurrent
    obtain ⟨rfl, rfl⟩ := Prod.mk.inj (Option.some.inj hr)
    rw [hcurrent] at hkept
    refine ⟨?_, h.current i _ hcurrent⟩
    rw [← hkept, List.append_assoc]
    rfl
  · rename_i x todo' hcurrent htodo
    obtain ⟨rfl, rfl⟩ := Prod.mk.inj (Option.some.inj hr)
    rw [hcurrent, htodo] at hkept
    refine ⟨?_, InProgress.begin gpu _ x⟩
    rw [← hkept, List.append_assoc]
    rfl
  · exact absurd hr (by simp)

/-- One more action in an order is one more of its own stream. -/
theorem actions_of_snoc (i j : ι) (order : List (ι × Numbered)) (x : Numbered) :
    actions_of i (order ++ [(j, x)]) = if j = i then actions_of i order ++ [x] else actions_of i order := by
  unfold actions_of
  rw [List.filter_append, List.map_append]
  by_cases hij : j = i
  · simp [hij]
  · simp [hij]

/-- What a section of a stream does: it finishes the action in hand, and that
comes to the same as serving all of it now, or it only looks. -/
theorem Explained.step_cases {order : List (ι × Numbered)} (h : Explained gpu start streams order s)
    {i : ι} (hstep : s.step gpu i = some s') :
    ∃ r todo, s.in_hand i = some (r, todo) ∧ actions_of i order ++ r.item :: todo = streams i ∧
      (s' = { outcome := s.outcome.serve gpu (i, r.item)
              todo := Function.update s.todo i todo
              current := Function.update s.current i none } ∨
        ∃ r', r'.item = r.item ∧ InProgress gpu s.outcome.tables r' ∧
          s' = { outcome := s.outcome
                 todo := Function.update s.todo i todo
                 current := Function.update s.current i (some r') }) := by
  unfold Streams.step at hstep
  rcases hhand : s.in_hand i with _ | ⟨r, todo⟩
  · rw [hhand] at hstep
    exact absurd hstep (by simp)
  rw [hhand] at hstep
  obtain ⟨hkept, hprogress⟩ := h.in_hand hhand
  refine ⟨r, todo, rfl, hkept, ?_⟩
  rcases hprogress.advance s.outcome.device with
    ⟨response, hdone, hrun, hdevice⟩ | ⟨next, hlock, htables, hdevice, hstill⟩
  · refine Or.inl ?_
    dsimp only at hstep hdone
    rw [hdone] at hstep
    rw [← Option.some.inj hstep]
    unfold Outcome.serve
    rw [hrun, hdevice]
  · refine Or.inr ⟨⟨r.item, .lock next, _⟩, rfl, hstill, ?_⟩
    dsimp only at hstep hlock htables hdevice
    rw [hlock] at hstep
    rw [← Option.some.inj hstep, htables, hdevice, List.append_nil]

/-- The action is finished: it comes last in the order. -/
theorem Explained.finish {order : List (ι × Numbered)} (h : Explained gpu start streams order s)
    {i : ι} {r : Running} {todo : List Numbered} (hok : Undisturbed s i)
    (hhand : s.in_hand i = some (r, todo))
    (hkept : actions_of i order ++ r.item :: todo = streams i) :
    Explained gpu start streams (order ++ [(i, r.item)])
      { outcome := s.outcome.serve gpu (i, r.item)
        todo := Function.update s.todo i todo
        current := Function.update s.current i none } where
  kept := by
    intro j
    dsimp only
    rw [actions_of_snoc]
    by_cases hij : j = i
    · subst hij
      rw [if_pos rfl, Function.update_self, Function.update_self, ← hkept]
      simp
    · rw [if_neg (Ne.symm hij), Function.update_of_ne hij, Function.update_of_ne hij]
      exact h.kept j
  outcome := by
    rw [List.foldl_append, h.outcome]
    rfl
  current := by
    intro j other hother
    dsimp only at hother ⊢
    by_cases hij : j = i
    · subst hij
      rw [Function.update_self] at hother
      exact absurd hother (by simp)
    · -- the entries it has changed are read by nobody else
      rw [Function.update_of_ne hij] at hother
      apply (h.current j other hother).mono
      intro ref href
      exact (handle_keeps gpu s.outcome.device r.item s.outcome.tables
        (hok r todo hhand j hij other hother ref href)).symm

/-- The action is still in progress: nothing has happened. -/
theorem Explained.look {order : List (ι × Numbered)} (h : Explained gpu start streams order s)
    {i : ι} {r : Running} {todo : List Numbered}
    (hkept : actions_of i order ++ r.item :: todo = streams i)
    (hprogress : InProgress gpu s.outcome.tables r) :
    Explained gpu start streams order
      { outcome := s.outcome
        todo := Function.update s.todo i todo
        current := Function.update s.current i (some r) } where
  kept := by
    intro j
    dsimp only
    by_cases hij : j = i
    · subst hij
      rw [Function.update_self, Function.update_self, ← hkept, List.append_assoc]
      rfl
    · rw [Function.update_of_ne hij, Function.update_of_ne hij]
      exact h.kept j
  outcome := h.outcome
  current := by
    intro j other hother
    dsimp only at hother ⊢
    by_cases hij : j = i
    · subst hij
      rw [Function.update_self] at hother
      rw [← Option.some.inj hother]
      exact hprogress
    · rw [Function.update_of_ne hij] at hother
      exact h.current j other hother

/-- **One section** of an undisturbed stream. -/
theorem Explained.step {order : List (ι × Numbered)} (h : Explained gpu start streams order s)
    {i : ι} (hok : Undisturbed s i) (hstep : s.step gpu i = some s') :
    ∃ order', Explained gpu start streams order' s' := by
  obtain ⟨r, todo, hhand, hkept, rfl | ⟨r', hitem, hprogress, rfl⟩⟩ := h.step_cases hstep
  · exact ⟨_, h.finish hok hhand hkept⟩
  · rw [← hitem] at hkept
    exact ⟨order, h.look hkept hprogress⟩

/-- **Undisturbed streams are sequentially consistent**: however the sections of
their actions are interleaved, doing the actions one at a time, in the order in
which they were finished, comes to the same. -/
theorem consistent_of_undisturbed (gpu : Gpu) (start : Outcome ι) (streams : ι → List Numbered)
    (labels : List ι) (s : Streams ι)
    (hrun : Transition.run (step gpu) (new start streams) labels = some s)
    (hundisturbed : Guarded (step gpu) Undisturbed (new start streams) labels)
    (hfinished : s.finished) : Consistent gpu start streams s := by
  obtain ⟨order, h⟩ : ∃ order, Explained gpu start streams order s := by
    have hstep : ∀ (s : Streams ι) i s', (∃ order, Explained gpu start streams order s) →
        s.Undisturbed i → step gpu s i = some s' →
        ∃ order, Explained gpu start streams order s' := by
      rintro s i s' ⟨order, h⟩ hok hstep
      exact h.step hok hstep
    exact guarded_invariant (step gpu) hstep ⟨[], explained_new⟩ hundisturbed hrun
  refine ⟨order, fun i => ?_, ?_, fun i => ?_⟩
  · obtain ⟨htodo, hcurrent⟩ := hfinished i
    have hkept := h.kept i
    rw [htodo, hcurrent] at hkept
    simpa using hkept
  · rw [h.outcome]
  · rw [h.outcome]

end Streams

end Concurrent

/-! ## A bind group between its sections -/

section Runs

attribute [local instance] WgpuTypes.numeric

/-- An engine with a buffer and a bind group layout. -/
def with_buffer_and_layout : Outcome Bool where
  tables := (ResourceTables.empty.insert (⟨1⟩ : BufferId) ⟨⟨0, 0⟩⟩).insert
    (⟨1⟩ : BindGroupLayoutId) ⟨⟨1, 0⟩⟩
  device := []
  served := fun _ => []

/-- A compute pass that sets bind group `1`. -/
def uses_group : Bytes := [0, 1, 4, 0, 1, 1, 0, 1, 0]

/-- Make a bind group of the buffer. -/
def make_group : Numbered := ⟨2, .CreateBindGroup ⟨1⟩ ⟨none, ⟨1⟩, [⟨0, .Buffer ⟨1⟩ 0 none⟩]⟩⟩

/-- Destroy the buffer. -/
def drop_buffer : Numbered := ⟨3, .Destroy (.Buffer ⟨1⟩)⟩

/-- Submit work with the bind group. -/
def submit_group : Numbered := ⟨4, .Submit [uses_group]⟩

/-- One stream does the first, the other one the two others. -/
def make_and_use : Bool → List Numbered
  | true => [make_group]
  | false => [drop_buffer, submit_group]

/-- Make a second buffer. -/
def second_buffer : Numbered := ⟨5, .CreateBuffer ⟨2⟩ ⟨none, 8, (9 : UInt32), false⟩⟩

/-- One stream makes the bind group, the other one the second buffer. -/
def make_and_make : Bool → List Numbered
  | true => [make_group]
  | false => [second_buffer]

/-- The second buffer is made between the sections of the bind group, which does
not read it. -/
theorem overlapping_makes_consistent :
    ∃ s1 s, run (Streams.step idle_gpu) (Streams.new with_buffer_and_layout make_and_make)
        [true] = some s1 ∧ (s1.current true).isSome = true ∧
      run (Streams.step idle_gpu) s1 [false, true] = some s ∧
      Streams.Consistent idle_gpu with_buffer_and_layout make_and_make s := by
  refine ⟨_, _, rfl, rfl, rfl, Streams.consistent_of_undisturbed idle_gpu with_buffer_and_layout
    make_and_make [true, false, true] _ rfl ?_ ?_⟩
  · -- before the first step and at the last one nothing is in progress on the other stream
    have halone : ∀ (s : Streams Bool) (i : Bool), s.current (!i) = none → s.Undisturbed i := by
      intro s i hnone r todo _ j hj other hother
      rw [show j = !i from Bool.eq_not_of_ne hj, hnone] at hother
      exact absurd hother (by simp)
    refine Guarded.cons _ rfl (halone _ true rfl)
      (Guarded.cons _ rfl ?_ (Guarded.cons _ rfl (halone _ true rfl) trivial))
    -- in between, the bind group is, and reads its layout and the first buffer
    intro r todo hhand j hj other hother
    obtain rfl : j = true := Bool.eq_not_of_ne hj
    obtain ⟨rfl, -⟩ := Prod.mk.inj (Option.some.inj hhand)
    rw [← Option.some.inj hother]
    exact (by decide :
      ∀ ref ∈ make_group.action.reads, Streams.writes second_buffer.action ≠ some ref)
  · intro i
    rcases i
    · exact ⟨rfl, rfl⟩
    · exact ⟨rfl, rfl⟩

/-- One action of a stream and two of another one. -/
theorem orders_of_three {order : List (Bool × Numbered)} {a b c : Numbered}
    (htrue : Streams.actions_of true order = [a]) (hfalse : Streams.actions_of false order = [b, c]) :
    order = [(true, a), (false, b), (false, c)] ∨ order = [(false, b), (true, a), (false, c)] ∨
      order = [(false, b), (false, c), (true, a)] := by
  rcases order with _ | ⟨⟨_ | _, x⟩, _ | ⟨⟨_ | _, y⟩, _ | ⟨⟨_ | _, z⟩, _ | ⟨⟨_ | _, w⟩, rest⟩⟩⟩⟩
  all_goals simp [Streams.actions_of] at htrue hfalse
  all_goals simp_all

/-- **No order explains this one**: the bind group is made of the buffer, the
buffer is destroyed, the submission does not find the bind group, and then the
bind group is there. -/
theorem bind_group_unexplained :
    ¬ ∀ (gpu : Gpu) (start : Outcome Bool) (streams : Bool → List Numbered) (labels : List Bool)
      (s : Streams Bool), run (Streams.step gpu) (Streams.new start streams) labels = some s →
        s.finished → Streams.Consistent gpu start streams s := by
  intro h
  obtain ⟨s, hrun, hfinished, hmade, hused⟩ : ∃ s,
      run (Streams.step idle_gpu) (Streams.new with_buffer_and_layout make_and_use)
        [true, false, false, true] = some s ∧ s.finished ∧
      (s.outcome.served true).map Finished.response = [some .Ok] ∧
      (s.outcome.served false).map Finished.response =
        [some .Ok, some (unknown "BindGroupId" 1)] := by
    refine ⟨_, rfl, fun i => ?_, rfl, rfl⟩
    rcases i
    · exact ⟨rfl, rfl⟩
    · exact ⟨rfl, rfl⟩
  obtain ⟨order, hkept, -, hresponses⟩ :=
    h idle_gpu with_buffer_and_layout make_and_use _ s hrun hfinished
  have hfirst := (hresponses true).trans hmade
  have hsecond := (hresponses false).trans hused
  -- the bind group is made before both, between them, or after them
  rcases orders_of_three (hkept true) (hkept false) with rfl | rfl | rfl
  · -- then the submission finds it
    have hfound : ((List.foldl (Outcome.serve idle_gpu) with_buffer_and_layout
        [(true, make_group), (false, drop_buffer), (false, submit_group)]).served false).map
          Finished.response = [some .Ok, some .Ok] := rfl
    rw [hfound] at hsecond
    exact absurd hsecond (by simp [unknown])
  · -- then the buffer is gone
    have hgone : ((List.foldl (Outcome.serve idle_gpu) with_buffer_and_layout
        [(false, drop_buffer), (true, make_group), (false, submit_group)]).served true).map
          Finished.response = [some (unknown "BufferId" 1)] := rfl
    rw [hgone] at hfirst
    exact absurd hfirst (by simp [unknown])
  · have hgone : ((List.foldl (Outcome.serve idle_gpu) with_buffer_and_layout
        [(false, drop_buffer), (false, submit_group), (true, make_group)]).served true).map
          Finished.response = [some (unknown "BufferId" 1)] := rfl
    rw [hgone] at hfirst
    exact absurd hfirst (by simp [unknown])

end Runs

end WgpuRemote.Server
