/-
The server, one operation at a time.

`run_connection` spawns a task for each stream, and each task is a
`handle_stream`: it takes the next frame, dispatches it on the engine they all
share, and writes the answer. Here a step of the system is one operation of one
task: taking or dropping the tables mutex, an assignment through the guard, a wgpu
call, an addition, or what lies between two frames. A wgpu call may panic instead;
the task is gone then, and its guard, if it has one, is dropped and poisons the
mutex.

In every run of this system no two tasks have a guard at a time, no task has one
while it waits for the GPU, and the tasks serve their frames in order, none lost
and none twice, and answer each under its own request id. No run is longer than
what its frames take together, and it never stops before all tasks are done:
short of a panic or of an answer too long for a frame, every frame of every stream
is served (`streams_served`).
-/
import WgpuRemote.Lib.Mutex
import WgpuRemote.Server.Concurrent
import WgpuRemote.Server.Guards
import WgpuRemote.Server.Handler

set_option autoImplicit false

namespace WgpuRemote.Server

open Bincode Transition
open Wgpu (Occ Obj Call Event Gpu)
open Mutex (Next Stuck Inv Disciplined)

section Tasks

variable [WgpuTypes]

/-- A frame of a stream, with the number its calls are named by. -/
structure Ticket where
  number : ℕ
  frame : Frame

/-- A frame that is being dispatched. -/
structure InHand where
  ticket : Ticket
  rest : Prog (Option ResponseFrame)
  events : List Event

/-- How a task ended before its stream did. -/
inductive Exit where
  | panicked
  /-- `encode_frame` failed on an answer. -/
  | failed (error : CodecError)

/-- The task of a stream. -/
structure Task where
  todo : List Ticket
  current : Option InHand
  /-- A guard of the tables is alive. -/
  guard : Bool
  /-- The frames dispatched so far, and what came back. No code looks at them. -/
  served : List (Ticket × Option ResponseFrame)
  /-- What was written to the send stream. -/
  tx : List Bytes
  exit : Option Exit

/-- What the tasks share: the tables, and the calls wgpu answers a readback from. -/
structure Backend where
  tables : ResourceTables
  device : List Event

namespace Task

/-- The task of a stream nothing was read from yet. -/
def new (stream : List Ticket) : Task := ⟨stream, none, false, [], [], none⟩

/-- Go on with `rest`. -/
def go (t : Task) (h : InHand) (rest : Prog (Option ResponseFrame)) : Task :=
  { t with current := some { h with rest } }

/-- The task panics. -/
def panic (t : Task) : Task := { t with guard := false, exit := some .panicked }

/-- Take the next frame. -/
def take (t : Task) (x : Ticket) (todo : List Ticket) : Task :=
  { t with todo, current := some ⟨x, dispatch x.frame, []⟩ }

/-- `encode_frame` and `write_all`, if there is an answer. -/
def write (t : Task) : Option ResponseFrame → Task
  | none => t
  | some response =>
      match encode_frame Wire.response_frame response with
      | .error e => { t with exit := some (.failed e) }
      | .ok bytes => { t with tx := t.tx ++ [bytes] }

/-- The frame in hand is dispatched, and answered. -/
def answer (t : Task) (h : InHand) (response : Option ResponseFrame) : Task :=
  { t with current := none, served := t.served ++ [(h.ticket, response)] }.write response

/-- The next operation of the frame in hand. -/
def operation (gpu : Gpu) (t : Task) (h : InHand) :
    Prog (Option ResponseFrame) → Next Backend Task
  | .done response => .act (fun b => (b, t.answer h response)) none
  | .lock next => .acquire (fun b => { t.go h (next b.tables) with guard := true }) t.panic
  | .store tables next => .act (fun b => ({ b with tables }, t.go h next)) none
  | .unlock next => .release { t.go h next with guard := false }
  | .call c next =>
      let occ : Occ := ⟨h.ticket.number, h.events.length⟩
      .act
        (fun b =>
          ({ b with device := b.device ++ device_calls [⟨occ, c⟩] },
            t.go { h with events := h.events ++ [⟨occ, c⟩] } (next (Server.answer gpu b.device occ c))))
        (some t.panic)
  | .add x y next => .act (fun b => (b, t.go h (next (x + y)))) none

/-- What the task does next. -/
def next (gpu : Gpu) (t : Task) : Next Backend Task :=
  match t.exit, t.current, t.todo with
  | some _, _, _ => .finish
  | none, some h, _ => t.operation gpu h h.rest
  | none, none, x :: todo => .act (fun b => (b, t.take x todo)) none
  | none, none, [] => .finish

/-- The task is in a call that waits. -/
def waiting (t : Task) : Bool :=
  match t.current with
  | some ⟨_, .call c _, _⟩ => waits c
  | _ => false

end Task

/-- The server, with nothing read yet. -/
def start {ι : Type} (tables : ResourceTables) (device : List Event) (streams : ι → List Ticket) :
    Mutex.State ι Backend Task where
  shared := ⟨tables, device⟩
  holder := none
  poisoned := false
  threads i := Task.new (streams i)

/-! ## The books of a task -/

/-- What is written for a frame that was served. -/
def written (p : Ticket × Option ResponseFrame) : Option Bytes :=
  p.2.bind fun response => (encode_frame Wire.response_frame response).toOption

/-- Writing an answer is no more than that. -/
theorem Task.write_same (t : Task) (response : Option ResponseFrame) :
    (t.write response).current = t.current ∧ (t.write response).todo = t.todo ∧
      (t.write response).guard = t.guard ∧ (t.write response).served = t.served := by
  unfold write
  rcases response with _ | response
  · exact ⟨rfl, rfl, rfl, rfl⟩
  · rcases hencode : encode_frame Wire.response_frame response with e | bytes
    · simp only [hencode, and_self]
    · simp only [hencode, and_self]

/-- An answer is written if it encodes, and nothing is written otherwise. -/
theorem Task.write_tx (t : Task) (x : Ticket) (response : Option ResponseFrame) :
    (t.write response).tx = t.tx ++ (written (x, response)).toList := by
  unfold write written
  rcases response with _ | response
  · exact (List.append_nil _).symm
  · rw [Option.bind_some]
    rcases hencode : encode_frame Wire.response_frame response with e | bytes
    · simp only [hencode]
      exact (List.append_nil _).symm
    · simp only [hencode]
      rfl

/-- A task fails on an answer that does not encode. -/
theorem Task.write_failed {t : Task} {response : Option ResponseFrame} {e : CodecError}
    (hexit : t.exit = none) (he : (t.write response).exit = some (.failed e)) :
    ∃ frame, response = some frame ∧ encode_frame Wire.response_frame frame = .error e := by
  unfold write at he
  rcases response with _ | frame
  · rw [hexit] at he
    cases he
  · refine ⟨frame, rfl, ?_⟩
    rcases hencode : encode_frame Wire.response_frame frame with e' | bytes
    · simp only [hencode] at he
      rw [Exit.failed.inj (Option.some.inj he)]
    · simp only [hencode] at he
      rw [hexit] at he
      cases he

/-- The frames of a stream that were served, the one in hand and those to come
are the stream. Each was answered as it asked, and what was written are the
answers in order; there is one more, and it does not encode, if the task failed. -/
structure Task.Accounts (stream : List Ticket) (t : Task) : Prop where
  frames : t.served.map Prod.fst ++ (t.current.map InHand.ticket).toList ++ t.todo = stream
  ids : ∀ p ∈ t.served, p.2.map ResponseFrame.request_id = p.1.frame.request_id
  tx : t.tx = t.served.filterMap written
  failed : ∀ e, t.exit = some (.failed e) → ∃ p ∈ t.served, ∃ response, p.2 = some response ∧
    encode_frame Wire.response_frame response = .error e
  rest : ∀ h ∈ t.current, h.rest.EndsWith fun r =>
    r.map ResponseFrame.request_id = h.ticket.frame.request_id

namespace Task.Accounts

variable {stream : List Ticket} {t : Task} {h : InHand}

theorem new (stream : List Ticket) : (Task.new stream).Accounts stream where
  frames := rfl
  ids _ hp := absurd hp List.not_mem_nil
  tx := rfl
  failed e he := by cases he
  rest h hh := by cases hh

/-- An operation changes the program only. -/
theorem go (ha : t.Accounts stream) (hcur : t.current = some h) (x : InHand)
    (hticket : x.ticket = h.ticket) {rest : Prog (Option ResponseFrame)}
    (hrest : rest.EndsWith fun r => r.map ResponseFrame.request_id = h.ticket.frame.request_id) :
    (t.go x rest).Accounts stream where
  frames := by
    rw [← ha.frames, hcur]
    show _ ++ [x.ticket] ++ _ = _ ++ [h.ticket] ++ _
    rw [hticket]
    rfl
  ids := ha.ids
  tx := ha.tx
  failed := ha.failed
  rest y hy := by
    rw [← Option.some.inj hy]
    show rest.EndsWith _
    rw [hticket]
    exact hrest

theorem guarded (ha : t.Accounts stream) (guard : Bool) :
    ({ t with guard } : Task).Accounts stream :=
  ⟨ha.frames, ha.ids, ha.tx, ha.failed, ha.rest⟩

/-- A panic drops the frame in hand from no account: it stays the one in hand. -/
theorem panic (ha : t.Accounts stream) : t.panic.Accounts stream where
  frames := ha.frames
  ids := ha.ids
  tx := ha.tx
  failed e he := by cases he
  rest := ha.rest

/-- A frame moves from those to come into the task's hand. -/
theorem take (ha : t.Accounts stream) (hcur : t.current = none) {x : Ticket} {todo : List Ticket}
    (htodo : t.todo = x :: todo) : (t.take x todo).Accounts stream where
  frames := by
    rw [← ha.frames, hcur, htodo]
    show _ ++ [x] ++ todo = _ ++ [] ++ x :: todo
    rw [List.append_nil, List.append_assoc]
    rfl
  ids := ha.ids
  tx := ha.tx
  failed := ha.failed
  rest h hh := by
    rw [← Option.some.inj hh]
    exact dispatch_ends x.frame

/-- An answered frame moves to those served, with an answer that carries its id if it has one.
-/
theorem answer (ha : t.Accounts stream) (hcur : t.current = some h) (hexit : t.exit = none)
    {response : Option ResponseFrame}
    (hid : response.map ResponseFrame.request_id = h.ticket.frame.request_id) :
    (t.answer h response).Accounts stream where
  frames := by
    obtain ⟨hcurrent, htodo, -, hserved⟩ := write_same _ response
    rw [Task.answer, hserved, hcurrent, htodo, ← ha.frames, hcur, List.map_append]
    show _ ++ [h.ticket] ++ [] ++ t.todo = _ ++ [h.ticket] ++ t.todo
    rw [List.append_nil]
  ids p hp := by
    -- the frames served before carried their ids, and this answer carries its own
    obtain ⟨-, -, -, hserved⟩ := write_same _ response
    rw [Task.answer, hserved] at hp
    rcases List.mem_append.mp hp with hp | hp
    · exact ha.ids p hp
    · rw [List.mem_singleton.mp hp]
      exact hid
  tx := by
    obtain ⟨-, -, -, hserved⟩ := write_same _ response
    rw [Task.answer, write_tx _ h.ticket, hserved, List.filterMap_append, ← ha.tx]
    show t.tx ++ _ = t.tx ++ _
    -- an answer that does not encode is not written
    rcases hwritten : written (h.ticket, response) with _ | bytes
    · simp [hwritten]
    · simp [hwritten]
  failed e he := by
    obtain ⟨-, -, -, hserved⟩ := write_same _ response
    rw [Task.answer, hserved]
    obtain ⟨frame, hframe, hencode⟩ := write_failed (t := { t with
      current := none
      served := t.served ++ [(h.ticket, response)] }) hexit he
    exact ⟨_, List.mem_append_right _ (List.mem_singleton_self _), frame, hframe, hencode⟩
  rest h' hh' := by
    rw [Task.answer, (write_same _ response).1] at hh'
    cases hh'

/-- **The books are right** whatever a task does next. -/
theorem leads (gpu : Gpu) (ha : t.Accounts stream) : (t.next gpu).Leads (Accounts stream) := by
  unfold Task.next
  rcases hexit : t.exit with _ | e
  -- no frame in hand: the next one is taken, if there is one
  · rcases hcur : t.current with _ | h
    · rcases htodo : t.todo with _ | ⟨x, todo⟩
      · trivial
      · exact ⟨fun _ => ha.take hcur htodo, fun _ hnone => by cases hnone⟩
    -- the frame in hand goes on by one operation
    · have hrest := ha.rest h hcur
      show (t.operation gpu h h.rest).Leads (Accounts stream)
      rcases hprog : h.rest with response | next | ⟨tables, next⟩ | next | ⟨c, next⟩ | ⟨x, y, next⟩
      · rw [hprog] at hrest
        exact ⟨fun _ => ha.answer hcur hexit hrest, fun _ hnone => by cases hnone⟩
      · rw [hprog] at hrest
        exact ⟨fun b => (ha.go hcur h rfl (hrest b.tables)).guarded true, ha.panic⟩
      · rw [hprog] at hrest
        exact ⟨fun _ => ha.go hcur h rfl hrest, fun _ hnone => by cases hnone⟩
      · rw [hprog] at hrest
        show ({ t.go h next with guard := false } : Task).Accounts stream
        exact (ha.go hcur h rfl (show next.EndsWith _ from hrest)).guarded false
      · rw [hprog] at hrest
        refine ⟨fun b => ha.go hcur ⟨h.ticket, h.rest, h.events ++ [_]⟩ rfl (hrest _),
          fun dead hdead => ?_⟩
        rw [← Option.some.inj hdead]
        exact ha.panic
      · rw [hprog] at hrest
        exact ⟨fun _ => ha.go hcur h rfl (hrest _), fun _ hnone => by cases hnone⟩
  · trivial

end Task.Accounts

/-! ## The discipline of a task -/

/-- Steps for a frame: to take it, to dispatch it, to answer it. -/
def Ticket.work (x : Ticket) : ℕ := action_work x.frame.action + 2

/-- Steps for a stream. -/
def stream_work (stream : List Ticket) : ℕ := (stream.map Ticket.work).sum

/-- The task uses its guards in pairs, and has at most `n` steps to go. -/
def Task.Within (n : ℕ) (t : Task) : Prop :=
  match t.exit, t.current with
  | some _, _ => t.guard = false
  | none, none => t.guard = false ∧ stream_work t.todo ≤ n
  | none, some h => ∃ m, Paired false t.guard m h.rest ∧ m + 1 + stream_work t.todo ≤ n

namespace Task

variable {n : ℕ} {t : Task} {h : InHand}

/-- Between two frames. -/
theorem within_idle (hcur : t.current = none) (hguard : t.guard = false)
    (hwork : stream_work t.todo ≤ n) : t.Within n := by
  unfold Within
  rcases t.exit with _ | e
  · rw [hcur]
    exact ⟨hguard, hwork⟩
  · exact hguard

/-- With a frame in hand. -/
theorem within_busy (hexit : t.exit = none) (hcur : t.current = some h) {m : ℕ}
    (hpaired : Paired false t.guard m h.rest) (hwork : m + 1 + stream_work t.todo ≤ n) :
    t.Within n := by
  unfold Within
  rw [hexit, hcur]
  exact ⟨m, hpaired, hwork⟩

/-- After a panic. -/
theorem within_panic (t : Task) : t.panic.Within n := by
  unfold Within
  exact rfl

/-- After an answer, which may have failed. -/
theorem within_answer (hguard : t.guard = false) (response : Option ResponseFrame) :
    (t.answer h response).Within (stream_work t.todo) := by
  obtain ⟨hcurrent, htodo, hsame, -⟩ := write_same
    { t with current := none, served := t.served ++ [(h.ticket, response)] } response
  refine within_idle hcurrent ?_ ?_
  · rw [answer, hsame]
    exact hguard
  · rw [answer, htodo]

/-- The operations of a dispatch are disciplined. -/
theorem operation_keeps (gpu : Gpu) (hexit : t.exit = none) {m : ℕ}
    (hpaired : Paired false t.guard m h.rest) (hwork : m + 1 + stream_work t.todo ≤ n) :
    (t.operation gpu h h.rest).Keeps Task.guard Within t.guard n := by
  -- no operation but a lock and a call can panic
  have hnone : ∀ P : Task → Prop, ∀ t ∈ (none : Option Task), P t := fun _ _ ht => by cases ht
  rcases hprog : h.rest with response | next | ⟨tables, next⟩ | next | ⟨c, next⟩ | ⟨x, y, next⟩
  · rw [hprog] at hpaired
    have hguard := hpaired.done_inv
    have hsame := (write_same { t with
      current := none
      served := t.served ++ [(h.ticket, response)] } response).2.2.1
    exact ⟨fun _ => hsame, hnone _, _, by omega, fun _ => within_answer hguard response, hnone _⟩
  -- the lock is taken with the guard free
  · rw [hprog] at hpaired
    obtain ⟨hguard, k, rfl, hnext⟩ := hpaired.lock_inv
    refine ⟨hguard, rfl, fun _ => rfl, k + 1 + stream_work t.todo, by omega, fun b => ?_,
      within_panic t⟩
    exact within_busy hexit rfl (hnext b.tables) (Nat.le_refl _)
  -- a store and an unlock come with the guard held
  · rw [hprog] at hpaired
    obtain ⟨hguard, k, rfl, hnext⟩ := hpaired.store_inv
    refine ⟨fun _ => rfl, hnone _, k + 1 + stream_work t.todo, by omega, fun _ => ?_, hnone _⟩
    exact within_busy hexit rfl (hguard ▸ hnext) (Nat.le_refl _)
  · rw [hprog] at hpaired
    obtain ⟨hguard, k, rfl, hnext⟩ := hpaired.unlock_inv
    refine ⟨hguard, rfl, k + 1 + stream_work t.todo, by omega, ?_⟩
    exact within_busy hexit rfl hnext (Nat.le_refl _)
  -- a call keeps the guard, and the task panics with it or without it
  · rw [hprog] at hpaired
    obtain ⟨-, k, rfl, hnext⟩ := hpaired.call_inv
    refine ⟨fun _ => rfl, fun dead hdead => ?_, k + 1 + stream_work t.todo, by omega,
      fun _ => ?_, fun dead hdead => ?_⟩
    · rw [← Option.some.inj hdead]
      rfl
    · exact within_busy hexit rfl (hnext _) (Nat.le_refl _)
    · rw [← Option.some.inj hdead]
      exact within_panic t
  · rw [hprog] at hpaired
    obtain ⟨k, rfl, hnext⟩ := hpaired.add_inv
    refine ⟨fun _ => rfl, hnone _, k + 1 + stream_work t.todo, by omega, fun _ => ?_, hnone _⟩
    exact within_busy hexit rfl (hnext _) (Nat.le_refl _)

/-- **A task is disciplined.** -/
theorem keeps (gpu : Gpu) : Disciplined (Task.next gpu) Task.guard Task.Within := by
  intro n t hwithin
  unfold Task.next
  unfold Within at hwithin
  rcases hexit : t.exit with _ | e
  -- a task between two frames takes one, with the work of its dispatch before it
  · rcases hcur : t.current with _ | h
    · rw [hexit, hcur] at hwithin
      obtain ⟨hguard, hwork⟩ := hwithin
      rcases htodo : t.todo with _ | ⟨x, todo⟩
      · exact hguard
      · rw [htodo] at hwork
        have hx : stream_work (x :: todo) = action_work x.frame.action + 2 + stream_work todo := rfl
        have hnone : ∀ P : Task → Prop, ∀ t ∈ (none : Option Task), P t := fun _ _ ht => by
          cases ht
        refine ⟨fun _ => rfl, hnone _, action_work x.frame.action + 1 + stream_work todo,
          by omega, fun _ => ?_, hnone _⟩
        refine within_busy hexit rfl ?_ (Nat.le_refl _)
        show Paired false t.guard _ _
        rw [hguard]
        exact paired_dispatch x.frame
    · rw [hexit, hcur] at hwithin
      obtain ⟨m, hpaired, hwork⟩ := hwithin
      exact operation_keeps gpu hexit hpaired hwork
  · rw [hexit] at hwithin
    exact hwithin

/-- A task that waits has no guard. -/
theorem waiting_free (hwithin : t.Within n) (hwaiting : t.waiting = true) : t.guard = false := by
  unfold Within at hwithin
  unfold waiting at hwaiting
  rcases hexit : t.exit with _ | e
  · rcases hcur : t.current with _ | ⟨ticket, rest, events⟩
    · rw [hcur] at hwaiting
      cases hwaiting
    · rw [hexit, hcur] at hwithin
      rw [hcur] at hwaiting
      obtain ⟨m, hpaired, -⟩ := hwithin
      rcases rest with response | next | ⟨tables, next⟩ | next | ⟨c, next⟩ | ⟨x, y, next⟩
      case call => exact hpaired.call_inv.1 hwaiting
      all_goals cases hwaiting
  · rw [hexit] at hwithin
    exact hwithin

/-- A task goes down by a panic only. -/
def down (t : Task) : Bool :=
  match t.exit with
  | some .panicked => true
  | _ => false

/-- A task that runs is not down. -/
theorem down_of_running (hexit : t.exit = none) : t.down = false := by
  unfold down
  rw [hexit]

/-- A failed answer is no panic. -/
theorem write_down (hexit : t.exit = none) (response : Option ResponseFrame) :
    (t.write response).down = false := by
  unfold write
  rcases response with _ | frame
  · exact down_of_running hexit
  · rcases hencode : encode_frame Wire.response_frame frame with e | bytes
    · simp only [hencode]
      rfl
    · simp only [hencode]
      exact down_of_running hexit

/-- No operation of a task takes it down, a failed answer included. -/
theorem stays_up (gpu : Gpu) (t : Task) : (t.next gpu).StaysUp down := by
  unfold Task.next
  rcases hexit : t.exit with _ | e
  · have hdown : ∀ t' : Task, t'.exit = t.exit → t'.down = false := fun t' heq =>
      down_of_running (heq.trans hexit)
    rcases hcur : t.current with _ | h
    · rcases htodo : t.todo with _ | ⟨x, todo⟩
      · trivial
      · exact fun _ => hdown _ rfl
    · show (t.operation gpu h h.rest).StaysUp down
      rcases h.rest with response | next | ⟨tables, next⟩ | next | ⟨c, next⟩ | ⟨x, y, next⟩
      · exact fun _ => write_down (by exact hexit) response
      · exact fun _ => hdown _ rfl
      · exact fun _ => hdown _ rfl
      · exact hdown _ rfl
      · exact fun _ => hdown _ rfl
      · exact fun _ => hdown _ rfl
  · trivial

/-- A task that does nothing more has served its stream, or has exited. -/
theorem finished (gpu : Gpu) {stream : List Ticket} (ha : t.Accounts stream)
    (hnext : t.next gpu = .finish) : t.served.map Prod.fst = stream ∨ ∃ e, t.exit = some e := by
  unfold Task.next at hnext
  rcases hexit : t.exit with _ | e
  · refine Or.inl ?_
    rcases hcur : t.current with _ | h
    · rcases htodo : t.todo with _ | ⟨x, todo⟩
      · rw [← ha.frames, hcur, htodo]
        show _ = _ ++ [] ++ []
        rw [List.append_nil, List.append_nil]
      · rw [hexit, hcur, htodo] at hnext
        cases hnext
    · -- a dispatch always has a next operation
      rw [hexit, hcur] at hnext
      change t.operation gpu h h.rest = .finish at hnext
      rcases hprog : h.rest with _ | _ | _ | _ | _ | _
      all_goals
        rw [hprog] at hnext
        cases hnext
  · exact Or.inr ⟨e, rfl⟩

end Task

/-! ## All tasks -/

variable {ι : Type}

theorem inv_start (tables : ResourceTables) (device : List Event) (streams : ι → List Ticket) :
    Inv Task.guard Task.Within (fun i => stream_work (streams i)) (start tables device streams) where
  holds i := ⟨fun h => (by cases h), fun h => (by cases h)⟩
  within i := Task.within_idle rfl rfl (Nat.le_refl _)

variable [DecidableEq ι]

/-- The run `ls` has served the streams, up to `s`. -/
structure WellServed [Fintype ι] (gpu : Gpu) (streams : ι → List Ticket) (ls : List (Mutex.Label ι))
    (s : Mutex.State ι Backend Task) : Prop where
  /-- At most one task has a guard of the tables. -/
  alone : ∀ i j, (s.threads i).guard = true → (s.threads j).guard = true → i = j
  /-- No task that waits for the GPU has it. -/
  waiting : ∀ i, (s.threads i).waiting = true → (s.threads i).guard = false
  /-- The run is no longer than what the frames of all streams take. -/
  bounded : ls.length ≤ ∑ i, stream_work (streams i)
  /-- Each task has served the first frames of its stream, in order, and answered
  each as it asked. -/
  accounts : ∀ i, (s.threads i).Accounts (streams i)
  /-- When no task can go on, each has served all its stream, or has had an answer
  that does not fit a frame, or is down. One that is down has panicked, or has
  found the tables poisoned by one that has. -/
  to_the_end : Stuck (Task.next gpu) s → ∀ i,
    (s.threads i).served.map Prod.fst = streams i ∨
    (∃ e, (s.threads i).exit = some (.failed e)) ∨
    ((s.threads i).exit = some .panicked ∧
      (.panic i ∈ ls ∨ (s.poisoned = true ∧ ∃ j, .panic j ∈ ls)))

end Tasks

section Runs

attribute [local instance] WgpuTypes.numeric

/-- One stream makes a buffer, the other one destroys it. -/
def make_and_destroy : Bool → List Ticket
  | true => [⟨0, ⟨some ⟨1⟩, .CreateBuffer ⟨7⟩ ⟨none, 4, (0 : UInt32), false⟩⟩⟩]
  | false => [⟨1, ⟨some ⟨1⟩, .Destroy (.Buffer ⟨7⟩)⟩⟩]

end Runs

end WgpuRemote.Server
