/-
Sections are atomic.

The tasks of a server interleave operation by operation (`Task.next`), and
`Streams.step` takes a stream through a whole section at once, with what lies
between its end and the next one. Here the first system is simulated by the
second: when a task gets the lock, its stream goes through the section that the
task is about to go through (or, if the action has none, when the task answers).
Between that and the end of the section the stream is ahead of its task
(`Ahead`), and from there to the next section behind it (`Behind`).

So in every run of the tasks, whatever panics, the tables under a free lock are
those of a run of sections, and so is every answer, up to the bytes of a readback
(`sections_atomic`). Streams that leave each other's entries alone are even served
as if one action was dispatched after the other (`served_in_turn`).
-/
import WgpuRemote.Server.Blind
import WgpuRemote.Server.Tasks

set_option autoImplicit false

namespace WgpuRemote.Server

open Bincode Transition
open Wgpu (Occ Obj Call Event Gpu)
open Prog (Mem Blind Tail SameNames)
open Mutex (Next Inv Disciplined)

section Atomicity

variable [WgpuTypes]

/-! ## A frame and its action -/

/-- The action of a frame, under its number. -/
def Ticket.numbered (x : Ticket) : Numbered := ⟨x.number, x.frame.action⟩

/-- What `dispatch` makes of the response. -/
def Ticket.reply (x : Ticket) (response : Option Response) : Option ResponseFrame :=
  match x.frame.request_id, response with
  | some rid, some resp => some ⟨rid, resp⟩
  | none, _ => none
  | some _, none => none

/-- A dispatch handles the action, and then forms the reply. -/
theorem dispatch_handle (x : Ticket) :
    dispatch x.frame = handle x.frame.action >>= fun response => .done (x.reply response) := by
  unfold dispatch Ticket.reply
  congr 1
  funext response
  rcases x.frame.request_id with _ | rid
  · rfl
  · rcases response with _ | resp
    · rfl
    · rfl

/-- The answer to a frame is the response of the section that finished its action.
Two readbacks of one buffer may show different bytes. -/
def Answered (p : Ticket × Option ResponseFrame) (f : Finished) : Prop :=
  p.2 = p.1.reply f.response ∨
    reads_back p.1.frame.action = true ∧ WasRead f.response ∧
      ∃ response, WasRead response ∧ p.2 = p.1.reply response

/-- wgpu, as far as blind code can tell. -/
def names (occ : Occ) (_ : Call) : Answer := ⟨occ, .Ok, []⟩

/-- Two gpus agree on the names of what they make, whatever has gone before. -/
theorem same_answer (gpu : Gpu) (device : List Event) :
    SameNames (answer gpu device) names := fun _ _ => rfl

/-! ## Code without the guard -/

namespace Prog

/-- Blind code goes on after a call as if `names` had answered it. -/
theorem Blind.after_call {α : Type} {c : Call} {next : Answer → Prog α}
    (h : (Prog.call c next).Blind) (gpu : Gpu) (device : List Event) (occ : Occ) :
    next (answer gpu device occ c) = next (names occ c) := h.1 _ _ rfl

variable {α β : Type} {held : Bool} {n : ℕ}

/-- Forming the reply takes neither the guard nor a statement, so that what is left of a frame
is paired because its dispatch is. -/
theorem paired_of_map {f : α → β} {p : Prog α}
    (h : Paired false held n (p >>= fun a => .done (f a))) : Paired false held n p := by
  change Paired false held n (p.bind fun a => .done (f a)) at h
  induction p generalizing held n with
  | done a => exact h.done_inv ▸ .done n a
  | lock next ih =>
      obtain ⟨rfl, k, rfl, hnext⟩ := h.lock_inv
      exact .lock fun t => ih t (hnext t)
  | store t next ih =>
      obtain ⟨rfl, k, rfl, hnext⟩ := h.store_inv
      exact .store (ih hnext)
  | unlock next ih =>
      obtain ⟨rfl, k, rfl, hnext⟩ := h.unlock_inv
      exact .unlock (ih hnext)
  | call c next ih =>
      obtain ⟨hwait, k, rfl, hnext⟩ := h.call_inv
      exact .call hwait fun a => ih a (hnext a)
  | add a b next ih =>
      obtain ⟨k, rfl, hnext⟩ := h.add_inv
      exact .add fun s => ih s (hnext s)

/-- Between two sections the tables are neither seen nor changed. -/
theorem advance_unguarded {p : Prog α} (h : Paired false false n p)
    (reply : Occ → Call → Answer) (d : ℕ) (t t' : ResourceTables) (events : List Event) :
    (p.advance reply d true ⟨t, events⟩).2.tables = t ∧
      (p.advance reply d true ⟨t', events⟩).1 = (p.advance reply d true ⟨t, events⟩).1 ∧
      (p.advance reply d true ⟨t', events⟩).2.events =
        (p.advance reply d true ⟨t, events⟩).2.events := by
  induction p generalizing n events with
  | done a => exact ⟨rfl, rfl, rfl⟩
  | lock next ih => exact ⟨rfl, rfl, rfl⟩
  | store t next ih => cases h.store_inv.1
  | unlock next ih => cases h.unlock_inv.1
  | call c next ih =>
      obtain ⟨-, k, rfl, hnext⟩ := h.call_inv
      exact ih _ (hnext _) _
  | add a b next ih =>
      obtain ⟨k, rfl, hnext⟩ := h.add_inv
      exact ih _ (hnext _) events

end Prog

/-- The action in hand uses its guards in pairs. -/
theorem Task.paired_in_hand {n : ℕ} {t : Task} {h : InHand} {q : Prog (Option Response)}
    (hwithin : t.Within n) (hexit : t.exit = none) (hcurrent : t.current = some h)
    (hrest : h.rest = q >>= fun response => .done (h.ticket.reply response)) :
    ∃ m, Paired false t.guard m q := by
  unfold Within at hwithin
  rw [hexit, hcurrent] at hwithin
  obtain ⟨m, hpaired, -⟩ := hwithin
  rw [hrest] at hpaired
  exact ⟨m, Prog.paired_of_map hpaired⟩

/-! ## A task and its stream -/

variable {ι : Type}

/-- The stream has finished the action, or is before its next section. -/
inductive Reached (S : Streams ι) (i : ι) (served : List (Ticket × Option ResponseFrame))
    (x : Numbered) : Prog (Option Response) → List Event → Prop
  | paused {next : ResourceTables → Prog (Option Response)} {events : List Event}
      (hcurrent : S.current i = some ⟨x, .lock next, events⟩)
      (hserved : List.Forall₂ Answered served (S.outcome.served i)) :
      Reached S i served x (.lock next) events
  | finished {response : Option Response} {events : List Event} {fs : List Finished}
      (hcurrent : S.current i = none) (hlast : S.outcome.served i = fs ++ [⟨response, events⟩])
      (hserved : List.Forall₂ Answered served fs) : Reached S i served x (.done response) events

/-- Both are between two actions. -/
structure Idle (S : Streams ι) (i : ι) (t : Task) : Prop where
  current : t.current = none
  todo : S.todo i = t.todo.map Ticket.numbered
  at_rest : S.current i = none
  served : List.Forall₂ Answered t.served (S.outcome.served i)

/-- The stream has yet to go through the section the task comes to, and what the
task has done since the one before. `q` is what is left of the action. -/
structure Behind (S : Streams ι) (i : ι) (t : Task) (h : InHand) (q : Prog (Option Response))
    (r : Running) : Prop where
  current : t.current = some h
  guard : t.guard = false
  rest : h.rest = q >>= fun response => .done (h.ticket.reply response)
  hand : S.in_hand i = some (r, t.todo.map Ticket.numbered)
  item : r.item = h.ticket.numbered
  same : (q.Blind ∧ r.rest.Blind ∧ ∀ tables,
      r.rest.advance names h.ticket.number false ⟨tables, r.events⟩ =
        q.advance names h.ticket.number false ⟨tables, h.events⟩) ∨
    reads_back h.ticket.frame.action = true ∧ q = handle h.ticket.frame.action ∧ r.rest = q ∧
      r.events = h.events
  served : List.Forall₂ Answered t.served (S.outcome.served i)

/-- The stream has gone through the section the task is in, or has just left,
and has come to `p`. -/
structure Ahead (S : Streams ι) (tables : ResourceTables) (i : ι) (t : Task) (h : InHand)
    (q p : Prog (Option Response)) (events : List Event) : Prop where
  current : t.current = some h
  rest : h.rest = q >>= fun response => .done (h.ticket.reply response)
  todo : S.todo i = t.todo.map Ticket.numbered
  reached : Reached S i t.served h.ticket.numbered p events
  /-- The tables will be those of the stream when the guard is dropped. -/
  section_end : t.guard = true →
    (q.advance names h.ticket.number true ⟨tables, h.events⟩).2.tables = S.outcome.tables
  same : (q.Blind ∧ (q.advance names h.ticket.number true ⟨tables, h.events⟩).1 = p ∧
      (q.advance names h.ticket.number true ⟨tables, h.events⟩).2.events = events) ∨
    reads_back h.ticket.frame.action = true ∧ q.Tail WasRead ∧
      ∃ response, WasRead response ∧ p = .done response

/-- The frames the task has answered are among those of the stream, which has
finished at most one more. -/
def AnswersSoFar (S : Streams ι) (i : ι) (t : Task) : Prop :=
  ∃ fs more, S.outcome.served i = fs ++ more ∧ more.length ≤ 1 ∧
    List.Forall₂ Answered t.served fs

/-- Where the stream of a task is. -/
inductive Follows (S : Streams ι) (tables : ResourceTables) (i : ι) (t : Task) : Prop
  | idle (hexit : t.exit = none) (hidle : Idle S i t) : Follows S tables i t
  | behind (hexit : t.exit = none) {h : InHand} {q : Prog (Option Response)} {r : Running}
      (hbehind : Behind S i t h q r) : Follows S tables i t
  | ahead (hexit : t.exit = none) {h : InHand} {q p : Prog (Option Response)}
      {events : List Event} (hahead : Ahead S tables i t h q p events) : Follows S tables i t
  | gone {e : Exit} (hexit : t.exit = some e) (hanswers : AnswersSoFar S i t) : Follows S tables i t

/-- A stream that has gone through the section of a task has answered what the task has, and
possibly the frame in hand. -/
theorem Reached.answers {S : Streams ι} {i : ι} {t : Task} {x : Numbered}
    {p : Prog (Option Response)} {events : List Event} (h : Reached S i t.served x p events) :
    AnswersSoFar S i t := by
  cases h with
  | paused hcurrent hserved =>
      exact ⟨_, [], (List.append_nil _).symm, Nat.zero_le 1, hserved⟩
  | finished hcurrent hlast hserved => exact ⟨_, _, hlast, Nat.le_refl 1, hserved⟩

/-- The same wherever the stream is. -/
theorem Follows.answers {S : Streams ι} {tables : ResourceTables} {i : ι} {t : Task}
    (h : Follows S tables i t) : AnswersSoFar S i t := by
  rcases h with ⟨-, hidle⟩ | ⟨-, hbehind⟩ | ⟨-, hahead⟩ | ⟨-, hanswers⟩
  · exact ⟨_, [], (List.append_nil _).symm, Nat.zero_le 1, hidle.served⟩
  · exact ⟨_, [], (List.append_nil _).symm, Nat.zero_le 1, hbehind.served⟩
  · exact hahead.reached.answers
  · exact hanswers

/-- The streams are the same at `i`. -/
structure SameAt (S S' : Streams ι) (i : ι) : Prop where
  todo : S'.todo i = S.todo i
  current : S'.current i = S.current i
  served : S'.outcome.served i = S.outcome.served i

theorem SameAt.refl (S : Streams ι) (i : ι) : SameAt S S i := ⟨rfl, rfl, rfl⟩

/-- Where a stream has got to is a matter of its own part only. -/
theorem Reached.frame {S S' : Streams ι} {i : ι} {served : List (Ticket × Option ResponseFrame)}
    {x : Numbered} {p : Prog (Option Response)} {events : List Event}
    (h : Reached S i served x p events) (hsame : SameAt S S' i) :
    Reached S' i served x p events := by
  cases h with
  | paused hcurrent hserved =>
      exact .paused (hsame.current.trans hcurrent) (hsame.served ▸ hserved)
  | finished hcurrent hlast hserved =>
      exact .finished (hsame.current.trans hcurrent) (hsame.served.trans hlast) hserved

/-- What a task without a guard is to its stream does not depend on the tables. -/
theorem Follows.frame {S S' : Streams ι} {tables tables' : ResourceTables} {i : ι} {t : Task}
    {n : ℕ} (h : Follows S tables i t) (hwithin : t.Within n) (hsame : SameAt S S' i)
    (hguard : t.guard = true → S'.outcome.tables = S.outcome.tables ∧ tables' = tables) :
    Follows S' tables' i t := by
  rcases h with ⟨hexit, hidle⟩ | ⟨hexit, hbehind⟩ | ⟨hexit, hahead⟩ | ⟨hexit, hanswers⟩
  · refine .idle hexit ⟨hidle.current, ?_, ?_, ?_⟩
    · rw [hsame.todo, hidle.todo]
    · rw [hsame.current, hidle.at_rest]
    · rw [hsame.served]
      exact hidle.served
  · refine .behind hexit ⟨hbehind.current, hbehind.guard, hbehind.rest, ?_, hbehind.item,
      hbehind.same, ?_⟩
    -- `hsame` speaks of `todo` and `current`, which are what is in hand
    · rw [← hbehind.hand]
      unfold Streams.in_hand
      rw [hsame.todo, hsame.current]
    · rw [hsame.served]
      exact hbehind.served
  · rename_i h q p events
    refine .ahead hexit ⟨hahead.current, hahead.rest, ?_, hahead.reached.frame hsame, ?_, ?_⟩
    · rw [hsame.todo, hahead.todo]
    -- a task with the guard is in a section: the tables may not have moved under it
    · intro hyes
      obtain ⟨htables, heq⟩ := hguard hyes
      rw [heq, htables]
      exact hahead.section_end hyes
    · rcases hahead.same with ⟨hblind, hp, hevents⟩ | hreads
      · refine Or.inl ⟨hblind, ?_⟩
        rcases hyes : t.guard
        · obtain ⟨m, hpaired⟩ := Task.paired_in_hand hwithin hexit hahead.current hahead.rest
          rw [hyes] at hpaired
          obtain ⟨-, hp', hevents'⟩ := Prog.advance_unguarded hpaired names h.ticket.number tables
            tables' h.events
          exact ⟨hp'.trans hp, hevents'.trans hevents⟩
        · rw [(hguard hyes).2]
          exact ⟨hp, hevents⟩
      · exact Or.inr hreads
  · refine .gone hexit ?_
    unfold AnswersSoFar
    rw [hsame.served]
    exact hanswers

/-! ## What the task of a stream does -/

omit [WgpuTypes] in
/-- Two lists related element by element stay so when related elements are appended. -/
theorem forall₂_snoc {α β : Type} {R : α → β → Prop} {l : List α} {l' : List β} {a : α} {b : β}
    (h : List.Forall₂ R l l') (hab : R a b) : List.Forall₂ R (l ++ [a]) (l' ++ [b]) :=
  List.rel_append h (.cons hab .nil)

section Own

variable {S : Streams ι} {tables : ResourceTables} {i : ι} {t : Task} {h : InHand}
  {q p : Prog (Option Response)} {r : Running} {events : List Event}

/-- The next frame is taken. -/
theorem Idle.take (hidle : Idle S i t) (hexit : t.exit = none) (hguard : t.guard = false)
    {x : Ticket} {todo : List Ticket} (htodo : t.todo = x :: todo) :
    Follows S tables i (t.take x todo) := by
  refine .behind (h := ⟨x, dispatch x.frame, []⟩) (q := handle x.frame.action)
    (r := x.numbered.begin) hexit ⟨rfl, hguard, dispatch_handle x, ?_, rfl, ?_, hidle.served⟩
  · have htodo' := hidle.todo
    rw [htodo, List.map_cons] at htodo'
    unfold Streams.in_hand
    rw [hidle.at_rest, htodo']
    rfl
  · rcases hreads : reads_back x.frame.action
    · exact Or.inl ⟨blind_handle hreads, blind_handle hreads, fun _ => rfl⟩
    · exact Or.inr ⟨rfl, rfl, rfl, rfl⟩

/-- An answer is written, or fails to be. -/
theorem follows_answer (htodo : S.todo i = t.todo.map Ticket.numbered)
    {response : Option ResponseFrame} (hcurrent : S.current i = none)
    (hserved : List.Forall₂ Answered (t.served ++ [(h.ticket, response)]) (S.outcome.served i)) :
    Follows S tables i (t.answer h response) := by
  obtain ⟨hcur, htodos, -, hs⟩ := Task.write_same
    { t with current := none, served := t.served ++ [(h.ticket, response)] } response
  rcases hexit' : (t.answer h response).exit with _ | e
  · refine .idle hexit' ⟨hcur, ?_, hcurrent, ?_⟩
    · rw [htodo]
      unfold Task.answer
      rw [htodos]
    · unfold Task.answer
      rw [hs]
      exact hserved
  · refine .gone hexit' ⟨_, [], (List.append_nil _).symm, Nat.zero_le 1, ?_⟩
    unfold Task.answer
    rw [hs]
    exact hserved

/-- An operation before the section. -/
theorem Behind.go (hb : Behind S i t h q r) (hexit : t.exit = none) {q' : Prog (Option Response)}
    {events : List Event}
    (hadvance : q.Blind → q'.Blind ∧
      ∀ tables, q'.advance names h.ticket.number false ⟨tables, events⟩ =
        q.advance names h.ticket.number false ⟨tables, h.events⟩)
    (hlock : ∀ next, q ≠ .lock next) :
    Follows S tables i (t.go { h with events }
      (q' >>= fun response => .done (h.ticket.reply response))) := by
  rcases hb.same with ⟨hq, hrest, hsame⟩ | ⟨hreads, hhandle, -, -⟩
  · obtain ⟨hblind, heq⟩ := hadvance hq
    refine .behind (q := q') (r := r) hexit ⟨rfl, hb.guard, rfl, hb.hand, hb.item, ?_, hb.served⟩
    exact Or.inl ⟨hblind, hrest, fun tables => (hsame tables).trans (heq tables).symm⟩
  · obtain ⟨next, hnext, -⟩ := handle_reads_back hreads
    exact absurd (hhandle.trans hnext) (hlock next)

/-- An operation in or after the section. -/
theorem Ahead.go (ha : Ahead S tables i t h q p events) (hexit : t.exit = none)
    {q' : Prog (Option Response)} (events' : List Event) {tables' : ResourceTables} (guard : Bool)
    (hguard : guard = true → t.guard = true)
    (hadvance : q.Blind → q'.Blind ∧ q'.advance names h.ticket.number true ⟨tables', events'⟩ =
      q.advance names h.ticket.number true ⟨tables, h.events⟩)
    (htail : q.Tail WasRead → q'.Tail WasRead ∧ tables' = tables) :
    Follows S tables' i { t.go { h with events := events' }
      (q' >>= fun response => .done (h.ticket.reply response)) with guard } := by
  rcases ha.same with ⟨hq, hp, hevents⟩ | ⟨hreads, hq, hdone⟩
  · obtain ⟨hblind, heq⟩ := hadvance hq
    refine .ahead hexit ⟨rfl, rfl, ha.todo, ha.reached, fun hyes => ?_, ?_⟩
    · rw [← ha.section_end (hguard hyes), ← heq]
    · refine Or.inl ⟨hblind, ?_⟩
      rw [← hp, ← hevents, ← heq]
      exact ⟨rfl, rfl⟩
  · obtain ⟨hq', rfl⟩ := htail hq
    refine .ahead hexit ⟨rfl, rfl, ha.todo, ha.reached, fun hyes => ?_, Or.inr ⟨hreads, hq', hdone⟩⟩
    have hkept := (hq.advance names h.ticket.number true ⟨tables', h.events⟩).2
    rw [← ha.section_end (hguard hyes), hkept]
    exact (hq'.advance names h.ticket.number true ⟨tables', events'⟩).2

/-- The action is finished, and is answered as it was when the stream finished it. -/
theorem Ahead.done (ha : Ahead S tables i t h q p events) {response : Option Response}
    (hq : q = .done response) : Follows S tables i (t.answer h (h.ticket.reply response)) := by
  obtain ⟨response', hp, hanswered⟩ : ∃ response', p = .done response' ∧
      Answered (h.ticket, h.ticket.reply response) ⟨response', events⟩ := by
    rw [hq] at ha
    rcases ha.same with ⟨-, hp, -⟩ | ⟨hreads, hwas, response', hwas', hp⟩
    · exact ⟨response, hp.symm, Or.inl rfl⟩
    · exact ⟨response', hp, Or.inr ⟨hreads, hwas', response, hwas, rfl⟩⟩
  have hreached := ha.reached
  rw [hp] at hreached
  cases hreached with
  | finished hcurrent hlast hserved =>
      refine follows_answer ha.todo hcurrent ?_
      rw [hlast]
      exact forall₂_snoc hserved hanswered

/-- Before its next section, a task has caught up with its stream. -/
theorem Ahead.lock (ha : Ahead S tables i t h q p events) (hguard : t.guard = false)
    {next : ResourceTables → Prog (Option Response)} (hq : q = .lock next) :
    ∃ r, Behind S i t h q r := by
  rcases ha.same with ⟨hblind, hp, hevents⟩ | ⟨-, htail, -⟩
  · rw [hq] at hp hevents
    have hreached := ha.reached
    rw [← hp, ← hevents] at hreached
    cases hreached with
    | paused hcurrent hserved =>
        refine ⟨⟨h.ticket.numbered, .lock next, h.events⟩, ha.current, hguard, ha.rest, ?_, rfl, ?_,
          hserved⟩
        · unfold Streams.in_hand
          rw [hcurrent, ha.todo]
          rfl
        · rw [hq] at hblind ⊢
          exact Or.inl ⟨hblind, hblind, fun _ => rfl⟩
  · rw [hq] at htail
    exact htail.elim

end Own

/-! ## One section of a stream -/

variable [DecidableEq ι]

/-- The stream goes through its next section, and on to the one after it. -/
theorem Streams.step_reached (gpu : Gpu) {S : Streams ι} {i : ι} {r : Running}
    {todo : List Numbered} (hhand : S.in_hand i = some (r, todo))
    {served : List (Ticket × Option ResponseFrame)}
    (hserved : List.Forall₂ Answered served (S.outcome.served i)) {p : Prog (Option Response)}
    {m : Mem} (hout : r.rest.advance (answer gpu S.outcome.device) r.item.number false
      ⟨S.outcome.tables, r.events⟩ = (p, m)) :
    ∃ S', S.step gpu i = some S' ∧ S'.outcome.tables = m.tables ∧ S'.todo i = todo ∧
      Reached S' i served r.item p m.events ∧ ∀ j, j ≠ i → SameAt S S' j := by
  have hother : ∀ (S' : Streams ι) (c : Option Running) (fs : List Finished),
      S'.todo = Function.update S.todo i todo → S'.current = Function.update S.current i c →
      S'.outcome.served = Function.update S.outcome.served i fs → ∀ j, j ≠ i → SameAt S S' j :=
    fun S' c fs htodo hcurrent hfs j hj =>
      ⟨by rw [htodo, Function.update_of_ne hj], by rw [hcurrent, Function.update_of_ne hj],
        by rw [hfs, Function.update_of_ne hj]⟩
  unfold Streams.step
  rw [hhand]
  -- a section ends the action, or comes to the next lock
  have hstops := Prog.advance_stops (answer gpu S.outcome.device) r.item.number r.rest false
    ⟨S.outcome.tables, r.events⟩
  rw [hout] at hstops
  dsimp only
  rw [hout]
  rcases hstops with ⟨response, rfl⟩ | ⟨next, rfl⟩
  · refine ⟨_, rfl, rfl, Function.update_self _ _ _, ?_, hother _ _ _ rfl rfl rfl⟩
    exact .finished (Function.update_self _ _ _) (Function.update_self _ _ _) hserved
  · refine ⟨_, rfl, rfl, Function.update_self _ _ _, ?_, hother _ _ (S.outcome.served i) rfl rfl ?_⟩
    · exact .paused (Function.update_self _ _ _) hserved
    · exact (Function.update_eq_self i S.outcome.served).symm

section Own

variable (gpu : Gpu) (tables : ResourceTables) {S : Streams ι} {i : ι} {t : Task} {h : InHand}
  {q p : Prog (Option Response)} {r : Running} {events : List Event}

/-- An action without a section is finished when it is answered. -/
theorem Behind.done (hb : Behind S i t h q r) {response : Option Response}
    (hq : q = .done response) :
    ∃ S', S.step gpu i = some S' ∧ S'.outcome.tables = S.outcome.tables ∧
      (∀ j, j ≠ i → SameAt S S' j) ∧
      Follows S' tables i (t.answer h (h.ticket.reply response)) := by
  rcases hb.same with ⟨-, hblind, hsame⟩ | ⟨hreads, hhandle, -, -⟩
  · have hout := (hblind.advance (same_answer gpu S.outcome.device) h.ticket.number false
      ⟨S.outcome.tables, r.events⟩).trans (hsame S.outcome.tables)
    rw [hq] at hout
    have hnumber : h.ticket.number = r.item.number := by
      rw [hb.item]
      rfl
    -- an action without a section is answered in the stream's one step
    rw [hnumber] at hout
    obtain ⟨S', hstep, htables, htodo, hreached, hothers⟩ :=
      Streams.step_reached gpu hb.hand hb.served hout
    refine ⟨S', hstep, htables, hothers, ?_⟩
    cases hreached with
    | finished hcurrent hlast hserved =>
        refine follows_answer htodo hcurrent ?_
        rw [hlast]
        exact forall₂_snoc hserved (Or.inl rfl)
  · -- a readback has a section
    obtain ⟨next, hnext, -⟩ := handle_reads_back hreads
    rw [hq, hnext] at hhandle
    cases hhandle

/-- The task gets the lock, and its stream goes through the section. -/
theorem Behind.lock (hb : Behind S i t h q r) (hexit : t.exit = none)
    {next : ResourceTables → Prog (Option Response)} (hq : q = .lock next) :
    ∃ S', S.step gpu i = some S' ∧ (∀ j, j ≠ i → SameAt S S' j) ∧
      Follows S' S.outcome.tables i
        { t.go h (next S.outcome.tables >>= fun response => .done (h.ticket.reply response)) with
          guard := true } := by
  have hnumber : h.ticket.number = r.item.number := by
    rw [hb.item]
    rfl
  -- what is left of the action under the lock
  obtain ⟨sec, hsec⟩ : ∃ sec, next S.outcome.tables = sec := ⟨_, rfl⟩
  have hrun : (sec.Blind ∧ r.rest.advance (answer gpu S.outcome.device) h.ticket.number false
        ⟨S.outcome.tables, r.events⟩ =
          sec.advance names h.ticket.number true ⟨S.outcome.tables, h.events⟩) ∨
      reads_back h.ticket.frame.action = true ∧ sec.Tail WasRead ∧
        r.rest.advance (answer gpu S.outcome.device) h.ticket.number false
          ⟨S.outcome.tables, r.events⟩ =
        sec.advance (answer gpu S.outcome.device) h.ticket.number true
          ⟨S.outcome.tables, h.events⟩ := by
    rcases hb.same with ⟨hblind, hrest, hsame⟩ | ⟨hreads, hhandle, hrest, hevents⟩
    · rw [hq] at hsame hblind
      refine Or.inl ⟨hsec ▸ hblind S.outcome.tables, ?_⟩
      rw [hrest.advance (same_answer gpu S.outcome.device), hsame, ← hsec]
      rfl
    · have hlock : r.rest.advance (answer gpu S.outcome.device) h.ticket.number false
          ⟨S.outcome.tables, r.events⟩ =
          sec.advance (answer gpu S.outcome.device) h.ticket.number true
            ⟨S.outcome.tables, h.events⟩ := by
        rw [hrest, hq, hevents, ← hsec]
        rfl
      obtain ⟨next', hnext, hkind⟩ := handle_reads_back hreads
      rw [hq, hnext] at hhandle
      rw [← Prog.lock.inj hhandle] at hkind
      rcases hkind S.outcome.tables with hblind | htail
      · rw [hsec] at hblind
        exact Or.inl ⟨hblind, hlock.trans (hblind.advance (same_answer gpu _) _ _ _)⟩
      · exact Or.inr ⟨hreads, hsec ▸ htail, hlock⟩
  rw [hsec]
  rcases hrun with ⟨hblind, hout⟩ | ⟨hreads, htail, hout⟩
  · rw [hnumber] at hout
    obtain ⟨S', hstep, htables, htodo, hreached, hothers⟩ :=
      Streams.step_reached gpu hb.hand hb.served hout
    rw [← hnumber] at htables hreached
    rw [hb.item] at hreached
    refine ⟨S', hstep, hothers, .ahead hexit ⟨rfl, rfl, htodo, hreached, fun _ => ?_, ?_⟩⟩
    · exact htables.symm
    · exact Or.inl ⟨hblind, rfl, rfl⟩
  · obtain ⟨⟨response, hwas, hdone⟩, hkept⟩ := htail.advance (answer gpu S.outcome.device)
      h.ticket.number true ⟨S.outcome.tables, h.events⟩
    rw [hnumber] at hout
    obtain ⟨S', hstep, htables, htodo, hreached, hothers⟩ :=
      Streams.step_reached gpu hb.hand hb.served hout
    rw [← hnumber] at htables hreached
    rw [hb.item] at hreached
    refine ⟨S', hstep, hothers, .ahead hexit ⟨rfl, rfl, htodo, hreached, fun _ => ?_, ?_⟩⟩
    · rw [htables, hkept]
      exact (htail.advance names h.ticket.number true _).2
    · exact Or.inr ⟨hreads, htail, response, hwas, hdone⟩

end Own

/-! ## All tasks and all streams -/

/-- The tables under a free lock are those of the streams, and each stream is
where its task is. -/
structure Simulated (s : Mutex.State ι Backend Task) (S : Streams ι) : Prop where
  disciplined : ∃ budget, Inv Task.guard Task.Within budget s
  tables : s.holder = none → s.poisoned = false → S.outcome.tables = s.shared.tables
  poisoned : s.poisoned = true → ∃ i, (s.threads i).exit ≠ none
  tasks : ∀ i, Follows S s.shared.tables i (s.threads i)

/-- A task that has exited does nothing more. -/
theorem Task.next_exited (gpu : Gpu) {t : Task} (hexit : t.exit ≠ none) :
    t.next gpu = .finish := by
  obtain ⟨e, he⟩ := Option.ne_none_iff_exists'.mp hexit
  unfold next
  rw [he]

/-- A task with a frame in hand does what is left of that frame. -/
theorem Task.next_busy (gpu : Gpu) {t : Task} {h : InHand} (hexit : t.exit = none)
    (hcurrent : t.current = some h) : t.next gpu = t.operation gpu h h.rest := by
  unfold next
  rw [hexit, hcurrent]

namespace Simulated

variable {gpu : Gpu} {s s' : Mutex.State ι Backend Task} {S S' : Streams ι}

/-- A step of one task, and what its stream does. -/
theorem update (h : Simulated s S) {l : Mutex.Label ι}
    (hstep : Mutex.step (Task.next gpu) s l = some s')
    (hothers : ∀ j, j ≠ l.thread → SameAt S S' j)
    (hguards : ∀ j, j ≠ l.thread → s.holder = some j →
      S'.outcome.tables = S.outcome.tables ∧ s'.shared.tables = s.shared.tables)
    (htables : s'.holder = none → s'.poisoned = false → S'.outcome.tables = s'.shared.tables)
    (hpoisoned : s'.poisoned = true →
      s.poisoned = true ∨ (s'.threads l.thread).exit ≠ none)
    (hown : Follows S' s'.shared.tables l.thread (s'.threads l.thread)) : Simulated s' S' := by
  -- the discipline goes on whatever the step is
  obtain ⟨budget, hinv⟩ := h.disciplined
  obtain ⟨n, -, hinv'⟩ := (Task.keeps gpu).step_inv hinv hstep
  refine ⟨⟨_, hinv'⟩, htables, fun hp => ?_, fun j => ?_⟩
  · rcases hpoisoned hp with hp | hexit
    · -- who has exited takes no step
      obtain ⟨j, hj⟩ := h.poisoned hp
      refine ⟨j, ?_⟩
      have hne : j ≠ l.thread := by
        rintro rfl
        have hnext := Task.next_exited gpu hj
        rcases l with j | j
        · change s.go j (Task.next gpu (s.threads j)) = some s' at hstep
          rw [show Task.next gpu (s.threads j) = _ from hnext] at hstep
          cases hstep
        · change s.fail j (Task.next gpu (s.threads j)) = some s' at hstep
          rw [show Task.next gpu (s.threads j) = _ from hnext] at hstep
          cases hstep
      rw [Mutex.step_other hstep hne]
      exact hj
    · exact ⟨_, hexit⟩
  · by_cases hj : j = l.thread
    · rw [hj]
      exact hown
    · rw [Mutex.step_other hstep hj]
      exact (h.tasks j).frame (hinv.within j) (hothers j hj)
        fun hyes => hguards j hj ((hinv.holds j).mp hyes)

/-- A task takes a step of its own. It assigns the tables with the guard only. -/
theorem act (h : Simulated s S) {i : ι} {go : Backend → Backend × Task} {dead : Option Task}
    (hnext : (s.threads i).next gpu = .act go dead)
    (hstep : Mutex.step (Task.next gpu) s (.step i) = some s')
    (hothers : ∀ j, j ≠ i → SameAt S S' j) (htables : S'.outcome.tables = S.outcome.tables)
    (hkeeps : (go s.shared).1.tables = s.shared.tables ∨ s.holder = some i)
    (hown : Follows S' (go s.shared).1.tables i (go s.shared).2) : Simulated s' S' := by
  -- an operation changes its own thread and, under the guard, the tables
  have hs : s' = { s with
      shared := (go s.shared).1
      threads := Function.update s.threads i (go s.shared).2 } := by
    change s.go i (Task.next gpu (s.threads i)) = some s' at hstep
    rw [hnext] at hstep
    exact (Option.some.inj hstep).symm
  refine h.update hstep hothers (fun j hj hholder => ⟨htables, ?_⟩) (fun hfree hp => ?_) ?_ ?_
  · rcases hkeeps with hkeeps | hholds
    · rw [hs]
      exact hkeeps
    · rw [hholder] at hholds
      exact absurd (Option.some.inj hholds) hj
  · rw [hs] at hfree hp
    rcases hkeeps with hkeeps | hholds
    · rw [hs, htables, h.tables hfree hp]
      exact hkeeps.symm
    · rw [show s.holder = none from hfree] at hholds
      cases hholds
  · rw [hs]
    exact Or.inl
  · rw [hs]
    show Follows S' (go s.shared).1.tables i (Function.update s.threads i (go s.shared).2 i)
    rw [Function.update_self]
    exact hown

/-- A task that comes to a section gets the lock, and its stream goes through the
section; or the lock is poisoned, and the task goes down. -/
theorem lock (h : Simulated s S) {i : ι} {x : InHand} {q : Prog (Option Response)} {r : Running}
    (hexit : (s.threads i).exit = none) (hb : Behind S i (s.threads i) x q r)
    {next : ResourceTables → Prog (Option Response)} (hq : q = .lock next)
    (hstep : Mutex.step (Task.next gpu) s (.step i) = some s') :
    ∃ order S', run (Streams.step gpu) S order = some S' ∧ Simulated s' S' := by
  -- the task waits for the guard, and gets it or finds it poisoned
  have hnext : (s.threads i).next gpu = .acquire
      (fun b => { (s.threads i).go x (next b.tables >>= fun response =>
        .done (x.ticket.reply response)) with guard := true }) (s.threads i).panic := by
    rw [Task.next_busy gpu hexit hb.current, hb.rest, hq]
    rfl
  have hgo := hstep
  change s.go i (Task.next gpu (s.threads i)) = some s' at hgo
  rw [hnext] at hgo
  rcases Mutex.State.go_cases hgo with ⟨enter, dead, heq, hfree, hp, hs⟩ |
    ⟨enter, dead, heq, hfree, hp, hs⟩ | ⟨t, heq, -⟩ | ⟨go, dead, heq, -⟩
  -- poisoned: the task panics, and the stream is left where it is
  · obtain ⟨-, rfl⟩ := Next.acquire.inj heq
    refine ⟨[], S, rfl, h.update hstep (fun j _ => SameAt.refl S j) ?_ ?_ ?_ ?_⟩
    · intro j _ hholder
      rw [hfree] at hholder
      cases hholder
    · intro _ hnot
      rw [hs] at hnot
      exact absurd hp (Bool.eq_false_iff.mp hnot)
    · exact fun _ => Or.inl hp
    · rw [hs]
      show Follows S s.shared.tables i (Function.update s.threads i (s.threads i).panic i)
      rw [Function.update_self]
      exact .gone (e := .panicked) rfl (h.tasks i).answers
  -- the guard is its own: the stream goes through the section that begins here
  · obtain ⟨rfl, -⟩ := Next.acquire.inj heq
    obtain ⟨S', hrun, hothers, hown⟩ := hb.lock gpu hexit hq
    refine ⟨[i], S', by rw [run_cons, hrun]; rfl, h.update hstep hothers ?_ ?_ ?_ ?_⟩
    · intro j _ hholder
      rw [hfree] at hholder
      cases hholder
    · intro hnot
      rw [hs] at hnot
      cases hnot
    · rw [hs]
      exact Or.inl
    · rw [hs]
      show Follows S' s.shared.tables i (Function.update s.threads i _ i)
      rw [Function.update_self, ← h.tables hfree hp]
      exact hown
  · cases heq
  · cases heq

/-- The guard is dropped at the end of the section. -/
theorem unlock (h : Simulated s S) {i : ι} {x : InHand} {q p : Prog (Option Response)}
    {events : List Event} (hexit : (s.threads i).exit = none)
    (ha : Ahead S s.shared.tables i (s.threads i) x q p events) {next : Prog (Option Response)}
    (hq : q = .unlock next) (hstep : Mutex.step (Task.next gpu) s (.step i) = some s') :
    Simulated s' S := by
  obtain ⟨budget, hinv⟩ := h.disciplined
  obtain ⟨m, hpaired⟩ := Task.paired_in_hand (hinv.within i) hexit ha.current ha.rest
  rw [hq] at hpaired
  -- the guard was held, so the section's tables are what the task leaves
  obtain ⟨hguard, k, -, hpaired'⟩ := hpaired.unlock_inv
  have hholder := (hinv.holds i).mp hguard
  have hs : s' = { s with
      holder := none
      threads := Function.update s.threads i
        { (s.threads i).go x (next >>= fun response => .done (x.ticket.reply response)) with
          guard := false } } := by
    change s.go i (Task.next gpu (s.threads i)) = some s' at hstep
    rw [Task.next_busy gpu hexit ha.current, ha.rest, hq] at hstep
    exact (Option.some.inj hstep).symm
  refine h.update hstep (fun j _ => SameAt.refl S j) ?_ ?_ ?_ ?_
  · intro j hj hother
    rw [hholder] at hother
    exact absurd (Option.some.inj hother).symm hj
  · intro _ _
    rw [hs, ← ha.section_end hguard, hq]
    exact (Prog.advance_unguarded hpaired' names x.ticket.number s.shared.tables s.shared.tables
      x.events).1
  · rw [hs]
    exact Or.inl
  · rw [hs]
    -- the task is past the section now, and still what the stream has paused at
    show Follows S s.shared.tables i (Function.update s.threads i _ i)
    rw [Function.update_self]
    refine ha.go hexit x.events false (fun hno => by cases hno) ?_ ?_
    · rw [hq]
      exact fun hblind => ⟨hblind, rfl⟩
    · rw [hq]
      exact fun htail => ⟨htail, rfl⟩

/-- A task before its next section. -/
theorem go_behind (h : Simulated s S) {i : ι} {x : InHand} {q : Prog (Option Response)}
    {r : Running} (hexit : (s.threads i).exit = none) (hb : Behind S i (s.threads i) x q r)
    (hstep : Mutex.step (Task.next gpu) s (.step i) = some s') :
    ∃ order S', run (Streams.step gpu) S order = some S' ∧ Simulated s' S' := by
  have hbusy := Task.next_busy gpu hexit hb.current
  rw [hb.rest] at hbusy
  obtain ⟨budget, hinv⟩ := h.disciplined
  obtain ⟨m, hpaired⟩ := Task.paired_in_hand (hinv.within i) hexit hb.current hb.rest
  rw [hb.guard] at hpaired
  rcases hq : q with response | next | ⟨tables, next⟩ | next | ⟨c, next⟩ | ⟨a, b, next⟩
  · -- it had none
    obtain ⟨S', hrun, htables, hothers, hown⟩ := hb.done gpu s.shared.tables hq
    rw [hq] at hbusy
    exact ⟨[i], S', by rw [run_cons, hrun]; rfl, h.act hbusy hstep hothers htables (Or.inl rfl) hown⟩
  · exact h.lock hexit hb hq hstep
  -- a write or an unlock would need the guard, which the task does not have
  · rw [hq] at hpaired
    cases hpaired.store_inv.1
  · rw [hq] at hpaired
    cases hpaired.unlock_inv.1
  -- a call before the first section, or between two
  · rw [hq] at hbusy
    refine ⟨[], S, rfl, h.act hbusy hstep (fun j _ => SameAt.refl S j) rfl (Or.inl rfl) ?_⟩
    refine hb.go hexit (fun hblind => ?_) (fun next' heq => ?_)
    · rw [hq] at hblind ⊢
      refine ⟨hblind.2 _, fun t => ?_⟩
      rw [hblind.after_call gpu]
      rfl
    · rw [hq] at heq
      cases heq
  -- an addition, as a call
  · rw [hq] at hbusy
    refine ⟨[], S, rfl, h.act hbusy hstep (fun j _ => SameAt.refl S j) rfl (Or.inl rfl) ?_⟩
    refine hb.go hexit (fun hblind => ?_) (fun next' heq => ?_)
    · rw [hq] at hblind ⊢
      exact ⟨hblind _, fun t => rfl⟩
    · rw [hq] at heq
      cases heq

/-- A task in a section, or after it. -/
theorem go_ahead (h : Simulated s S) {i : ι} {x : InHand} {q p : Prog (Option Response)}
    {events : List Event} (hexit : (s.threads i).exit = none)
    (ha : Ahead S s.shared.tables i (s.threads i) x q p events)
    (hstep : Mutex.step (Task.next gpu) s (.step i) = some s') :
    ∃ order S', run (Streams.step gpu) S order = some S' ∧ Simulated s' S' := by
  have hbusy := Task.next_busy gpu hexit ha.current
  rw [ha.rest] at hbusy
  obtain ⟨budget, hinv⟩ := h.disciplined
  obtain ⟨m, hpaired⟩ := Task.paired_in_hand (hinv.within i) hexit ha.current ha.rest
  rcases hq : q with response | next | ⟨tables, next⟩ | next | ⟨c, next⟩ | ⟨a, b, next⟩
  · rw [hq] at hbusy
    refine ⟨[], S, rfl, h.act hbusy hstep (fun j _ => SameAt.refl S j) rfl (Or.inl rfl) ?_⟩
    exact ha.done hq
  · -- the next section
    rw [hq] at hpaired
    obtain ⟨r, hb⟩ := ha.lock hpaired.lock_inv.1 hq
    exact h.lock hexit hb hq hstep
  -- a write, under the guard: the section's end sees it
  · rw [hq] at hbusy hpaired
    refine ⟨[], S, rfl, h.act hbusy hstep (fun j _ => SameAt.refl S j) rfl
      (Or.inr ((hinv.holds i).mp hpaired.store_inv.1)) ?_⟩
    refine ha.go hexit _ (s.threads i).guard id ?_ ?_
    · rw [hq]
      exact fun hblind => ⟨hblind, rfl⟩
    · rw [hq]
      exact fun htail => htail.elim
  -- the section ends: the stream has been through it already
  · exact ⟨[], S, rfl, h.unlock hexit ha hq hstep⟩
  -- a call inside the section, or after it
  · rw [hq] at hbusy
    refine ⟨[], S, rfl, h.act hbusy hstep (fun j _ => SameAt.refl S j) rfl (Or.inl rfl) ?_⟩
    refine ha.go hexit _ (s.threads i).guard id ?_ ?_
    · rw [hq]
      intro hblind
      refine ⟨hblind.2 _, ?_⟩
      rw [hblind.after_call gpu]
      rfl
    · rw [hq]
      exact fun htail => ⟨htail _, rfl⟩
  -- an addition
  · rw [hq] at hbusy
    refine ⟨[], S, rfl, h.act hbusy hstep (fun j _ => SameAt.refl S j) rfl (Or.inl rfl) ?_⟩
    refine ha.go hexit _ (s.threads i).guard id ?_ ?_
    · rw [hq]
      exact fun hblind => ⟨hblind _, rfl⟩
    · rw [hq]
      exact fun htail => ⟨htail _, rfl⟩

/-- A task panics, and its stream stays where it is. -/
theorem panic (h : Simulated s S) {i : ι}
    (hstep : Mutex.step (Task.next gpu) s (.panic i) = some s') : Simulated s' S := by
  obtain ⟨go, dead, hnext, hs⟩ := Mutex.State.fail_cases hstep
  -- a task that panics is in the middle of a frame
  have hdead : ∃ e, dead.exit = some e ∧ dead.served = (s.threads i).served := by
    rcases hexit : (s.threads i).exit with _ | e
    · rcases hcur : (s.threads i).current with _ | x
      · unfold Task.next at hnext
        rw [hexit, hcur] at hnext
        rcases htodo : (s.threads i).todo with _ | ⟨y, todo⟩
        · rw [htodo] at hnext
          cases hnext
        · rw [htodo] at hnext
          cases hnext
      · -- only a wgpu call panics
        rw [Task.next_busy gpu hexit hcur] at hnext
        rcases hrest : x.rest with _ | _ | _ | _ | _ | _
        all_goals
          rw [hrest] at hnext
          cases hnext
        exact ⟨.panicked, rfl, rfl⟩
    · rw [Task.next_exited gpu (by rw [hexit]; exact Option.some_ne_none e)] at hnext
      cases hnext
  -- its stream stays where it is, and has answered what the task has
  obtain ⟨e, hexit, hserved⟩ := hdead
  have hthread : s'.threads i = dead := by
    rw [hs]
    exact Function.update_self _ _ _
  refine h.update hstep (fun j _ => SameAt.refl S j) (fun j _ _ => ?_) ?_ (fun _ => ?_) ?_
  · rw [hs]
    exact ⟨rfl, rfl⟩
  -- the mutex is not poisoned: the guard was not the task's
  · intro hfree hp
    rw [hs] at hfree hp ⊢
    obtain ⟨hp, hnot⟩ := Bool.or_eq_false_iff.mp hp
    have hnot := of_decide_eq_false hnot
    change (if s.holder = some i then none else s.holder) = none at hfree
    rw [if_neg hnot] at hfree
    exact h.tables hfree hp
  · refine Or.inr ?_
    show (s'.threads i).exit ≠ none
    rw [hthread, hexit]
    exact Option.some_ne_none e
  · show Follows S s'.shared.tables i (s'.threads i)
    rw [hthread]
    refine .gone hexit ?_
    unfold AnswersSoFar
    rw [hserved]
    exact (h.tasks i).answers

/-- **One operation** of a task is some sections of its stream, at most one. -/
theorem step (h : Simulated s S) {l : Mutex.Label ι}
    (hstep : Mutex.step (Task.next gpu) s l = some s') :
    ∃ order S', run (Streams.step gpu) S order = some S' ∧ Simulated s' S' := by
  -- an operation or a panic
  rcases l with i | i
  · rcases h.tasks i with ⟨hexit, hidle⟩ | ⟨hexit, hbehind⟩ | ⟨hexit, hahead⟩ | ⟨hexit, hanswers⟩
    · obtain ⟨budget, hinv⟩ := h.disciplined
      have hwithin := hinv.within i
      unfold Task.Within at hwithin
      rw [hexit, hidle.current] at hwithin
      rcases htodo : (s.threads i).todo with _ | ⟨x, todo⟩
      · have hnext : (s.threads i).next gpu = .finish := by
          unfold Task.next
          rw [hexit, hidle.current, htodo]
        change s.go i (Task.next gpu (s.threads i)) = some s' at hstep
        rw [hnext] at hstep
        cases hstep
      · have hnext : (s.threads i).next gpu =
            .act (fun b => (b, (s.threads i).take x todo)) none := by
          unfold Task.next
          rw [hexit, hidle.current, htodo]
        exact ⟨[], S, rfl, h.act hnext hstep (fun j _ => SameAt.refl S j) rfl (Or.inl rfl)
          (hidle.take hexit hwithin.1 htodo)⟩
    · exact h.go_behind hexit hbehind hstep
    · exact h.go_ahead hexit hahead hstep
    · change s.go i (Task.next gpu (s.threads i)) = some s' at hstep
      rw [Task.next_exited gpu (by rw [hexit]; exact Option.some_ne_none _)] at hstep
      cases hstep
  · exact ⟨[], S, rfl, h.panic hstep⟩

end Simulated

/-! ## Runs -/

/-- The streams before their first sections. -/
def sections (tables : ResourceTables) (device : List Event) (streams : ι → List Ticket) :
    Streams ι :=
  Streams.new ⟨tables, device, fun _ => []⟩ fun i => (streams i).map Ticket.numbered

omit [DecidableEq ι] in
theorem simulated_start (tables : ResourceTables) (device : List Event)
    (streams : ι → List Ticket) :
    Simulated (start tables device streams) (sections tables device streams) where
  disciplined := ⟨_, inv_start tables device streams⟩
  tables _ _ := rfl
  poisoned hp := by cases hp
  tasks _ := .idle rfl ⟨rfl, rfl, rfl, .nil⟩

/-- The simulation over whole runs, by induction on the run from `simulated_step`. -/
theorem simulated_run {gpu : Gpu} {tables : ResourceTables} {device : List Event}
    {streams : ι → List Ticket} {ls : List (Mutex.Label ι)} {s : Mutex.State ι Backend Task}
    (hrun : run (Mutex.step (Task.next gpu)) (start tables device streams) ls = some s) :
    ∃ order S, run (Streams.step gpu) (sections tables device streams) order = some S ∧
      Simulated s S :=
  run_simulated _ (fun _ _ _ _ h hstep => h.step hstep) (simulated_start tables device streams) hrun

omit [DecidableEq ι] in
/-- The task and the stream have served the same. -/
theorem Simulated.at_rest {s : Mutex.State ι Backend Task} {S : Streams ι} (h : Simulated s S) {i : ι}
    (hexit : (s.threads i).exit = none) (hcurrent : (s.threads i).current = none) :
    Idle S i (s.threads i) := by
  rcases h.tasks i with ⟨-, hidle⟩ | ⟨-, hbehind⟩ | ⟨-, hahead⟩ | ⟨hgone, -⟩
  · exact hidle
  · rw [hbehind.current] at hcurrent
    cases hcurrent
  · rw [hahead.current] at hcurrent
    cases hcurrent
  · rw [hexit] at hgone
    cases hgone

/-- What the tasks have come to, a run of whole sections comes to: it has the same
tables when the lock is free, and the same answers, and is itself between two
actions of a stream when the task is. -/
def AsSections (gpu : Gpu) (tables : ResourceTables) (device : List Event)
    (streams : ι → List Ticket) (s : Mutex.State ι Backend Task) : Prop :=
  ∃ order S, run (Streams.step gpu) (sections tables device streams) order = some S ∧
    (s.holder = none → s.poisoned = false → S.outcome.tables = s.shared.tables) ∧
    ∀ i, AnswersSoFar S i (s.threads i) ∧
      ((s.threads i).exit = none → (s.threads i).current = none → Idle S i (s.threads i))

/-- **Sections are atomic**, in every run of the tasks, operation by operation and
whatever panics. -/
theorem sections_atomic (gpu : Gpu) (tables : ResourceTables) (device : List Event)
    (streams : ι → List Ticket) {ls : List (Mutex.Label ι)} {s : Mutex.State ι Backend Task}
    (hrun : run (Mutex.step (Task.next gpu)) (start tables device streams) ls = some s) :
    AsSections gpu tables device streams s := by
  obtain ⟨order, S, hsections, hsim⟩ := simulated_run hrun
  exact ⟨order, S, hsections, hsim.tables, fun i => ⟨(hsim.tasks i).answers, hsim.at_rest⟩⟩

/-! ## Streams that leave each other alone -/

/-- No stream makes or removes an entry that another one reads. -/
def Apart (streams : ι → List Ticket) : Prop :=
  ∀ i j, i ≠ j → ∀ x ∈ streams i, ∀ y ∈ streams j, ∀ ref ∈ y.frame.action.reads,
    Streams.writes x.frame.action ≠ some ref

/-- Streams that leave each other's entries alone are never disturbed: what is in hand and what
the others have left are frames of the streams they started with. -/
theorem Apart.undisturbed {gpu : Gpu} {first : Outcome ι} {streams : ι → List Ticket}
    (hapart : Apart streams) {order : List (ι × Numbered)} {S : Streams ι}
    (h : Streams.Explained gpu first (fun i => (streams i).map Ticket.numbered) order S) (i : ι) :
    S.Undisturbed i := by
  intro r todo hhand j hj other hother ref href
  have hr : r.item ∈ (streams i).map Ticket.numbered := by
    rw [← (h.in_hand hhand).1]
    exact List.mem_append_right _ List.mem_cons_self
  have hitem : other.item ∈ (streams j).map Ticket.numbered := by
    rw [← h.kept j, hother]
    exact List.mem_append_left _ (List.mem_append_right _ (List.mem_singleton_self _))
  obtain ⟨x, hx, hxr⟩ := List.mem_map.mp hr
  obtain ⟨y, hy, hyo⟩ := List.mem_map.mp hitem
  rw [← hyo] at href
  rw [← hxr]
  exact hapart i j (Ne.symm hj) x hx y hy ref href

/-- One action dispatched after the other, in an order that keeps that of each
stream, comes to the same tables and the same answers. -/
def InTurn (gpu : Gpu) (tables : ResourceTables) (device : List Event)
    (streams : ι → List Ticket) (s : Mutex.State ι Backend Task) : Prop :=
  ∃ order : List (ι × Numbered),
    (∀ i, Streams.actions_of i order = (streams i).map Ticket.numbered) ∧
    (order.foldl (Outcome.serve gpu) ⟨tables, device, fun _ => []⟩).tables = s.shared.tables ∧
    ∀ i, List.Forall₂ Answered (s.threads i).served
      ((order.foldl (Outcome.serve gpu) ⟨tables, device, fun _ => []⟩).served i)

/-- **Streams that leave each other alone are served in turn**, operation by
operation as well, when all their frames are served. -/
theorem served_in_turn (gpu : Gpu) (tables : ResourceTables) (device : List Event)
    (streams : ι → List Ticket) {ls : List (Mutex.Label ι)} {s : Mutex.State ι Backend Task}
    (hrun : run (Mutex.step (Task.next gpu)) (start tables device streams) ls = some s)
    (hserved : ∀ i, (s.threads i).exit = none ∧ (s.threads i).served.map Prod.fst = streams i)
    (hapart : Apart streams) : InTurn gpu tables device streams s := by
  obtain ⟨labels, S, hsections, hsim⟩ := simulated_run hrun
  -- every stream was served to its end, so no task has a frame in hand
  have hcurrent : ∀ i, (s.threads i).current = none ∧ (s.threads i).todo = [] := by
    intro i
    have hbooks : (s.threads i).Accounts (streams i) :=
      Mutex.run_leads (fun t ht => Task.Accounts.leads gpu ht) hrun (Task.Accounts.new (streams i))
    have hframes := hbooks.frames
    rw [(hserved i).2, List.append_assoc, List.append_right_eq_self, List.append_eq_nil_iff] at hframes
    rcases hcur : (s.threads i).current with _ | x
    · exact ⟨rfl, hframes.2⟩
    · rw [hcur] at hframes
      cases hframes.1
  have hidle : ∀ i, Idle S i (s.threads i) := fun i =>
    hsim.at_rest (hserved i).1 (hcurrent i).1
  -- with every section undisturbed, the streams explain themselves by an order of actions
  obtain ⟨order, hexplained⟩ : ∃ order, Streams.Explained gpu ⟨tables, device, fun _ => []⟩
      (fun i => (streams i).map Ticket.numbered) order S := by
    have hstep : ∀ (S : Streams ι) i S', (∃ order, Streams.Explained gpu
        ⟨tables, device, fun _ => []⟩ (fun i => (streams i).map Ticket.numbered) order S) →
        S.step gpu i = some S' → ∃ order, Streams.Explained gpu ⟨tables, device, fun _ => []⟩
          (fun i => (streams i).map Ticket.numbered) order S' := by
      rintro S i S' ⟨order, h⟩ hstep
      exact h.step (hapart.undisturbed h i) hstep
    exact run_invariant _ hstep ⟨[], Streams.explained_new⟩ hsections
  refine ⟨order, fun i => ?_, ?_, fun i => ?_⟩
  · have hkept := hexplained.kept i
    rw [(hidle i).at_rest, (hidle i).todo, (hcurrent i).2] at hkept
    rw [← hkept]
    simp
  · rw [hexplained.outcome]
    apply hsim.tables
    · -- nobody has the guard any more
      obtain ⟨budget, hinv⟩ := hsim.disciplined
      rcases hholder : s.holder with _ | j
      · rfl
      · have hguard := (hinv.holds j).mpr hholder
        have hwithin := hinv.within j
        unfold Task.Within at hwithin
        rw [(hserved j).1, (hcurrent j).1, hguard] at hwithin
        cases hwithin.1
    · rcases hp : s.poisoned
      · rfl
      · obtain ⟨j, hj⟩ := hsim.poisoned hp
        exact absurd (hserved j).1 hj
  · rw [hexplained.outcome]
    exact (hidle i).served

end Atomicity

section Runs

attribute [local instance] WgpuTypes.numeric

/-- One stream makes a buffer and writes to it, the other one makes another buffer. -/
def two_buffers : Bool → List Ticket
  | true =>
      [⟨0, ⟨some ⟨1⟩, .CreateBuffer ⟨7⟩ ⟨none, 4, (8 : UInt32), false⟩⟩⟩,
        ⟨1, ⟨some ⟨2⟩, .WriteBuffer ⟨7⟩ 0 [1, 2, 3, 4]⟩⟩]
  | false => [⟨2, ⟨some ⟨1⟩, .CreateBuffer ⟨8⟩ ⟨none, 4, (8 : UInt32), false⟩⟩⟩]

/-- Their operations, in turn as far as the lock lets them. -/
def two_buffers_run : List (Mutex.Label Bool) :=
  [.step true, .step false, .step true, .step false, .step true, .step true, .step true,
    .step false, .step true, .step false, .step true, .step false, .step true, .step false,
    .step true, .step true, .step true, .step true]

/-- Both streams are served, as by sections. -/
theorem two_buffers_atomic :
    ∃ s, run (Mutex.step (Task.next idle_gpu)) (start ResourceTables.empty [] two_buffers)
        two_buffers_run = some s ∧ (s.threads true).served.length = 2 ∧
      AsSections idle_gpu ResourceTables.empty [] two_buffers s := by
  obtain ⟨s, hrun, hlength⟩ : ∃ s, run (Mutex.step (Task.next idle_gpu))
      (start ResourceTables.empty [] two_buffers) two_buffers_run = some s ∧
        (s.threads true).served.length = 2 := ⟨_, rfl, rfl⟩
  exact ⟨s, hrun, hlength, sections_atomic idle_gpu ResourceTables.empty [] two_buffers hrun⟩

/-- And as one after the other. -/
theorem two_buffers_in_turn :
    ∃ s, run (Mutex.step (Task.next idle_gpu)) (start ResourceTables.empty [] two_buffers)
        two_buffers_run = some s ∧ InTurn idle_gpu ResourceTables.empty [] two_buffers s := by
  obtain ⟨s, hrun, htrue, hfalse⟩ : ∃ s, run (Mutex.step (Task.next idle_gpu))
      (start ResourceTables.empty [] two_buffers) two_buffers_run = some s ∧
        ((s.threads true).exit = none ∧ (s.threads true).served.map Prod.fst = two_buffers true) ∧
        ((s.threads false).exit = none ∧
          (s.threads false).served.map Prod.fst = two_buffers false) :=
    ⟨_, rfl, ⟨rfl, rfl⟩, rfl, rfl⟩
  have hapart : Apart two_buffers := by
    unfold Apart
    decide
  refine ⟨s, hrun, served_in_turn idle_gpu ResourceTables.empty [] two_buffers hrun ?_ hapart⟩
  intro i
  rcases i
  · exact hfalse
  · exact htrue

end Runs

end WgpuRemote.Server
