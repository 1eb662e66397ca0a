/-
Actions that have nothing to do with each other.

Two actions are independent if no id that one of them creates or destroys is
mentioned by the other. What an arm does is settled by the entries it reads: how
it ends, and one operation on the tables, on an entry it creates or destroys
(`arm_comes`). This takes two assumptions. The objects wgpu makes depend on
nothing but the call, so they are named by `made` here and not after the dispatch
that asked for them; and the action is not a readback, whose answer is what the
GPU has done so far.

So independent actions commute, and the threads that share a queue do not notice
how it was interleaved (`independent_actions_commute`).
-/
import WgpuRemote.Lib.Interleaving
import WgpuRemote.Server.Sections

set_option autoImplicit false

namespace WgpuRemote.Server

open Bincode Footprint
open Wgpu (Occ Obj Call Event Gpu)
open Dispatch (attempt issue make add store with_tables insert respond exec)
open Prog (Mem Looks)

section Independence

variable [WgpuTypes]

/-! ## Independent actions -/

/-- The ids an action creates, derives or destroys. -/
def changes (a : Action) : List Ref := a.creates.toList ++ a.destroys.toList

/-- All ids an action mentions. -/
def mentions (a : Action) : List Ref := a.reads ++ changes a

/-- The action is answered with what is in a buffer. -/
def is_readback : Action → Bool
  | .MapBufferForRead _ _ _ => true
  | _ => false

/-- What one of the two changes, the other does not mention. -/
structure Independent (a b : Action) : Prop where
  left : ∀ r ∈ changes a, r ∉ mentions b
  right : ∀ r ∈ changes b, r ∉ mentions a

/-! ## Objects that depend on the call alone -/

/-- What wgpu answers to a call of the next dispatch, if an object depends on the
descriptor and the objects the call refers to, and on nothing else. -/
def Engine.reply_by (made : Call → Occ) (gpu : Gpu) (e : Engine) (occ : Occ) (c : Call) : Answer :=
  { e.reply gpu occ c with made := made c }

/-- `dispatch`, run to its end. -/
def Engine.serve (made : Call → Occ) (gpu : Gpu) (e : Engine) (frame : Frame) :
    Option ResponseFrame × Engine :=
  let (r, m) := (Server.dispatch frame).run (e.reply_by made gpu) e.dispatched ⟨e.tables, []⟩
  (r, { tables := m.tables, log := e.log ++ m.events, dispatched := e.dispatched + 1 })

/-- The answers name objects so. -/
def NamesBy (made : Call → Occ) (reply : Occ → Call → Answer) : Prop :=
  ∀ occ c, (reply occ c).made = made c

/-! ## Code that is settled -/

/-- Whatever dispatch runs it, the code ends with `r` and does `op` to the tables,
on all tables that have the entries of `t` at `S`. -/
def Comes {α : Type} (made : Call → Occ) (S : List Ref) (t : ResourceTables) (p : Dispatch α)
    (r : Except Response α) (op : Store.Op Ref Occ) : Prop :=
  ∀ reply d s evs, NamesBy made reply → AgreeOn S t s →
    ∃ evs', exec reply d p ⟨s, evs⟩ = (r, ⟨op.apply s, evs'⟩)

variable {α β : Type} {made : Call → Occ} {S : List Ref} {t : ResourceTables}

namespace Comes

variable {p : Dispatch α} {f : α → Dispatch β} {op : Store.Op Ref Occ}

/-- A resolved descriptor comes to its result and leaves the tables. -/
theorem attempt (r : Except Response α) : Comes made S t (attempt r) r .skip :=
  fun _ _ _ evs _ _ => ⟨evs, rfl⟩

theorem pure (a : α) : Comes made S t (Pure.pure a : Dispatch α) (.ok a) .skip := attempt (.ok a)

/-- The step ends the code. -/
theorem bind_error {r : Response} (hp : Comes made S t p (.error r) op) :
    Comes made S t (p >>= f) (.error r) op := by
  intro reply d s evs hmade hagree
  obtain ⟨evs', hexec⟩ := hp reply d s evs hmade hagree
  exact ⟨evs', Dispatch.exec_bind_error reply d _ hexec⟩

/-- The step leaves the tables to the rest. -/
theorem bind_ok {a : α} {r : Except Response β} (hp : Comes made S t p (.ok a) .skip)
    (hf : Comes made S t (f a) r op) : Comes made S t (p >>= f) r op := by
  intro reply d s evs hmade hagree
  obtain ⟨evs', hexec⟩ := hp reply d s evs hmade hagree
  rw [Dispatch.exec_bind_ok reply d _ hexec]
  exact hf reply d s evs' hmade hagree

/-- A call whose answer is not used. -/
theorem issue {c : Call} {r : Except Response β} {f : Dispatch β} (hf : Comes made S t f r op) :
    Comes made S t (issue c >>= fun _ => f) r op := by
  intro reply d s evs hmade hagree
  rw [Dispatch.exec_bind_ok reply d _ (Dispatch.exec_issue reply d _ c)]
  exact hf reply d s _ hmade hagree

/-- A section that is the same code on all such tables. -/
theorem with_tables {body : ResourceTables → Dispatch α} {r : Except Response α}
    (hbody : ∀ s, AgreeOn S t s → body t = body s) (h : Comes made S t (body t) r op) :
    Comes made S t (with_tables body) r op := by
  intro reply d s evs hmade hagree
  rw [Dispatch.exec_with_tables, ← hbody s hagree]
  exact h reply d s evs hmade hagree

end Comes

/-- Code that only looks, and that only makes objects and records commands. -/
theorem comes_of_looks {p : Dispatch α} (h : Looks S p.run) (made : Call → Occ)
    (t : ResourceTables) : ∃ r, Comes made S t p r .skip := by
  unfold Comes exec
  generalize p.run = code at h
  induction h with
  | done a => exact ⟨a, fun _ _ _ evs _ _ => ⟨evs, rfl⟩⟩
  | lock hcongr _ ih =>
      obtain ⟨r, hr⟩ := ih t
      refine ⟨r, fun reply d s evs hmade hagree => ?_⟩
      obtain ⟨evs', hrun⟩ := hr reply d s evs hmade hagree
      rw [hcongr t s hagree] at hrun
      exact ⟨evs', hrun⟩
  | unlock _ ih => exact ih
  | @call c next _ hsame _ ih =>
      -- of the answer it uses the name, which the call decides
      obtain ⟨r, hr⟩ := ih ⟨made c, .Ok, []⟩
      refine ⟨r, fun reply d s evs hmade hagree => ?_⟩
      obtain ⟨evs', hrun⟩ := hr reply d s _ hmade hagree
      rw [hsame _ _ (hmade _ c).symm] at hrun
      exact ⟨evs', hrun⟩
  | @add a b next _ ih => exact ih (a + b)

/-! ## The arms -/

/-- The operation is on one of the entries. -/
def OnlyAt (refs : List Ref) (op : Store.Op Ref Occ) : Prop := ∀ r, op.touches r → r ∈ refs

omit [WgpuTypes] in
theorem only_at_skip (refs : List Ref) : OnlyAt refs .skip := fun _ h => h.elim

/-- The arms that create put the object at the id, if all they name is there. -/
theorem comes_creation {a : Action} {c : Creation} (hc : creation a = some c) (made : Call → Occ)
    (t : ResourceTables) :
    ∃ r op, OnlyAt (changes a) op ∧ Comes made a.reads t (handle_arm a) r op := by
  have hcall : ∀ s, AgreeOn a.reads t s → c.call t = c.call s :=
    (creation_resolves hc).congr t
  cases hv : c.call t with
  | error r =>
      refine ⟨.error r, .skip, only_at_skip _, fun reply d s evs _ hagree => ⟨evs, ?_⟩⟩
      rw [exec_creation reply d _ hc, ← hcall s hagree, hv]
      rfl
  | ok call =>
      refine ⟨.ok .Ok, .put c.ref (made call), fun r hr => ?_, fun reply d s evs hmade hagree => ?_⟩
      · have hcreates : a.creates = some c.ref := by rw [← creation_ref, hc]; rfl
        rw [changes, hcreates]
        exact List.mem_append_left _ (List.mem_singleton.mpr hr.symm)
      · have hput : created reply d ⟨s, evs⟩ c.ref call =
            ⟨Store.insert s c.ref (made call), (Mem.log ⟨s, evs⟩ d call).events⟩ := by
          rw [created, hmade]
        rw [exec_creation reply d _ hc, ← hcall s hagree, hv]
        exact ⟨_, congrArg (Prod.mk _) hput⟩

/-- A section that looks one id up: it ends there, or goes on with what it found. -/
theorem comes_with_lookup {k : Kind} (id : Id k) {f : Obj k → Dispatch α} {a : α}
    (hf : ∀ o, Comes made [id.ref] t (f o) (.ok a) .skip) :
    (∃ r, Comes made [id.ref] t (with_tables fun t => attempt (lookup t id) >>= f) (.error r) .skip) ∨
      Comes made [id.ref] t (with_tables fun t => attempt (lookup t id) >>= f) (.ok a) .skip := by
  have hbody : ∀ s, AgreeOn [id.ref] t s →
      (attempt (lookup t id) >>= f) = attempt (lookup s id) >>= f := by
    intro s hs
    rw [(resolves_lookup id).congr t s hs]
  cases hid : lookup t id with
  | error r =>
      refine Or.inl ⟨r, Comes.with_tables hbody ?_⟩
      rw [hid]
      exact (Comes.attempt _).bind_error
  | ok o =>
      refine Or.inr (Comes.with_tables hbody ?_)
      rw [hid]
      exact (Comes.attempt _).bind_ok (hf o)

/-- A write to a buffer is settled by that buffer's entry and leaves the tables alone. -/
theorem comes_write_buffer (buffer : BufferId) (offset : BufferAddress) (data : Bytes)
    (made : Call → Occ) (t : ResourceTables) :
    ∃ r, Comes made [buffer.ref] t (write_buffer buffer offset data) r .skip := by
  have hwrite : ∀ b : Obj .Buffer, Comes made [buffer.ref] t
      (issue (.write_buffer b offset data) >>= fun _ => Pure.pure ()) (.ok ()) .skip :=
    fun b => Comes.issue (Comes.pure ())
  unfold write_buffer with_buffer
  rcases comes_with_lookup buffer hwrite with ⟨r, h⟩ | h
  · exact ⟨_, h.bind_error⟩
  · exact ⟨_, h.bind_ok (Comes.issue (Comes.pure _))⟩

/-- A write to a texture, by that texture's entry. -/
theorem comes_write_texture (texture : TextureId) (mip_level : UInt32) (origin : Origin3d)
    (aspect : TextureAspect) (data : Bytes) (data_layout : TexelCopyBufferLayout) (size : Extent3d)
    (made : Call → Occ) (t : ResourceTables) :
    ∃ r, Comes made [texture.ref] t
      (write_texture texture mip_level origin aspect data data_layout size) r .skip := by
  have hwrite : ∀ tex : Obj .Texture, Comes made [texture.ref] t
      (issue (.write_texture { texture := tex, mip_level, origin, aspect } data data_layout size)
        >>= fun _ => issue (.submit []) >>= fun _ => Pure.pure Response.Ok) (.ok .Ok) .skip :=
    fun tex => Comes.issue (Comes.issue (Comes.pure _))
  unfold write_texture
  rcases comes_with_lookup texture hwrite with ⟨r, h⟩ | h
  · exact ⟨_, h⟩
  · exact ⟨_, h⟩

/-- A submission, by the entries its payloads name. -/
theorem comes_submit (recordings : List Bytes) (made : Call → Occ) (t : ResourceTables) :
    ∃ r, Comes made (recordings.flatMap payload_refs) t (submit recordings) r .skip := by
  obtain ⟨r, hr⟩ := comes_of_looks (looks_recordings recordings) made t
  unfold submit
  cases r with
  | error r => exact ⟨_, hr.bind_error⟩
  | ok cbs => exact ⟨_, hr.bind_ok (Comes.issue (Comes.pure _))⟩

/-- **What an arm does** is settled by the entries its action reads. -/
theorem arm_comes {a : Action} (ha : is_readback a = false) (made : Call → Occ)
    (t : ResourceTables) :
    ∃ r op, OnlyAt (changes a) op ∧ Comes made a.reads t (handle_arm a) r op := by
  have hskip : ∀ {p : Dispatch Response}, (∃ r, Comes made a.reads t p r .skip) →
      ∃ r op, OnlyAt (changes a) op ∧ Comes made a.reads t p r op := by
    rintro p ⟨r, hr⟩
    exact ⟨r, .skip, only_at_skip _, hr⟩
  cases hc : creation a with
  | some c => exact comes_creation hc made t
  | none =>
      -- of the others only the arm that removes does something to the tables
      cases a with
      | Hello v => exact hskip ⟨_, Comes.pure _⟩
      | RequestAdapter => exact hskip ⟨_, Comes.pure _⟩
      | RequestDevice label => exact hskip ⟨_, Comes.pure _⟩
      | CreateCommandEncoder id desc => exact hskip ⟨_, Comes.pure _⟩
      | Destroy resource =>
          cases resource with
          | Buffer id =>
              refine ⟨.ok .Ok, .del id.ref, fun r hr => ?_, fun _ _ _ evs _ _ => ⟨evs, rfl⟩⟩
              exact List.mem_singleton.mpr hr.symm
          | _ => exact hskip ⟨_, Comes.pure _⟩
      | WriteBuffer buffer offset data => exact hskip (comes_write_buffer buffer offset data made t)
      | WriteTexture texture mip_level origin aspect data data_layout size =>
          exact hskip
            (comes_write_texture texture mip_level origin aspect data data_layout size made t)
      | Submit recordings => exact hskip (comes_submit recordings made t)
      | MapBufferForRead buffer offset size => cases ha
      | _ => cases hc

/-! ## One action, on given tables -/

/-- How an action is answered on given tables, and what it makes of them. -/
def table_step (made : Call → Occ) (a : Action) (t : ResourceTables) : Response × ResourceTables :=
  let (r, m) := exec (fun _ c => ⟨made c, .Ok, []⟩) 0 (handle_arm a) ⟨t, []⟩
  (settle r, m.tables)

/-- Code that is settled on given tables is answered alike on all that agree with them. -/
theorem table_step_comes {a : Action} {r : Except Response Response} {op : Store.Op Ref Occ}
    (h : Comes made S t (handle_arm a) r op) {s : ResourceTables} (hs : AgreeOn S t s) :
    table_step made a s = (settle r, op.apply s) := by
  obtain ⟨evs, hexec⟩ := h (fun _ c => ⟨made c, .Ok, []⟩) 0 s [] (fun _ _ => rfl) hs
  unfold table_step
  rw [hexec]

/-- **The footprint of an action**: it looks at what it reads, and changes no more
than what it creates or destroys. -/
theorem within_table_step {a : Action} (ha : is_readback a = false) (made : Call → Occ) :
    Interleaving.Within (table_step made a) {r | r ∈ a.reads} {r | r ∈ changes a} where
  result s t h := by
    obtain ⟨r, op, -, hcomes⟩ := arm_comes ha made s
    rw [table_step_comes hcomes (fun _ _ => rfl), table_step_comes hcomes h]
  frame s ref href := by
    obtain ⟨r, op, hop, hcomes⟩ := arm_comes ha made s
    rw [table_step_comes hcomes (fun _ _ => rfl)]
    exact Store.Op.apply_of_not_touches (fun htouch => href (hop ref htouch)) s
  written s t h := by
    intro ref href
    obtain ⟨r, op, -, hcomes⟩ := arm_comes ha made s
    have hreads : AgreeOn a.reads s t := fun k hk => h (Or.inl hk)
    rw [table_step_comes hcomes (fun _ _ => rfl), table_step_comes hcomes hreads]
    exact op.apply_congr (h (Or.inr href))

/-- Independent actions commute. -/
theorem table_step_commutes {a b : Action} (ha : is_readback a = false) (hb : is_readback b = false)
    (h : Independent a b) (made : Call → Occ) :
    Interleaving.Commutes (table_step made a) (table_step made b) := by
  refine (within_table_step ha made).commutes (within_table_step hb made) ?_ ?_
  · intro r hr hr'
    exact h.left r hr (List.mem_append.mpr hr')
  · intro r hr hr'
    exact h.right r hr (List.mem_append.mpr hr')

/-! ## One frame, on an engine -/

/-- What a frame comes to, whatever the engine has done before. -/
theorem serve_eq (made : Call → Occ) (gpu : Gpu) (e : Engine) {frame : Frame}
    (h : is_readback frame.action = false) :
    (e.serve made gpu frame).1 = frame.request_id.map
        (fun rid => ⟨rid, (table_step made frame.action e.tables).1⟩) ∧
      (e.serve made gpu frame).2.tables = (table_step made frame.action e.tables).2 := by
  obtain ⟨r, op, -, hcomes⟩ := arm_comes h made e.tables
  have hstep := table_step_comes hcomes (fun _ _ => rfl)
  obtain ⟨evs, hexec⟩ := hcomes (e.reply_by made gpu) e.dispatched e.tables [] (fun _ _ => rfl)
    (fun _ _ => rfl)
  unfold Engine.serve
  rw [run_dispatch, hexec, hstep]
  exact ⟨rfl, rfl⟩

/-! ## A queue -/

/-- What a frame asks for: whether it wants an answer, and its action. The number
of its request id is not part of it. -/
def asked (frame : Frame) : Bool × Action := (frame.request_id.isSome, frame.action)

/-- Serve the frames of a queue in order. -/
def Engine.serve_queue {ι : Type} (made : Call → Occ) (gpu : Gpu) (e : Engine)
    (queue : List (ι × Frame)) : List (ι × Option ResponseFrame) × Engine :=
  Interleaving.run (fun frame e => e.serve made gpu frame) queue e

/-- The responses of thread `i`. -/
def answers_to {ι : Type} [DecidableEq ι] (i : ι) (answers : List (ι × Option ResponseFrame)) :
    List (Option Response) :=
  (Interleaving.of_thread i answers).map (Option.map ResponseFrame.response)

/-- What is asked for, on given tables. -/
def asked_step (made : Call → Occ) (q : Bool × Action) (t : ResourceTables) :
    Option Response × ResourceTables :=
  (if q.1 then some (table_step made q.2 t).1 else none, (table_step made q.2 t).2)

/-- A frame that is no readback is answered by the tables alone, and does to them what
`table_step` says. -/
theorem asked_step_serve (made : Call → Occ) (gpu : Gpu) (e : Engine) {frame : Frame}
    (h : is_readback frame.action = false) :
    asked_step made (asked frame) e.tables =
      ((e.serve made gpu frame).1.map ResponseFrame.response,
        (e.serve made gpu frame).2.tables) := by
  obtain ⟨hanswer, htables⟩ := serve_eq made gpu e h
  rw [hanswer, htables]
  obtain ⟨request_id, action⟩ := frame
  cases request_id with
  | none => rfl
  | some rid => rfl

/-- A queue served on an engine is its requests carried out on the tables. -/
theorem serve_queue_eq {ι : Type} (made : Call → Occ) (gpu : Gpu) (e : Engine)
    {queue : List (ι × Frame)} (h : ∀ x ∈ queue, is_readback x.2.action = false) :
    Interleaving.run (asked_step made) (queue.map (Prod.map id asked)) e.tables =
      ((e.serve_queue made gpu queue).1.map (Prod.map id (Option.map ResponseFrame.response)),
        (e.serve_queue made gpu queue).2.tables) :=
  Interleaving.run_abstract (fun x hx e => asked_step_serve made gpu e (h x hx)) e

/-- Two queues that hold the same requests for each thread. -/
def SameRequests {ι : Type} [DecidableEq ι] (queue queue' : List (ι × Frame)) : Prop :=
  ∀ i, (Interleaving.of_thread i queue).map asked = (Interleaving.of_thread i queue').map asked

/-- Two orders in which a queue may be served, each stream's own order kept, end in the same
tables and give each stream the same answers. -/
theorem serve_queue_same {ι : Type} [DecidableEq ι] (made : Call → Occ) (gpu : Gpu) (e : Engine)
    {queue queue' : List (ι × Frame)} (hsame : SameRequests queue queue')
    (hread : ∀ x ∈ queue, is_readback x.2.action = false)
    (hind : ∀ x ∈ queue, ∀ y ∈ queue, x.1 ≠ y.1 → Independent x.2.action y.2.action) :
    (e.serve_queue made gpu queue).2.tables = (e.serve_queue made gpu queue').2.tables ∧
      ∀ i, answers_to i (e.serve_queue made gpu queue).1 =
        answers_to i (e.serve_queue made gpu queue').1 := by
  -- the other queue holds no other actions
  have hread' : ∀ x ∈ queue', is_readback x.2.action = false := by
    intro x hx
    have hmem : asked x.2 ∈ (Interleaving.of_thread x.1 queue').map asked :=
      List.mem_map_of_mem (Interleaving.mem_of_thread.mpr hx)
    rw [← hsame] at hmem
    obtain ⟨frame, hframe, heq⟩ := List.mem_map.mp hmem
    have haction : frame.action = x.2.action := congrArg Prod.snd heq
    rw [← haction]
    exact hread _ (Interleaving.mem_of_thread.mp hframe)
  have hcommutes : ∀ x ∈ queue.map (Prod.map id asked), ∀ y ∈ queue.map (Prod.map id asked),
      x.1 ≠ y.1 → Interleaving.Commutes (asked_step made x.2) (asked_step made y.2) := by
    intro x hx y hy hne
    obtain ⟨x', hx', rfl⟩ := List.mem_map.mp hx
    obtain ⟨y', hy', rfl⟩ := List.mem_map.mp hy
    have h := table_step_commutes (hread x' hx') (hread y' hy') (hind x' hx' y' hy' hne) made
    exact h.report (fun r => if (asked x'.2).1 then some r else none)
      (fun r => if (asked y'.2).1 then some r else none)
  have hrequests : ∀ i, Interleaving.of_thread i (queue.map (Prod.map id asked)) =
      Interleaving.of_thread i (queue'.map (Prod.map id asked)) := by
    intro i
    rw [Interleaving.of_thread_map, Interleaving.of_thread_map]
    exact hsame i
  have hrun := Interleaving.run_interleaving hrequests hcommutes e.tables
  rw [serve_queue_eq made gpu e hread, serve_queue_eq made gpu e hread'] at hrun
  refine ⟨hrun.state, fun i => ?_⟩
  have hi := hrun.results i
  rw [Interleaving.of_thread_map, Interleaving.of_thread_map] at hi
  exact hi

/-- **Independent actions commute.** In either order they leave the same tables,
and each is answered the same. So a queue that several threads share may
interleave their independent requests in any way. -/
theorem independent_actions_commute (made : Call → Occ) (gpu : Gpu) (e : Engine) :
    (∀ f g : Frame, is_readback f.action = false → is_readback g.action = false →
      Independent f.action g.action →
      ((e.serve made gpu f).2.serve made gpu g).2.tables =
          ((e.serve made gpu g).2.serve made gpu f).2.tables ∧
        ((e.serve made gpu g).2.serve made gpu f).1 = (e.serve made gpu f).1 ∧
        ((e.serve made gpu f).2.serve made gpu g).1 = (e.serve made gpu g).1) ∧
    ∀ (ι : Type) [DecidableEq ι] (queue queue' : List (ι × Frame)), SameRequests queue queue' →
      (∀ x ∈ queue, is_readback x.2.action = false) →
      (∀ x ∈ queue, ∀ y ∈ queue, x.1 ≠ y.1 → Independent x.2.action y.2.action) →
      (e.serve_queue made gpu queue).2.tables = (e.serve_queue made gpu queue').2.tables ∧
        ∀ i, answers_to i (e.serve_queue made gpu queue).1 =
          answers_to i (e.serve_queue made gpu queue').1 := by
  refine ⟨fun f g hf hg h => ?_, fun ι _ queue queue' => serve_queue_same made gpu e⟩
  -- on the tables alone the two commute
  have hcommutes := table_step_commutes hf hg h made
  obtain ⟨hanswer_f, htables_f⟩ := serve_eq made gpu e hf
  obtain ⟨hanswer_g, htables_g⟩ := serve_eq made gpu e hg
  obtain ⟨hlate_f, hboth_f⟩ := serve_eq made gpu (e.serve made gpu g).2 hf
  obtain ⟨hlate_g, hboth_g⟩ := serve_eq made gpu (e.serve made gpu f).2 hg
  -- what is served second starts from what the first one left
  rw [htables_g] at hlate_f hboth_f
  rw [htables_f] at hlate_g hboth_g
  refine ⟨?_, ?_, ?_⟩
  · rw [hboth_g, hboth_f]
    exact hcommutes.state e.tables
  · rw [hlate_f, hanswer_f, hcommutes.first]
  · rw [hlate_g, hanswer_g, hcommutes.second]

end Independence

/-! ## Two threads on one device -/

section Examples

attribute [local instance] WgpuTypes.numeric

/-- Objects of a kind are named after what they are made of. -/
def by_size : Call → Occ
  | .create_buffer desc => ⟨0, desc.size.toNat⟩
  | .create_bind_group_layout desc => ⟨1, desc.entries.length⟩
  | _ => ⟨2, 0⟩

def make_buffer : Frame := ⟨some ⟨1⟩, .CreateBuffer ⟨1⟩ ⟨none, 8, (8 : UInt32), false⟩⟩

def fill_buffer : Frame := ⟨some ⟨2⟩, .WriteBuffer ⟨1⟩ 0 [1, 2, 3, 4]⟩

def make_layout : Frame := ⟨some ⟨3⟩, .CreateBindGroupLayout ⟨1⟩ ⟨none, []⟩⟩

/-- The layout's frame and the buffer's frames name different entries. -/
theorem layout_independent {frame : Frame} (h : frame = make_buffer ∨ frame = fill_buffer) :
    Independent frame.action make_layout.action ∧ Independent make_layout.action frame.action := by
  rcases h with rfl | rfl
  · exact ⟨⟨by decide, by decide⟩, ⟨by decide, by decide⟩⟩
  · exact ⟨⟨by decide, by decide⟩, ⟨by decide, by decide⟩⟩

/-- One thread makes a buffer and writes to it, another one makes a layout. The
layout is made before or after, or in between. -/
theorem layout_any_time :
    ((Engine.new.serve by_size idle_gpu make_buffer).2.serve by_size idle_gpu make_layout).2.tables =
        ((Engine.new.serve by_size idle_gpu make_layout).2.serve by_size idle_gpu
          make_buffer).2.tables ∧
      (Engine.new.serve_queue by_size idle_gpu
          [(true, make_buffer), (true, fill_buffer), (false, make_layout)]).2.tables =
        (Engine.new.serve_queue by_size idle_gpu
          [(true, make_buffer), (false, make_layout), (true, fill_buffer)]).2.tables := by
  obtain ⟨hpair, hqueue⟩ := independent_actions_commute by_size idle_gpu Engine.new
  have hbuffer := layout_independent (Or.inl rfl)
  have hfill := layout_independent (Or.inr rfl)
  refine ⟨(hpair make_buffer make_layout rfl rfl hbuffer.1).1, (hqueue Bool _ _ ?_ ?_ ?_).1⟩
  · intro i
    cases i with
    | true => rfl
    | false => rfl
  · simp [make_buffer, fill_buffer, make_layout, is_readback]
  · simp [hbuffer.1, hbuffer.2, hfill.1, hfill.2]

end Examples

end WgpuRemote.Server
