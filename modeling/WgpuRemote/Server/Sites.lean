/-
The wgpu calls a dispatch makes, and whether it holds the tables at each.

A `Site` is a call about to be made: the call, whether the guard of the tables
mutex is alive there, and the tables. `Prog.sites` lists them in order for a
program run to its end; what the program logs are exactly their calls
(`run_sites`). `Makes` is the property of a piece of code that all its calls are
of some sort and that it leaves tables and guard as it found them; its rules
follow the structure of the code, as those of `Reads` do.
-/
import WgpuRemote.Server.Contract

set_option autoImplicit false

namespace WgpuRemote.Server

open Bincode
open Wgpu (Occ Obj Call Event)
open Dispatch (attempt issue make add store with_tables insert respond exec)
open Prog (Mem)

section Sites

variable [WgpuTypes]

/-- A wgpu call about to be made. -/
structure Site where
  event : Event
  /-- The guard of the tables is alive. -/
  held : Bool
  tables : ResourceTables

namespace Prog

/-- The sites a program goes through, when it is started with the guard alive
or not. -/
def sites (reply : Occ → Call → Answer) (d : ℕ) {α : Type} : Prog α → Bool → Mem → List Site
  | .done _, _, _ => []
  | .lock next, _, m => (next m.tables).sites reply d true m
  | .store t next, held, m => next.sites reply d held { m with tables := t }
  | .unlock next, _, m => next.sites reply d false m
  | .call c next, held, m =>
      ⟨⟨m.next_occ d, c⟩, held, m.tables⟩ ::
        (next (reply (m.next_occ d) c)).sites reply d held (m.log d c)
  | .add a b next, held, m => (next (a + b)).sites reply d held m

/-- Whether the guard is alive at the end. -/
def held_after (reply : Occ → Call → Answer) (d : ℕ) {α : Type} : Prog α → Bool → Mem → Bool
  | .done _, held, _ => held
  | .lock next, _, m => (next m.tables).held_after reply d true m
  | .store t next, held, m => next.held_after reply d held { m with tables := t }
  | .unlock next, _, m => next.held_after reply d false m
  | .call c next, held, m =>
      (next (reply (m.next_occ d) c)).held_after reply d held (m.log d c)
  | .add a b next, held, m => (next (a + b)).held_after reply d held m

variable (reply : Occ → Call → Answer) (d : ℕ)

/-- The calls a program logs are those of its sites. -/
theorem run_sites {α : Type} (p : Prog α) (held : Bool) (m : Mem) :
    (p.run reply d m).2.events = m.events ++ (p.sites reply d held m).map Site.event := by
  induction p generalizing held m with
  | done a => exact (List.append_nil _).symm
  | lock next ih => exact ih m.tables true m
  | store t next ih => exact ih held { m with tables := t }
  | unlock next ih => exact ih false m
  | add a b next ih => exact ih (a + b) held m
  | call c next ih =>
      have hrest := ih (reply (m.next_occ d) c) held (m.log d c)
      rw [Mem.log_events, List.append_assoc] at hrest
      exact hrest

/-- The calls of a dispatch bear its number. -/
theorem sites_dispatch {α : Type} (p : Prog α) (held : Bool) (m : Mem) :
    ∀ s ∈ p.sites reply d held m, s.event.occ.dispatch = d := by
  induction p generalizing held m with
  | done a => exact fun s hs => absurd hs List.not_mem_nil
  | lock next ih => exact ih m.tables true m
  | store t next ih => exact ih held { m with tables := t }
  | unlock next ih => exact ih false m
  | add a b next ih => exact ih (a + b) held m
  | call c next ih =>
      intro s hs
      rcases List.mem_cons.mp hs with rfl | hs
      · rfl
      · exact ih _ held (m.log d c) s hs

/-- The sites of a sequence are those of its first part, then those of the second from where the
first one left off. -/
theorem sites_bind {α β : Type} (p : Prog α) (f : α → Prog β) (held : Bool) (m : Mem) :
    (p >>= f).sites reply d held m = p.sites reply d held m ++
      (f (p.run reply d m).1).sites reply d (p.held_after reply d held m) (p.run reply d m).2 := by
  change (p.bind f).sites reply d held m = _
  induction p generalizing held m with
  | done a => rfl
  | lock next ih => exact ih m.tables true m
  | store t next ih => exact ih held { m with tables := t }
  | unlock next ih => exact ih false m
  | add a b next ih => exact ih (a + b) held m
  | call c next ih => exact congrArg _ (ih _ held (m.log d c))

/-- The guard after a sequence. -/
theorem held_after_bind {α β : Type} (p : Prog α) (f : α → Prog β) (held : Bool) (m : Mem) :
    (p >>= f).held_after reply d held m =
      (f (p.run reply d m).1).held_after reply d (p.held_after reply d held m)
        (p.run reply d m).2 := by
  change (p.bind f).held_after reply d held m = _
  induction p generalizing held m with
  | done a => rfl
  | lock next ih => exact ih m.tables true m
  | store t next ih => exact ih held { m with tables := t }
  | unlock next ih => exact ih false m
  | add a b next ih => exact ih (a + b) held m
  | call c next ih => exact ih _ held (m.log d c)

end Prog

/-! ## Code with early returns -/

namespace Dispatch

/-- The sites of code with early returns. -/
def sites (reply : Occ → Call → Answer) (d : ℕ) {α : Type} (p : Dispatch α) (held : Bool)
    (m : Mem) : List Site :=
  Prog.sites reply d p.run held m

def held_after (reply : Occ → Call → Answer) (d : ℕ) {α : Type} (p : Dispatch α) (held : Bool)
    (m : Mem) : Bool :=
  Prog.held_after reply d p.run held m

variable (reply : Occ → Call → Answer) (d : ℕ) {α β : Type} (held : Bool) (m : Mem)

/-- The sites are the calls that a run adds to the log: no site is made up and none is missed.
-/
theorem exec_sites (p : Dispatch α) :
    (exec reply d p m).2.events = m.events ++ (sites reply d p held m).map Site.event :=
  Prog.run_sites reply d p.run held m

/-- What comes after a step, if it does not return early. -/
theorem sites_bind (p : Dispatch α) (f : α → Dispatch β) :
    sites reply d (p >>= f) held m = sites reply d p held m ++
      match exec reply d p m with
      | (.ok a, m') => sites reply d (f a) (held_after reply d p held m) m'
      | (.error _, _) => [] := by
  unfold sites exec held_after
  change Prog.sites reply d (p.run >>= ExceptT.bindCont f) held m = _
  rw [Prog.sites_bind]
  rcases Prog.run reply d p.run m with ⟨r | a, m'⟩
  · rfl
  · rfl

/-- After a sequence that failed on the way the guard is as its first part left it. -/
theorem held_after_bind (p : Dispatch α) (f : α → Dispatch β) :
    held_after reply d (p >>= f) held m =
      match exec reply d p m with
      | (.ok a, m') => held_after reply d (f a) (held_after reply d p held m) m'
      | (.error _, _) => held_after reply d p held m := by
  unfold held_after exec
  change Prog.held_after reply d (p.run >>= ExceptT.bindCont f) held m = _
  rw [Prog.held_after_bind]
  rcases Prog.run reply d p.run m with ⟨r | a, m'⟩
  · rfl
  · rfl

/-- Inside `with_tables` every site has the guard held. -/
theorem sites_with_tables (body : ResourceTables → Dispatch α) :
    sites reply d (with_tables body) held m = sites reply d (body m.tables) true m := by
  change Prog.sites reply d ((body m.tables).run >>= fun r => Prog.unlock (.done r)) true m = _
  rw [Prog.sites_bind]
  exact List.append_nil _

/-- After it the guard is free. -/
theorem held_after_with_tables (body : ResourceTables → Dispatch α) :
    held_after reply d (with_tables body) held m = false := by
  change Prog.held_after reply d ((body m.tables).run >>= fun r => Prog.unlock (.done r)) true m = _
  rw [Prog.held_after_bind]
  rfl

/-- Forming the response makes no call. -/
theorem sites_respond (p : Dispatch Response) :
    Prog.sites reply d (respond p) held m = sites reply d p held m := by
  unfold respond sites
  rw [Prog.sites_bind]
  rcases Prog.run reply d p.run m with ⟨r | a, m'⟩
  · exact List.append_nil _
  · exact List.append_nil _

end Dispatch

/-! ## Code that makes calls of one sort -/

/-- Started with the guard alive or not, the code makes only calls of the sort
`C`, on the tables it was started with, and leaves tables and guard as they
were. -/
structure Makes (C : Bool → Call → Prop) (held : Bool) {α : Type} (p : Dispatch α) : Prop where
  site : ∀ reply d m, ∀ s ∈ Dispatch.sites reply d p held m,
    C s.held s.event.call ∧ s.tables = m.tables
  after : ∀ reply d m, Dispatch.held_after reply d p held m = held
  tables : ∀ reply d m, (exec reply d p m).2.tables = m.tables

namespace Makes

variable {C : Bool → Call → Prop} {held : Bool} {α β : Type}

/-- What is made under one condition is made under a weaker one. -/
theorem mono {C' : Bool → Call → Prop} (hC : ∀ h c, C h c → C' h c) {p : Dispatch α}
    (h : Makes C held p) : Makes C' held p where
  site reply d m s hs := ⟨hC _ _ (h.site reply d m s hs).1, (h.site reply d m s hs).2⟩
  after := h.after
  tables := h.tables

/-- What the code adds to the log. -/
theorem events {p : Dispatch α} (h : Makes C held p) (reply : Occ → Call → Answer) (d : ℕ)
    (m : Mem) : ∃ evs, (exec reply d p m).2.events = m.events ++ evs ∧
      ∀ ev ∈ evs, ∃ held, C held ev.call := by
  refine ⟨_, Dispatch.exec_sites reply d held m p, ?_⟩
  intro ev hev
  obtain ⟨s, hs, rfl⟩ := List.mem_map.mp hev
  exact ⟨s.held, (h.site reply d m s hs).1⟩

/-- A resolved descriptor makes no call. -/
theorem attempt (r : Except Response α) : Makes C held (attempt r) where
  site _ _ _ _ hs := absurd hs List.not_mem_nil
  after _ _ _ := rfl
  tables _ _ _ := rfl

theorem pure (a : α) : Makes C held (Pure.pure a : Dispatch α) := attempt (.ok a)

theorem issue {c : Call} (hc : C held c) : Makes C held (issue c) where
  site reply d m s hs := by
    rw [List.mem_singleton.mp hs]
    exact ⟨hc, rfl⟩
  after _ _ _ := rfl
  tables _ _ _ := rfl

theorem add (a b : UInt64) : Makes C held (add a b) where
  site _ _ _ _ hs := absurd hs List.not_mem_nil
  after _ _ _ := rfl
  tables _ _ _ := rfl

/-- What comes after an addition has its sum. -/
theorem add_bind {a b : UInt64} {f : UInt64 → Dispatch β} (h : Makes C held (f (a + b))) :
    Makes C held (Dispatch.add a b >>= f) :=
  ⟨h.site, h.after, h.tables⟩

/-- Sites in sequence. The second part starts under the same guard because a `Makes` leaves it
unchanged. -/
theorem bind {p : Dispatch α} {f : α → Dispatch β} (hp : Makes C held p)
    (hf : ∀ a, Makes C held (f a)) : Makes C held (p >>= f) where
  site reply d m s hs := by
    -- a site is in the first part, or in the second on the tables the first one left
    rw [Dispatch.sites_bind] at hs
    rcases List.mem_append.mp hs with hs | hs
    · exact hp.site reply d m s hs
    · have htables := hp.tables reply d m
      rcases hexec : exec reply d p m with ⟨r | a, m'⟩
      · rw [hexec] at hs
        exact absurd hs List.not_mem_nil
      · rw [hexec, hp.after] at hs
        rw [hexec] at htables
        rw [← htables]
        exact (hf a).site reply d m' s hs
  after reply d m := by
    rw [Dispatch.held_after_bind]
    rcases exec reply d p m with ⟨r | a, m'⟩
    · exact hp.after reply d m
    · show Dispatch.held_after reply d (f a) _ m' = held
      rw [hp.after]
      exact (hf a).after reply d m'
  tables reply d m := by
    have htables := hp.tables reply d m
    rw [Dispatch.exec_bind]
    rcases hexec : exec reply d p m with ⟨r | a, m'⟩
    · rw [hexec] at htables
      exact htables
    · rw [hexec] at htables
      exact ((hf a).tables reply d m').trans htables

/-- The scope of a guard: its calls are made with the guard alive. -/
theorem with_tables {body : ResourceTables → Dispatch α} (h : ∀ t, Makes C true (body t)) :
    Makes C false (with_tables body) where
  site reply d m s hs := by
    rw [Dispatch.sites_with_tables] at hs
    exact (h m.tables).site reply d m s hs
  after reply d m := Dispatch.held_after_with_tables reply d false m body
  tables reply d m := by
    rw [Dispatch.exec_with_tables]
    exact (h m.tables).tables reply d m

/-- `slice` adds, and calls nothing. -/
theorem slice (b : Obj .Buffer) (offset : BufferAddress) (size : Option BufferAddress) :
    Makes C held (slice b offset size) := by
  rcases size with _ | size
  · exact pure _
  · exact (add offset size).bind fun _ => pure _

theorem encode {encoder : Occ} {call : Wgpu.EncoderCall Obj} (h : C held (.encode encoder call)) :
    Makes C held (encode encoder call) :=
  (issue h).bind fun _ => pure ()

/-- A loop makes the calls of its rounds. -/
theorem for_each {f : α → Dispatch Unit} (hf : ∀ c, Makes C held (f c)) (l : List α) :
    Makes C held (for_each f l) := by
  induction l with
  | nil => exact pure ()
  | cons c l ih => exact (hf c).bind fun _ => ih

/-- A pass makes its opening call, those of its body and its closing call. -/
theorem with_pass {encoder : Occ} {opening closing : Wgpu.EncoderCall Obj} {body : Dispatch Unit}
    (hbody : Makes C held body) (hopening : C held (.encode encoder opening))
    (hclosing : C held (.encode encoder closing)) :
    Makes C held (with_pass encoder opening closing body) := by
  refine (encode hopening).bind fun _ => ?_
  -- dropping the pass makes its call whichever way the body returned
  have hsites : ∀ reply d m, Dispatch.sites reply d (ExceptT.mk (body.run >>= fun r =>
      (Server.encode encoder closing).run >>= fun _ => Pure.pure r)) held m =
      Dispatch.sites reply d body held m ++
        Dispatch.sites reply d (Server.encode encoder closing) held (exec reply d body m).2 := by
    intro reply d m
    change Prog.sites reply d (body.run >>= _) held m = _
    rw [Prog.sites_bind, Prog.sites_bind]
    change _ ++ (Prog.sites reply d _ (Dispatch.held_after reply d body held m) _ ++ []) = _
    rw [hbody.after, List.append_nil]
    rfl
  have hclose : Makes C held (Server.encode encoder closing) := encode hclosing
  refine ⟨fun reply d m s hs => ?_, fun reply d m => ?_, fun reply d m => ?_⟩
  · rw [hsites] at hs
    rcases List.mem_append.mp hs with hs | hs
    · exact hbody.site reply d m s hs
    · rw [← hbody.tables reply d m]
      exact hclose.site reply d _ s hs
  · change Prog.held_after reply d (body.run >>= _) held m = held
    rw [Prog.held_after_bind, Prog.held_after_bind]
    change Prog.held_after reply d _ (Dispatch.held_after reply d body held m) _ = held
    rw [hbody.after]
    exact hclose.after reply d (exec reply d body m).2
  · change (Prog.run reply d (body.run >>= _) m).2.tables = _
    rw [Prog.run_bind, Prog.run_bind]
    exact (hclose.tables reply d _).trans (hbody.tables reply d m)

/-- A readback maps one slice, views it and unmaps the buffer. -/
theorem read_buffer {buffer : BufferId} {offset size : BufferAddress}
    (hmap : ∀ b, C false (.map_async ⟨b, offset, some (offset + size)⟩))
    (hview : ∀ b, C false (.get_mapped_range ⟨b, offset, some (offset + size)⟩))
    (hunmap : ∀ b, C false (.unmap b)) : Makes C false (read_buffer buffer offset size) := by
  refine (with_tables fun t => attempt _).bind fun b => ?_
  refine add_bind ((issue (hmap b)).bind fun map => ?_)
  split
  · exact add_bind ((issue (hview b)).bind fun view => (issue (hunmap b)).bind fun _ => pure _)
  · exact pure _
  · exact pure _

end Makes

/-! ## Replaying -/

/-- Calls on an encoder and its passes, with the tables locked. -/
def encodes_on (encoder : Occ) (held : Bool) (c : Call) : Prop :=
  held = true ∧ ∃ call, c = .encode encoder call

/-- The calls a replay makes: on encoders and their passes with the tables
locked, to make and to finish an encoder without. -/
def replays : Bool → Call → Prop
  | true, .encode _ _ => True
  | false, .create_command_encoder _ => True
  | false, .finish _ => True
  | _, _ => False

/-- An encoder's call is on that encoder, under the guard. -/
theorem encodes_on_call {encoder : Occ} {call : Wgpu.EncoderCall Obj} :
    encodes_on encoder true (.encode encoder call) := ⟨rfl, call, rfl⟩

/-- What goes on some encoder is part of a replay. -/
theorem replays_of_encodes {encoder : Occ} {held : Bool} {c : Call} (h : encodes_on encoder held c) :
    replays held c := by
  obtain ⟨rfl, call, rfl⟩ := h
  trivial

/-- Look one object up and encode a call with it. -/
theorem makes_one {k : Kind} (t : ResourceTables) (id : Id k) (encoder : Occ)
    (f : Obj k → Wgpu.EncoderCall Obj) :
    Makes (encodes_on encoder) true (attempt (lookup t id) >>= fun o => encode encoder (f o)) :=
  (Makes.attempt _).bind fun _ => Makes.encode encodes_on_call

/-- A compute command goes on its pass. -/
theorem makes_compute_command (t : ResourceTables) (pass : Occ) (c : ComputeCommand) :
    Makes (encodes_on pass) true (replay_compute_command t pass c) := by
  rcases c with id | ⟨index, group, offsets⟩ | ⟨offset, data⟩ | ⟨x, y, z⟩ | ⟨buffer, offset⟩
  · exact makes_one t id pass _
  · exact makes_one t group pass _
  · exact Makes.encode encodes_on_call
  · exact Makes.encode encodes_on_call
  · exact makes_one t buffer pass _

/-- A render command goes on its pass. -/
theorem makes_render_command (t : ResourceTables) (pass : Occ) (c : RenderCommand) :
    Makes (encodes_on pass) true (replay_render_command t pass c) := by
  rcases c with id | ⟨index, group, offsets⟩ | ⟨slot, buffer, offset, size⟩ |
    ⟨buffer, format, offset, size⟩ | ⟨vertices, instances⟩ | ⟨indices, base_vertex, instances⟩
  · exact makes_one t id pass _
  · exact makes_one t group pass _
  · exact (Makes.attempt _).bind fun b => (Makes.slice b offset size).bind fun _ =>
      Makes.encode encodes_on_call
  · exact (Makes.attempt _).bind fun b => (Makes.slice b offset size).bind fun _ =>
      Makes.encode encodes_on_call
  · exact Makes.encode encodes_on_call
  · exact Makes.encode encodes_on_call

/-- An encoder command goes on its encoder, and a pass' commands on the pass that it opens
there. -/
theorem makes_encoder_command (t : ResourceTables) (encoder : Occ) (c : EncoderCommand) :
    Makes (encodes_on encoder) true (replay_encoder_command t encoder c) := by
  rcases c
  case CopyBufferToBuffer source source_offset destination destination_offset size =>
    exact (Makes.attempt _).bind fun _ => makes_one t destination encoder _
  case ClearBuffer buffer offset size => exact makes_one t buffer encoder _
  case CopyBufferToTexture source destination copy_size =>
    exact (Makes.attempt _).bind fun _ => (Makes.attempt _).bind fun _ => Makes.encode encodes_on_call
  case CopyTextureToBuffer source destination copy_size =>
    exact (Makes.attempt _).bind fun _ => (Makes.attempt _).bind fun _ => Makes.encode encodes_on_call
  case BeginComputePass label commands =>
    exact (Makes.for_each (makes_compute_command t encoder) commands).with_pass encodes_on_call
      encodes_on_call
  case BeginRenderPass label color_attachments depth_attachment commands =>
    exact (Makes.attempt _).bind fun _ => (Makes.attempt _).bind fun _ =>
      (Makes.for_each (makes_render_command t encoder) commands).with_pass encodes_on_call
      encodes_on_call

/-- A recording makes and finishes its encoder with the guard free, and encodes with it held. -/
theorem makes_recording (recording : CommandBufferRecording) :
    Makes replays false (replay_recording recording) := by
  refine (Makes.issue trivial).bind fun encoder => ?_
  refine (Makes.with_tables fun t => ?_).bind fun _ => (Makes.issue trivial).bind fun _ => Makes.pure _
  have hcommands := Makes.for_each (makes_encoder_command t encoder.made) recording.commands
  exact hcommands.mono fun _ _ => replays_of_encodes

/-- A submission's recordings make what each of them makes, and nothing between them. -/
theorem makes_recordings (recordings : List Bytes) :
    Makes replays false (replay_recordings recordings) := by
  induction recordings with
  | nil => exact Makes.pure _
  | cons raw recordings ih =>
      have hrest : ∀ recording, Makes replays false (do
          let cb ← replay_recording recording
          let command_buffers ← replay_recordings recordings
          return cb :: command_buffers) := fun recording =>
        (makes_recording recording).bind fun cb => ih.bind fun cbs => Makes.pure (cb :: cbs)
      rw [replay_recordings]
      split
      · exact (Makes.pure _).bind hrest
      · exact (Makes.attempt _).bind hrest

/-! ## The create arms -/

section Create

variable (reply : Occ → Call → Answer) (d : ℕ) (m : Mem)

/-- The arms that make their object first do so with the guard free. -/
theorem sites_create_unlocked {k : Kind} (id : Id k) (c : Call) :
    Dispatch.sites reply d (do let o ← make k c; insert id o; return Response.Ok) false m =
      [⟨⟨m.next_occ d, c⟩, false, m.tables⟩] := rfl

/-- The arms that look up first make their object with the guard held, and none when a lookup
fails. -/
theorem sites_create_locked {α : Type} {k : Kind} (id : Id k)
    (b : ResourceTables → Except Response α) (f : α → Call) :
    Dispatch.sites reply d (do
        let o ← with_tables fun t => do
          let desc ← attempt (b t)
          make k (f desc)
        insert id o
        return Response.Ok) false m =
      match (b m.tables).map f with
      | .ok c => [⟨⟨m.next_occ d, c⟩, true, m.tables⟩]
      | .error _ => [] := by
  rw [Dispatch.sites_bind, Dispatch.sites_with_tables, Dispatch.exec_with_tables,
    Dispatch.sites_bind, Dispatch.exec_bind, Dispatch.exec_attempt]
  rcases b m.tables with r | desc
  · rfl
  · rfl

/-- A layout is derived with the guard held. -/
theorem sites_derive {k : Kind} (pipeline : Id k) (get_bind_group_layout : Obj k → Call)
    (id : BindGroupLayoutId) :
    Dispatch.sites reply d (derive_bind_group_layout pipeline get_bind_group_layout id) false m =
      match (lookup m.tables pipeline).map get_bind_group_layout with
      | .ok c => [⟨⟨m.next_occ d, c⟩, true, m.tables⟩]
      | .error _ => [] := by
  rw [derive_bind_group_layout, Dispatch.sites_with_tables, Dispatch.sites_bind,
    Dispatch.exec_attempt]
  rcases lookup m.tables pipeline with r | p
  · rfl
  · rfl

/-- **The arms that create** make one call, at most. -/
theorem sites_creation {a : Action} {c : Creation} (h : creation a = some c) :
    Dispatch.sites reply d (handle_arm a) false m =
      match c.call m.tables with
      | .ok call => [⟨⟨m.next_occ d, call⟩, !creates_alone a, m.tables⟩]
      | .error _ => [] := by
  have harm := create_arm h
  generalize handle_arm a = arm at harm ⊢
  generalize creates_alone a = alone at harm ⊢
  cases harm with
  | unlocked id call => exact sites_create_unlocked reply d m id call
  | checked id b f =>
      rw [Dispatch.sites_bind, Dispatch.exec_attempt]
      rcases b with r | x
      · rfl
      · exact sites_create_unlocked reply d m id (f x)
  | locked id b f => exact sites_create_locked reply d m id b f
  | derive pipeline f id => exact sites_derive reply d m pipeline f id

end Create

end Sites

end WgpuRemote.Server
