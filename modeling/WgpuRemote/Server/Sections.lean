/-
The critical sections of a dispatch.

Dispatches run concurrently, and what they share is behind the tables mutex. So
a dispatch is atomic from one of its critical sections to where the next one
starts; `Prog.advance` runs it that far.

All arms of the engine have one shape (`Ends`). They go through sections that
look at the entries the action reads, keep what they find in locals, and call
wgpu only to make objects and to record commands. The last section may do more:
it, or the code after it, changes the tables, uses the queue, or maps a buffer.
Cut anywhere before the last section, such a dispatch does not notice that it
was cut, as long as the entries it reads stay as they were (`advance_ends`).
-/
import WgpuRemote.Server.Contract

set_option autoImplicit false

namespace WgpuRemote.Server

open Bincode Footprint
open Wgpu (Occ Obj Call Event)
open Dispatch (attempt issue make add store with_tables insert respond exec)
open Prog (Mem)

section Sections

variable [WgpuTypes]

/-- The calls that take effect in the order they are made: those on the queue,
and those that map a buffer. All others make an object or record a command. -/
def on_device : Call → Bool
  | .write_buffer _ _ _ | .write_texture _ _ _ _ | .submit _ | .map_async _
  | .get_mapped_range _ | .unmap _ => true
  | _ => false

namespace Prog

/-! ## Up to the next section -/

/-- Run through the next critical section and on to the start of the one after
it, or to the end. `entered` tells whether the section has begun. -/
def advance (reply : Occ → Call → Answer) (d : ℕ) {α : Type} : Prog α → Bool → Mem → Prog α × Mem
  | .done a, _, m => (.done a, m)
  | .lock next, false, m => (next m.tables).advance reply d true m
  | .lock next, true, m => (.lock next, m)
  | .store t next, entered, m => next.advance reply d entered { m with tables := t }
  | .unlock next, entered, m => next.advance reply d entered m
  | .call c next, entered, m =>
      (next (reply (m.next_occ d) c)).advance reply d entered (m.log d c)
  | .add a b next, entered, m => (next (a + b)).advance reply d entered m

/-- Going on from there to the end is running to the end. -/
theorem run_advance (reply : Occ → Call → Answer) (d : ℕ) {α : Type} (p : Prog α) (entered : Bool)
    (m : Mem) :
    (p.advance reply d entered m).1.run reply d (p.advance reply d entered m).2 =
      p.run reply d m := by
  induction p generalizing entered m with
  | done a => rfl
  | lock next ih =>
      rcases entered
      · exact ih m.tables true m
      · rfl
  | store t next ih => exact ih entered { m with tables := t }
  | unlock next ih => exact ih entered m
  | call c next ih => exact ih _ entered (m.log d c)
  | add a b next ih => exact ih (a + b) entered m

/-! ## The shape of a dispatch -/

/-- Code that locks nothing. -/
inductive Free {α : Type} : Prog α → Prop
  | done (a : α) : Free (.done a)
  | store {t : ResourceTables} {next : Prog α} : Free next → Free (.store t next)
  | unlock {next : Prog α} : Free next → Free (.unlock next)
  | call {c : Call} {next : Answer → Prog α} : (∀ a, Free (next a)) → Free (.call c next)
  | add {a b : UInt64} {next : UInt64 → Prog α} : (∀ s, Free (next s)) → Free (.add a b next)

/-- Code whose sections see no more of the tables than the entries `S` and do
not change them, and whose calls make objects and record commands. -/
inductive Looks (S : List Ref) {α : Type} : Prog α → Prop
  | done (a : α) : Looks S (.done a)
  | lock {next : ResourceTables → Prog α} : (∀ t t', AgreeOn S t t' → next t = next t') →
      (∀ t, Looks S (next t)) → Looks S (.lock next)
  | unlock {next : Prog α} : Looks S next → Looks S (.unlock next)
  | call {c : Call} {next : Answer → Prog α} : on_device c = false →
      (∀ a a', a.made = a'.made → next a = next a') → (∀ a, Looks S (next a)) →
      Looks S (.call c next)
  | add {a b : UInt64} {next : UInt64 → Prog α} : (∀ s, Looks S (next s)) → Looks S (.add a b next)

/-- Such code, then one last section in which anything may happen. -/
inductive Ends (S : List Ref) {α : Type} : Prog α → Prop
  | free {p : Prog α} : Free p → Ends S p
  | last {next : ResourceTables → Prog α} : (∀ t, Free (next t)) → Ends S (.lock next)
  | lock {next : ResourceTables → Prog α} : (∀ t t', AgreeOn S t t' → next t = next t') →
      (∀ t, Ends S (next t)) → Ends S (.lock next)
  | unlock {next : Prog α} : Ends S next → Ends S (.unlock next)
  | call {c : Call} {next : Answer → Prog α} : on_device c = false →
      (∀ a a', a.made = a'.made → next a = next a') → (∀ a, Ends S (next a)) →
      Ends S (.call c next)
  | add {a b : UInt64} {next : UInt64 → Prog α} : (∀ s, Ends S (next s)) → Ends S (.add a b next)

variable {α β : Type} {S S' : List Ref}

/-- Code that locks nothing, in sequence. -/
theorem Free.bind {p : Prog α} {f : α → Prog β} (hp : Free p) (hf : ∀ a, Free (f a)) :
    Free (p >>= f) := by
  change Free (p.bind f)
  induction hp with
  | done a => exact hf a
  | store _ ih => exact .store ih
  | unlock _ ih => exact .unlock ih
  | call _ ih => exact .call ih
  | add _ ih => exact .add ih

/-- Code that looks only at the entries `S`, in sequence. -/
theorem Looks.bind {p : Prog α} {f : α → Prog β} (hp : Looks S p) (hf : ∀ a, Looks S (f a)) :
    Looks S (p >>= f) := by
  change Looks S (p.bind f)
  induction hp with
  | done a => exact hf a
  | lock hcongr _ ih =>
      exact .lock (fun t t' h => congrArg (·.bind f) (hcongr t t' h)) ih
  | unlock _ ih => exact .unlock ih
  | call hquiet hmade _ ih =>
      exact .call hquiet (fun a a' h => congrArg (·.bind f) (hmade a a' h)) ih
  | add _ ih => exact .add ih

/-- What looks at few entries looks at more. -/
theorem Looks.mono {p : Prog α} (h : Looks S p) (hS : ∀ r ∈ S, r ∈ S') : Looks S' p := by
  induction h with
  | done a => exact .done a
  | lock hcongr _ ih =>
      exact .lock (fun t t' h => hcongr t t' fun r hr => h r (hS r hr)) ih
  | unlock _ ih => exact .unlock ih
  | call hquiet hmade _ ih => exact .call hquiet hmade ih
  | add _ ih => exact .add ih

/-- Looking first does not change how it ends. -/
theorem Looks.bind_ends {p : Prog α} {f : α → Prog β} (hp : Looks S p) (hf : ∀ a, Ends S (f a)) :
    Ends S (p >>= f) := by
  change Ends S (p.bind f)
  induction hp with
  | done a => exact hf a
  | lock hcongr _ ih =>
      exact .lock (fun t t' h => congrArg (·.bind f) (hcongr t t' h)) ih
  | unlock _ ih => exact .unlock ih
  | call hquiet hmade _ ih =>
      exact .call hquiet (fun a a' h => congrArg (·.bind f) (hmade a a' h)) ih
  | add _ ih => exact .add ih

/-- Nor does anything after it that locks nothing. -/
theorem Ends.bind_free {p : Prog α} {f : α → Prog β} (hp : Ends S p) (hf : ∀ a, Free (f a)) :
    Ends S (p >>= f) := by
  change Ends S (p.bind f)
  induction hp with
  | free h => exact .free (h.bind hf)
  | last h => exact .last fun t => (h t).bind hf
  | lock hcongr _ ih =>
      exact .lock (fun t t' h => congrArg (·.bind f) (hcongr t t' h)) ih
  | unlock _ ih => exact .unlock ih
  | call hquiet hmade _ ih =>
      exact .call hquiet (fun a a' h => congrArg (·.bind f) (hmade a a' h)) ih
  | add _ ih => exact .add ih

/-! ## What an advance comes to -/

/-- Code that locks nothing runs to its end. -/
theorem Free.advance {p : Prog α} (h : Free p) (reply : Occ → Call → Answer) (d : ℕ)
    (entered : Bool) (m : Mem) : ∃ a, (p.advance reply d entered m).1 = .done a := by
  induction h generalizing m with
  | done a => exact ⟨a, rfl⟩
  | store _ ih => exact ih _
  | unlock _ ih => exact ih _
  | call _ ih => exact ih _ _
  | add _ ih => exact ih _ _

/-- wgpu answers alike to all that only make or record. -/
def SameNames (reply reply' : Occ → Call → Answer) : Prop :=
  ∀ occ c, (reply occ c).made = (reply' occ c).made

/-- **One advance** is the last, or it leaves the tables alone, does nothing on
the device, and would have come to the same on any tables with the same entries
at `S`. -/
theorem advance_ends {p : Prog α} (h : Ends S p) (reply : Occ → Call → Answer) (d : ℕ)
    (entered : Bool) (m : Mem) :
    (∃ a, (p.advance reply d entered m).1 = .done a) ∨
      ∃ (next : ResourceTables → Prog α) (evs : List Event),
        p.advance reply d entered m = (.lock next, ⟨m.tables, m.events ++ evs⟩) ∧
        Ends S (.lock next) ∧ (∀ ev ∈ evs, on_device ev.call = false) ∧
        ∀ reply' t', SameNames reply reply' → AgreeOn S m.tables t' →
          p.advance reply' d entered ⟨t', m.events⟩ = (.lock next, ⟨t', m.events ++ evs⟩) := by
  -- where the next section starts, nothing was done yet
  have hstop : ∀ (next : ResourceTables → Prog α) (m : Mem), Ends S (.lock next) →
      ∃ (next' : ResourceTables → Prog α) (evs : List Event),
        (Prog.lock next).advance reply d true m = (.lock next', ⟨m.tables, m.events ++ evs⟩) ∧
        Ends S (.lock next') ∧ (∀ ev ∈ evs, on_device ev.call = false) ∧
        ∀ reply' t', SameNames reply reply' → AgreeOn S m.tables t' →
          (Prog.lock next).advance reply' d true ⟨t', m.events⟩ =
            (.lock next', ⟨t', m.events ++ evs⟩) := by
    intro next m hnext
    refine ⟨next, [], ?_, hnext, fun ev hev => absurd hev List.not_mem_nil, fun reply' t' _ _ => ?_⟩
    · rw [List.append_nil]
      rfl
    · rw [List.append_nil]
      rfl
  induction h generalizing entered m with
  | free hfree => exact Or.inl (hfree.advance reply d entered m)
  | @last next hfree =>
      rcases entered
      · exact Or.inl ((hfree m.tables).advance reply d true m)
      · exact Or.inr (hstop next m (.last hfree))
  | @lock next hcongr hends ih =>
      rcases entered
      · rcases ih m.tables true m with hdone | ⟨next', evs, hadv, hnext, hquiet, hsame⟩
        · exact Or.inl hdone
        · refine Or.inr ⟨next', evs, hadv, hnext, hquiet, fun reply' t' hnames hagree => ?_⟩
          show (next t').advance reply' d true ⟨t', m.events⟩ = _
          rw [← hcongr m.tables t' hagree]
          exact hsame reply' t' hnames hagree
      · exact Or.inr (hstop next m (.lock hcongr hends))
  | unlock _ ih => exact ih entered m
  | add _ ih => exact ih _ entered m
  | @call c next hquiet hmade hends ih =>
      rcases ih (reply (m.next_occ d) c) entered (m.log d c) with
        hdone | ⟨next', evs, hadv, hnext, hrest, hsame⟩
      · exact Or.inl hdone
      · refine Or.inr ⟨next', ⟨m.next_occ d, c⟩ :: evs, ?_, hnext, ?_, ?_⟩
        · rw [Mem.log_events, List.append_assoc] at hadv
          exact hadv
        · intro ev hev
          rcases List.mem_cons.mp hev with rfl | hev
          · exact hquiet
          · exact hrest ev hev
        · intro reply' t' hnames hagree
          have hthere := hsame reply' t' hnames hagree
          rw [Mem.log_events, List.append_assoc] at hthere
          show (next (reply' (m.next_occ d) c)).advance reply' d entered _ = _
          rw [← hmade _ _ (hnames (m.next_occ d) c)]
          exact hthere

end Prog

/-! ## Code with early returns -/

open Prog (Free Looks Ends)

variable {α β : Type} {S S' : List Ref}

/-- The rest, if there was no early return. -/
theorem free_bind {p : Dispatch α} {f : α → Dispatch β} (hp : Free p.run)
    (hf : ∀ a, Free (f a).run) : Free (p >>= f).run := by
  refine Free.bind hp fun r => ?_
  rcases r with e | a
  · exact .done _
  · exact hf a

/-- `Looks.bind` for a dispatch that may fail on the way. -/
theorem looks_bind {p : Dispatch α} {f : α → Dispatch β} (hp : Looks S p.run)
    (hf : ∀ a, Looks S (f a).run) : Looks S (p >>= f).run := by
  refine Looks.bind hp fun r => ?_
  rcases r with e | a
  · exact .done _
  · exact hf a

/-- A dispatch that looks first and then ends with its section. -/
theorem looks_bind_ends {p : Dispatch α} {f : α → Dispatch β} (hp : Looks S p.run)
    (hf : ∀ a, Ends S (f a).run) : Ends S (p >>= f).run := by
  refine Looks.bind_ends hp fun r => ?_
  rcases r with e | a
  · exact .free (.done _)
  · exact hf a

theorem looks_attempt (r : Except Response α) : Looks S (attempt r).run := .done r

/-- A call that makes an object or records a command, when what follows depends on the object it
made and on nothing else of the answer. -/
theorem looks_issue {c : Call} (hc : on_device c = false) {f : Answer → Dispatch α}
    (hmade : ∀ a a', a.made = a'.made → f a = f a') (hf : ∀ a, Looks S (f a).run) :
    Looks S (issue c >>= f).run :=
  .call hc (fun a a' h => congrArg ExceptT.run (hmade a a' h)) hf

/-- One section, the last: nothing in it or after it locks again. -/
theorem ends_with_tables {body : ResourceTables → Dispatch α} {f : α → Dispatch β}
    (hbody : ∀ t, Free (body t).run) (hf : ∀ a, Free (f a).run) :
    Ends S (with_tables body >>= f).run := by
  refine Ends.last fun t => ?_
  refine Free.bind ?_ fun r => ?_
  · exact (hbody t).bind fun r => .unlock (.done r)
  · rcases r with e | a
    · exact .done _
    · exact hf a

/-- The section that inserts. -/
theorem ends_insert {k : Kind} (id : Id k) (o : Obj k) :
    Ends S (do insert id o; return Response.Ok : Dispatch Response).run :=
  ends_with_tables (fun _ => .store (.done _)) fun _ => .done _

/-! ## Sections that look -/

/-- What a section's code is on given tables depends on the entries `S` only,
and it records commands. -/
structure Views (S : List Ref) (p : ResourceTables → Dispatch α) : Prop where
  congr : ∀ t t', AgreeOn S t t' → p t = p t'
  looks : ∀ t, Looks [] (p t).run

namespace Views

/-- What a resolution reads, its attempt reads. -/
theorem attempt {b : ResourceTables → Except Response α} {good : Prop}
    (h : Resolves IsUnknown IsInvalid b good S) : Views S fun t => attempt (b t) where
  congr t t' hagree := by rw [h.congr t t' hagree]
  looks t := looks_attempt (b t)

/-- A dispatch that does not look at the tables at all. -/
theorem const {p : Dispatch α} (h : Looks [] p.run) : Views [] fun _ => p where
  congr _ _ _ := rfl
  looks _ := h

/-- Two dispatches in sequence read what either reads. -/
theorem bind {p : ResourceTables → Dispatch α} {q : ResourceTables → α → Dispatch β}
    (hp : Views S p) (hq : ∀ a, Views S' fun t => q t a) :
    Views (S ++ S') fun t => p t >>= q t where
  congr t t' hagree := by
    obtain ⟨hS, hS'⟩ := AgreeOn.append.mp hagree
    have hrest : q t = q t' := funext fun a => (hq a).congr t t' hS'
    rw [hp.congr t t' hS, hrest]
  looks t := looks_bind (hp.looks t) fun a => (hq a).looks t

theorem of_eq {p : ResourceTables → Dispatch α} (h : Views S p) (hS : S = S') : Views S' p := by
  rw [← hS]
  exact h

theorem encode (encoder : Occ) (call : Wgpu.EncoderCall Obj) :
    Views [] fun _ => encode encoder call :=
  const (looks_issue rfl (fun _ _ _ => rfl) fun _ => .done _)

/-- `slice` reads no entry. -/
theorem slice (b : Obj .Buffer) (offset : BufferAddress) (size : Option BufferAddress) :
    Views [] fun _ => slice b offset size := by
  rcases size with _ | size
  · exact const (.done _)
  · exact const (.add fun _ => .done _)

/-- A loop reads what its rounds read. -/
theorem for_each {f : ResourceTables → α → Dispatch Unit} {S : α → List Ref}
    (hf : ∀ c, Views (S c) fun t => f t c) (l : List α) :
    Views (l.flatMap S) fun t => for_each (f t) l := by
  induction l with
  | nil => exact const (.done _)
  | cons c l ih => exact (hf c).bind fun _ => ih

/-- A pass reads what its commands read: opening and closing it read nothing. -/
theorem with_pass {body : ResourceTables → Dispatch Unit} (h : Views S body) (encoder : Occ)
    (opening closing : Wgpu.EncoderCall Obj) :
    Views S fun t => with_pass encoder opening closing (body t) where
  congr t t' hagree := by rw [h.congr t t' hagree]
  looks t := by
    refine looks_bind ((encode encoder opening).looks t) fun _ => ?_
    exact (h.looks t).bind fun r => ((encode encoder closing).looks t).bind fun _ => .done r

/-- The section itself. -/
theorem with_tables {body : ResourceTables → Dispatch α} (h : Views S body) :
    Looks S (with_tables body).run := by
  refine .lock (fun t t' hagree => ?_) fun t => ?_
  · show (body t).run >>= _ = (body t').run >>= _
    rw [h.congr t t' hagree]
  · exact ((h.looks t).mono (by simp)).bind fun r => .unlock (.done r)

end Views

/-! ## Replaying -/

/-- Look one object up and encode a call with it. -/
theorem views_one {k : Kind} (id : Id k) (encoder : Occ) (f : Obj k → Wgpu.EncoderCall Obj) :
    Views [id.ref] fun t => attempt (lookup t id) >>= fun o => encode encoder (f o) :=
  ((Views.attempt (resolves_lookup id)).bind fun o => Views.encode encoder (f o)).of_eq (by simp)

/-- A compute command reads the ids it names. -/
theorem views_compute_command (pass : Occ) (c : ComputeCommand) :
    Views c.refs fun t => replay_compute_command t pass c := by
  rcases c with id | ⟨index, group, offsets⟩ | ⟨offset, data⟩ | ⟨x, y, z⟩ | ⟨buffer, offset⟩
  · exact views_one id pass _
  · exact views_one group pass _
  · exact Views.encode pass _
  · exact Views.encode pass _
  · exact views_one buffer pass _

/-- A render command reads the ids it names. -/
theorem views_render_command (pass : Occ) (c : RenderCommand) :
    Views c.refs fun t => replay_render_command t pass c := by
  rcases c with id | ⟨index, group, offsets⟩ | ⟨slot, buffer, offset, size⟩ |
    ⟨buffer, format, offset, size⟩ | ⟨vertices, instances⟩ | ⟨indices, base_vertex, instances⟩
  · exact views_one id pass _
  · exact views_one group pass _
  · exact ((Views.attempt (resolves_lookup buffer)).bind fun b =>
      (Views.slice b offset size).bind fun _ => Views.encode pass _).of_eq rfl
  · exact ((Views.attempt (resolves_lookup buffer)).bind fun b =>
      (Views.slice b offset size).bind fun _ => Views.encode pass _).of_eq rfl
  · exact Views.encode pass _
  · exact Views.encode pass _

/-- An encoder command reads the ids it names, those of a pass' attachments and commands among
them. -/
theorem views_encoder_command (encoder : Occ) (c : EncoderCommand) :
    Views c.refs fun t => replay_encoder_command t encoder c := by
  rcases c
  case CopyBufferToBuffer source source_offset destination destination_offset size =>
    exact ((Views.attempt (resolves_lookup source)).bind fun _ =>
      views_one destination encoder _).of_eq rfl
  case ClearBuffer buffer offset size => exact views_one buffer encoder _
  case CopyBufferToTexture source destination copy_size =>
    exact ((Views.attempt (resolves_image_copy_buffer source)).bind fun _ =>
      (Views.attempt (resolves_image_copy_texture destination)).bind fun _ =>
        Views.encode encoder _).of_eq rfl
  case CopyTextureToBuffer source destination copy_size =>
    exact ((Views.attempt (resolves_image_copy_texture source)).bind fun _ =>
      (Views.attempt (resolves_image_copy_buffer destination)).bind fun _ =>
        Views.encode encoder _).of_eq rfl
  case BeginComputePass label commands =>
    exact (Views.for_each (views_compute_command encoder) commands).with_pass encoder _ _
  case BeginRenderPass label color_attachments depth_attachment commands =>
    have hcolor := Resolves.mapM resolves_color_attachment color_attachments
    have hdepth := resolves_depth_attachment depth_attachment
    exact ((Views.attempt hcolor).bind fun _ => (Views.attempt hdepth).bind fun _ =>
      (Views.for_each (views_render_command encoder) commands).with_pass encoder _ _).of_eq
        (List.append_assoc _ _ _).symm

/-- A recording looks at the ids of its commands, all under one guard. -/
theorem looks_recording (recording : CommandBufferRecording) :
    Looks recording.refs (replay_recording recording).run := by
  refine looks_issue rfl (fun a a' h => ?_) fun encoder => ?_
  · rw [h]
  · refine looks_bind ?_ fun _ => looks_issue rfl (fun a a' h => ?_) fun cb => .done _
    · exact (Views.for_each (views_encoder_command encoder.made) recording.commands).with_tables
    · rw [h]

/-- A submission looks at the ids of the payloads that decode. -/
theorem looks_recordings (recordings : List Bytes) :
    Looks (recordings.flatMap payload_refs) (replay_recordings recordings).run := by
  induction recordings with
  | nil => exact .done _
  | cons raw recordings ih =>
      rcases hraw : CommandBufferRecording.decode raw with e | recording
      · -- an error, and nothing after it
        rw [replay_recordings, hraw]
        exact .done _
      · have heq : replay_recordings (raw :: recordings) = (do
            let cb ← replay_recording recording
            let command_buffers ← replay_recordings recordings
            return cb :: command_buffers) := by
          rw [replay_recordings, hraw]
          rfl
        have hrefs : payload_refs raw = recording.refs := by
          rw [payload_refs, hraw]
        rw [heq, List.flatMap_cons, hrefs]
        have hone : Looks (recording.refs ++ recordings.flatMap payload_refs)
            (replay_recording recording).run :=
          (looks_recording recording).mono fun r hr => List.mem_append_left _ hr
        have hrest : Looks (recording.refs ++ recordings.flatMap payload_refs)
            (replay_recordings recordings).run :=
          ih.mono fun r hr => List.mem_append_right _ hr
        exact looks_bind hone fun _ => looks_bind hrest fun _ => .done _

/-! ## The arms -/

/-- The create arms that resolve something. -/
theorem ends_create_locked {γ : Type} {k : Kind} (id : Id k) {b : ResourceTables → Except Response γ}
    {good : Prop} (h : Resolves IsUnknown IsInvalid b good S) (f : γ → Call)
    (hf : ∀ x, on_device (f x) = false) :
    Ends S (do
        let o ← with_tables fun t => do
          let desc ← attempt (b t)
          make k (f desc)
        insert id o
        return Response.Ok : Dispatch Response).run := by
  have hmake : ∀ x, Views [] fun _ => (make k (f x) : Dispatch (Obj k)) := fun x =>
    Views.const (looks_issue (hf x) (fun a a' h => by rw [h]) fun _ => .done _)
  have hsection := ((Views.attempt h).bind fun x => hmake x).of_eq (List.append_nil S)
  exact looks_bind_ends hsection.with_tables fun o => ends_insert id o

/-- The create arms that resolve nothing. -/
theorem ends_create_unlocked {k : Kind} (id : Id k) {c : Call} (hc : on_device c = false) :
    Ends S (do let o ← make k c; insert id o; return Response.Ok : Dispatch Response).run := by
  refine looks_bind_ends (looks_issue hc (fun a a' h => ?_) fun _ => .done _) fun o => ends_insert id o
  rw [h]

/-- Deriving a layout ends its first section with the lookup. -/
theorem ends_derive {k : Kind} (pipeline : Id k) (f : Obj k → Call) (id : BindGroupLayoutId) :
    Ends S (derive_bind_group_layout pipeline f id).run := by
  refine Ends.last fun t => ?_
  refine Free.bind ?_ fun r => .unlock (.done r)
  refine free_bind (.done _) fun p => free_bind (.call fun _ => .done _) fun bgl => ?_
  exact .store (.done _)

/-- **The arms of the engine** look, and end with one section. -/
theorem ends_arm (a : Action) : Ends a.reads (handle_arm a).run := by
  rcases a
  case Hello => exact .free (.done _)
  case RequestAdapter => exact .free (.done _)
  case RequestDevice => exact .free (.done _)
  case CreateCommandEncoder => exact .free (.done _)
  case CreateBuffer id desc => exact ends_create_unlocked id rfl
  case CreateTexture id desc => exact ends_create_unlocked id rfl
  case CreateSampler id desc => exact ends_create_unlocked id rfl
  case CreateBindGroupLayout id desc => exact ends_create_unlocked id rfl
  case CreateShaderModule id desc =>
    exact looks_bind_ends (looks_attempt _) fun _ => ends_create_unlocked id rfl
  case CreateTextureView id texture desc =>
    exact ends_create_locked id (resolves_lookup texture) _ fun _ => rfl
  case CreateBindGroup id desc =>
    exact ends_create_locked id (resolves_bind_group desc) _ fun _ => rfl
  case CreatePipelineLayout id desc =>
    exact ends_create_locked id (resolves_pipeline_layout desc) _ fun _ => rfl
  case CreateRenderPipeline id desc =>
    exact ends_create_locked id (resolves_render_pipeline desc) _ fun _ => rfl
  case CreateComputePipeline id desc =>
    exact ends_create_locked id (resolves_compute_pipeline desc) _ fun _ => rfl
  case DeriveRenderPipelineBindGroupLayout pipeline index id => exact ends_derive pipeline _ id
  case DeriveComputePipelineBindGroupLayout pipeline index id => exact ends_derive pipeline _ id
  case Destroy resource =>
    rcases resource
    case Buffer id => exact ends_with_tables (fun _ => .store (.done _)) fun _ => .done _
    all_goals exact .free (.done _)
  case WriteBuffer buffer offset data =>
    refine ends_with_tables (fun t => ?_) fun _ => .call fun _ => .done _
    exact free_bind (.done _) fun b => .call fun _ => .done _
  case WriteTexture texture mip_level origin aspect data data_layout size =>
    refine Ends.last fun t => ?_
    refine Free.bind ?_ fun r => .unlock (.done r)
    exact free_bind (.done _) fun b => .call fun _ => .call fun _ => .done _
  case MapBufferForRead buffer offset size =>
    -- the map comes after the only section
    refine ends_with_tables (fun t => .done _) fun b => ?_
    refine .add fun stop => .call fun map => ?_
    obtain ⟨made, map_result, bytes⟩ := map
    rcases map_result
    · exact .add fun stop => .call fun view => .call fun _ => .done _
    · exact .done _
    · exact .done _
  case Submit recordings =>
    exact looks_bind_ends (looks_recordings recordings) fun cbs => .free (.call fun _ => .done _)

/-- Every arm of `handle` looks at the entries that its action reads, and at no other, before
its last section. -/
theorem ends_handle (a : Action) : Ends a.reads (handle a) := by
  refine Ends.bind_free ?_ fun r => .done (some r)
  refine Ends.bind_free (ends_arm a) fun r => ?_
  rcases r
  · exact .done _
  · exact .done _

end Sections

end WgpuRemote.Server
