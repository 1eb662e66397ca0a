/-
What wgpu's answers matter for.

An action gets objects from wgpu, and passes them on. Nothing else that wgpu
answers has an influence on what it does or on how it is answered (`Blind`), with
one exception: a readback that has found its buffer. That one, once it is past its
only section, never touches the tables again, and is never answered that the
buffer is unknown (`Tail`).
-/
import WgpuRemote.Server.Sections

set_option autoImplicit false

namespace WgpuRemote.Server

open Bincode Footprint
open Wgpu (Occ Obj Call Event)
open Dispatch (attempt issue make add store with_tables insert respond)
open Prog (Mem Looks SameNames)

section Blind

variable [WgpuTypes]

namespace Prog

variable {α β : Type}

/-- Of what wgpu answers, the code looks at the objects only. -/
def Blind : Prog α → Prop
  | .done _ => True
  | .lock next => ∀ t, (next t).Blind
  | .store _ next => next.Blind
  | .unlock next => next.Blind
  | .call _ next => (∀ a a', a.made = a'.made → next a = next a') ∧ ∀ a, (next a).Blind
  | .add _ _ next => ∀ s, (next s).Blind

/-- The code leaves the tables alone and takes no lock, and ends with a value of
`P`. -/
def Tail (P : α → Prop) : Prog α → Prop
  | .done a => P a
  | .lock _ => False
  | .store _ _ => False
  | .unlock next => next.Tail P
  | .call _ next => ∀ a, (next a).Tail P
  | .add _ _ next => ∀ s, (next s).Tail P

/-- Blind code in sequence. -/
theorem Blind.bind {p : Prog α} {f : α → Prog β} (hp : p.Blind) (hf : ∀ a, (f a).Blind) :
    (p >>= f).Blind := by
  change (p.bind f).Blind
  induction p with
  | done a => exact hf a
  | lock next ih => exact fun t => ih t (hp t)
  | store t next ih => exact ih hp
  | unlock next ih => exact ih hp
  | call c next ih =>
      exact ⟨fun a a' h => congrArg (·.bind f) (hp.1 a a' h), fun a => ih a (hp.2 a)⟩
  | add a b next ih => exact fun s => ih s (hp s)

/-- Code that looks at the tables looks at no answer. -/
theorem Looks.blind {S : List Ref} {p : Prog α} (h : Looks S p) : p.Blind := by
  induction h with
  | done a => trivial
  | lock _ _ ih => exact ih
  | unlock _ ih => exact ih
  | call _ hmade _ ih => exact ⟨hmade, ih⟩
  | add _ ih => exact ih

/-- Tails in sequence: what the first one ends with is what the second one may rely on. -/
theorem Tail.bind {P : β → Prop} {Q : α → Prop} {p : Prog α} {f : α → Prog β} (hp : p.Tail Q)
    (hf : ∀ a, Q a → (f a).Tail P) : (p >>= f).Tail P := by
  change (p.bind f).Tail P
  induction p with
  | done a => exact hf a hp
  | lock next ih => exact hp.elim
  | store t next ih => exact hp.elim
  | unlock next ih => exact ih hp
  | call c next ih => exact fun a => ih a (hp a)
  | add a b next ih => exact fun s => ih s (hp s)

/-! ## Advancing -/

/-- Where an advance stops. -/
theorem advance_stops (reply : Occ → Call → Answer) (d : ℕ) (p : Prog α) (entered : Bool)
    (m : Mem) :
    (∃ a, (p.advance reply d entered m).1 = .done a) ∨
      ∃ next, (p.advance reply d entered m).1 = .lock next := by
  induction p generalizing entered m with
  | done a => exact Or.inl ⟨a, rfl⟩
  | lock next ih =>
      rcases entered
      · exact ih m.tables true m
      · exact Or.inr ⟨next, rfl⟩
  | store t next ih => exact ih entered { m with tables := t }
  | unlock next ih => exact ih entered m
  | call c next ih => exact ih _ entered (m.log d c)
  | add a b next ih => exact ih (a + b) entered m

/-- Blind code advances alike whatever wgpu answers, if the objects are the same. -/
theorem Blind.advance {p : Prog α} (h : p.Blind) {reply reply' : Occ → Call → Answer}
    (hnames : SameNames reply reply') (d : ℕ) (entered : Bool) (m : Mem) :
    p.advance reply d entered m = p.advance reply' d entered m := by
  induction p generalizing entered m with
  | done a => rfl
  | lock next ih =>
      rcases entered
      · exact ih m.tables (h m.tables) true m
      · rfl
  | store t next ih => exact ih h entered { m with tables := t }
  | unlock next ih => exact ih h entered m
  | call c next ih =>
      show (next (reply (m.next_occ d) c)).advance reply d entered (m.log d c) =
        (next (reply' (m.next_occ d) c)).advance reply' d entered (m.log d c)
      rw [h.1 _ _ (hnames (m.next_occ d) c)]
      exact ih _ (h.2 _) entered (m.log d c)
  | add a b next ih => exact ih (a + b) (h _) entered m

/-- A tail advances to its end. -/
theorem Tail.advance {P : α → Prop} {p : Prog α} (h : p.Tail P) (reply : Occ → Call → Answer)
    (d : ℕ) (entered : Bool) (m : Mem) :
    (∃ a, P a ∧ (p.advance reply d entered m).1 = .done a) ∧
      (p.advance reply d entered m).2.tables = m.tables := by
  induction p generalizing entered m with
  | done a => exact ⟨⟨a, h, rfl⟩, rfl⟩
  | lock next ih => exact h.elim
  | store t next ih => exact h.elim
  | unlock next ih => exact ih h entered m
  | call c next ih => exact ih _ (h _) entered (m.log d c)
  | add a b next ih => exact ih (a + b) (h _) entered m

end Prog

open Prog (Blind Tail)

/-! ## Code with early returns -/

section Dispatch

variable {α β : Type}

/-- `Blind.bind` for code with early returns. -/
theorem blind_bind {p : Dispatch α} {f : α → Dispatch β} (hp : p.run.Blind)
    (hf : ∀ a, (f a).run.Blind) : (p >>= f).run.Blind := by
  refine Blind.bind hp fun r => ?_
  rcases r with e | a
  · trivial
  · exact hf a

/-- Making an object looks at its name and at nothing else. -/
theorem blind_make {k : Kind} (c : Call) : (make k c : Dispatch (Obj k)).run.Blind := by
  refine ⟨fun a a' h => ?_, fun a => trivial⟩
  show (Prog.done (.ok ⟨a.made⟩) : Prog (Except Response (Obj k))) = .done (.ok ⟨a'.made⟩)
  rw [h]

/-- A call whose answer is dropped. -/
theorem blind_issue (c : Call) {f : Dispatch β} (hf : f.run.Blind) :
    (issue c >>= fun _ => f).run.Blind :=
  ⟨fun _ _ _ => rfl, fun _ => hf⟩

/-- A section of blind code. -/
theorem blind_with_tables {body : ResourceTables → Dispatch α} (h : ∀ t, (body t).run.Blind) :
    (with_tables body).run.Blind :=
  fun t => Blind.bind (h t) fun _ => trivial

/-- An insertion makes no call, so there is no answer to look at. -/
theorem blind_insert {k : Kind} (id : Id k) (o : Obj k) : (insert id o).run.Blind :=
  blind_with_tables fun _ => trivial

/-- Making an object and inserting it. -/
theorem blind_create {k : Kind} {p : Dispatch (Obj k)} (hp : p.run.Blind) (id : Id k) :
    (do let o ← p; insert id o; return Response.Ok : Dispatch Response).run.Blind :=
  blind_bind hp fun o => blind_bind (blind_insert id o) fun _ => trivial

/-- Looking up and making under one guard. -/
theorem blind_make_locked {γ : Type} {k : Kind} (b : ResourceTables → Except Response γ)
    (f : γ → Call) :
    (with_tables fun t => do
      let desc ← attempt (b t)
      make k (f desc) : Dispatch (Obj k)).run.Blind :=
  blind_with_tables fun t =>
    blind_bind (show (attempt (b t)).run.Blind from trivial) fun desc => blind_make (f desc)

/-- Deriving a layout looks at its name only. -/
theorem blind_derive {k : Kind} (pipeline : Id k) (f : Obj k → Call) (id : BindGroupLayoutId) :
    (derive_bind_group_layout pipeline f id).run.Blind := by
  refine blind_with_tables fun t => ?_
  refine blind_bind (show (attempt (lookup t pipeline)).run.Blind from trivial) fun p => ?_
  exact blind_bind (blind_make (f p)) fun bgl => trivial

end Dispatch

/-! ## The arms -/

/-- The action that asks wgpu for more than objects. -/
def reads_back : Action → Bool
  | .MapBufferForRead _ _ _ => true
  | _ => false

/-- **All other arms** are blind. -/
theorem blind_arm {a : Action} (h : reads_back a = false) : (handle_arm a).run.Blind := by
  rcases a
  case Hello => trivial
  case RequestAdapter => trivial
  case RequestDevice => trivial
  case CreateCommandEncoder => trivial
  case CreateBuffer id desc => exact blind_create (blind_make _) id
  case CreateTexture id desc => exact blind_create (blind_make _) id
  case CreateSampler id desc => exact blind_create (blind_make _) id
  case CreateBindGroupLayout id desc => exact blind_create (blind_make _) id
  case CreateShaderModule id desc =>
    exact blind_bind (show (attempt _).run.Blind from trivial) fun _ =>
      blind_create (blind_make _) id
  case CreateTextureView id texture desc => exact blind_create (blind_make_locked _ _) id
  case CreateBindGroup id desc => exact blind_create (blind_make_locked _ _) id
  case CreatePipelineLayout id desc => exact blind_create (blind_make_locked _ _) id
  case CreateRenderPipeline id desc => exact blind_create (blind_make_locked _ _) id
  case CreateComputePipeline id desc => exact blind_create (blind_make_locked _ _) id
  case DeriveRenderPipelineBindGroupLayout pipeline index id => exact blind_derive pipeline _ id
  case DeriveComputePipelineBindGroupLayout pipeline index id => exact blind_derive pipeline _ id
  case Destroy resource =>
    rcases resource
    case Buffer id => exact blind_bind (blind_with_tables fun t => trivial) fun _ => trivial
    all_goals trivial
  case WriteBuffer buffer offset data =>
    refine blind_bind (blind_with_tables fun t => ?_) fun _ => blind_issue _ trivial
    exact blind_bind (show (attempt (lookup t buffer)).run.Blind from trivial) fun b =>
      blind_issue _ trivial
  case WriteTexture texture mip_level origin aspect data data_layout size =>
    refine blind_with_tables fun t => ?_
    exact blind_bind (show (attempt (lookup t texture)).run.Blind from trivial) fun tex =>
      blind_issue _ (blind_issue _ trivial)
  case MapBufferForRead buffer offset size => cases h
  case Submit recordings =>
    exact blind_bind (looks_recordings recordings).blind fun cbs => blind_issue _ trivial

/-- Every action but a readback is handled blindly: of wgpu's answers it uses the names. -/
theorem blind_handle {a : Action} (h : reads_back a = false) : (handle a).Blind := by
  refine Blind.bind (Blind.bind (blind_arm h) fun r => ?_) fun r => trivial
  rcases r
  · trivial
  · trivial

/-! ## A readback -/

/-- The bytes of the buffer, or why there are none. -/
def WasRead (response : Option Response) : Prop :=
  (∃ bytes, response = some (.BufferData bytes)) ∨
    ∃ message, response = some (.Error .Internal message)

/-- **A readback** has one section. It finds the buffer there or not, and the rest
is blind or a tail. -/
theorem handle_reads_back {a : Action} (h : reads_back a = true) :
    ∃ next, handle a = .lock next ∧ ∀ t, (next t).Blind ∨ (next t).Tail WasRead := by
  rcases a
  case MapBufferForRead buffer offset size =>
    refine ⟨_, rfl, fun t => ?_⟩
    rcases hlookup : lookup t buffer with e | b
    · refine Or.inl ?_
      simp only [hlookup]
      trivial
    · refine Or.inr ?_
      simp only [hlookup]
      intro stop map
      obtain ⟨made, map_result, bytes⟩ := map
      rcases map_result
      · exact fun stop view _ => Or.inl ⟨view.bytes, rfl⟩
      · exact Or.inr ⟨_, rfl⟩
      · exact Or.inr ⟨_, rfl⟩
  all_goals cases h

end Blind

end WgpuRemote.Server
