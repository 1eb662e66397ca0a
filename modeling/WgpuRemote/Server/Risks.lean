/-
Where a dispatch may panic on numbers that came over the wire.

The engine adds an offset and a size, both `u64`s, and slices a buffer with them.
An addition that does not fit panics in a build that checks its arithmetic and wraps
in one that does not; a slice that is empty or ends behind its buffer panics in wgpu.
`Prog.risks` lists the operands and the slices of a run in their order, and
`Prog.checked` is the run in which either panics. It gets to the end exactly if every
risk is safe (`checked_eq_run_iff`), so what is left is to know the risks of a
dispatch from the action and the tables. They are taken on the way: `Step` is one
thing a piece of code does before it goes on, a lookup that has to succeed or a slice,
and a dispatch takes the slices it gets to before the first lookup that fails
(`arm_safe_iff`). Safe is then a matter of the plain numbers: the range is not empty
and ends within the buffer (`Asked.safe_iff`).
-/
import WgpuRemote.Server.Failure

set_option autoImplicit false

namespace WgpuRemote.Server

open Bincode Footprint
open Wgpu (Occ Obj Call Event BufferSlice)
open Dispatch (attempt issue make add store with_tables insert respond exec)
open Prog (Mem)

/-- The sum of the two is a `u64`. -/
def SumFits (s : UInt64 × UInt64) : Prop := s.1.toNat + s.2.toNat < 2 ^ 64

instance (s : UInt64 × UInt64) : Decidable (SumFits s) := inferInstanceAs (Decidable (_ < _))

section Risks

variable [WgpuTypes]

/-! ## The risks of a run -/

/-- What may panic on its operands. -/
inductive Risk where
  /-- `a + b` on `u64` -/
  | sum (a b : UInt64)
  /-- `Buffer::slice` -/
  | slice (s : BufferSlice Obj)

/-- It does not; `size` is what wgpu has kept as the size of each buffer. -/
def Risk.Safe (size : Obj .Buffer → BufferAddress) : Risk → Prop
  | .sum a b => SumFits (a, b)
  | .slice s => InRange size s

namespace Prog

/-- The risks a program takes, in order. -/
def risks (reply : Occ → Call → Answer) (d : ℕ) {α : Type} : Prog α → Mem → List Risk
  | .done _, _ => []
  | .lock next, m => (next m.tables).risks reply d m
  | .store t next, m => next.risks reply d { m with tables := t }
  | .unlock next, m => next.risks reply d m
  | .call c next, m =>
      ((slice_of c).map Risk.slice).toList ++
        (next (reply (m.next_occ d) c)).risks reply d (m.log d c)
  | .add a b next, m => .sum a b :: (next (a + b)).risks reply d m

/-- The run in a build that checks its arithmetic, on a wgpu that checks its slices.
An addition that overflows panics, a slice out of range does, and there is no
outcome then. -/
def checked (size : Obj .Buffer → BufferAddress) (reply : Occ → Call → Answer) (d : ℕ) {α : Type} :
    Prog α → Mem → Option (α × Mem)
  | .done a, m => some (a, m)
  | .lock next, m => (next m.tables).checked size reply d m
  | .store t next, m => next.checked size reply d { m with tables := t }
  | .unlock next, m => next.checked size reply d m
  | .call c next, m =>
      if (slice_of c).all fun s => InRange size s then
        (next (reply (m.next_occ d) c)).checked size reply d (m.log d c)
      else none
  | .add a b next, m => if SumFits (a, b) then (next (a + b)).checked size reply d m else none

variable (reply : Occ → Call → Answer) (d : ℕ)

/-- **Two runs.** The run that checks gets to the outcome of the one that does not
exactly if every risk is safe. -/
theorem checked_eq_run_iff (size : Obj .Buffer → BufferAddress) {α : Type} (p : Prog α) (m : Mem) :
    p.checked size reply d m = some (p.run reply d m) ↔
      ∀ r ∈ p.risks reply d m, r.Safe size := by
  induction p generalizing m with
  | done a => exact ⟨fun _ s hs => absurd hs List.not_mem_nil, fun _ => rfl⟩
  | lock next ih => exact ih m.tables m
  | store t next ih => exact ih { m with tables := t }
  | unlock next ih => exact ih m
  | call c next ih =>
      rw [checked, run, risks, List.forall_mem_append]
      rcases slice_of c with _ | s
      · -- a call without a slice is no risk
        rw [Option.all_none, if_pos rfl, ih]
        exact ⟨fun hrest => ⟨fun r hr => absurd hr List.not_mem_nil, hrest⟩, fun hrest => hrest.2⟩
      -- a slice is a risk of its own, and comes before the rest
      · have hone : (∀ r ∈ ((some s).map Risk.slice).toList, r.Safe size) ↔ InRange size s :=
          List.forall_mem_singleton
        rw [hone, Option.all_some]
        by_cases h : InRange size s
        · rw [if_pos (decide_eq_true h), ih]
          exact ⟨fun hrest => ⟨h, hrest⟩, fun hrest => hrest.2⟩
        · rw [if_neg (by rw [decide_eq_true_eq]; exact h)]
          exact ⟨fun hnone => absurd hnone (by simp), fun hrest => absurd hrest.1 h⟩
  -- and so is a sum
  | add a b next ih =>
      rw [checked, run, risks, List.forall_mem_cons]
      by_cases h : SumFits (a, b)
      · rw [if_pos h, ih (a + b) m]
        exact ⟨fun hrest => ⟨h, hrest⟩, fun hrest => hrest.2⟩
      · rw [if_neg h]
        exact ⟨fun hnone => absurd hnone (by simp), fun hrest => absurd hrest.1 h⟩

/-- The risks of a sequence are those of its first part, then those of the second after it. -/
theorem risks_bind {α β : Type} (p : Prog α) (f : α → Prog β) (m : Mem) :
    (p >>= f).risks reply d m =
      p.risks reply d m ++ (f (p.run reply d m).1).risks reply d (p.run reply d m).2 := by
  change (p.bind f).risks reply d m = _
  induction p generalizing m with
  | done a => rfl
  | lock next ih => exact ih m.tables m
  | store t next ih => exact ih { m with tables := t }
  | unlock next ih => exact ih m
  | call c next ih =>
      rw [bind, risks, risks, run, ih, List.append_assoc]
  | add a b next ih => exact congrArg _ (ih (a + b) m)

end Prog

section Dispatch

variable (reply : Occ → Call → Answer) (d : ℕ) {α β : Type} (m : Mem)

/-- The next step after a step that succeeds. -/
theorem risks_bind_ok {p : Dispatch α} {f : α → Dispatch β} {a : α} {m' : Mem}
    (h : exec reply d p m = (.ok a, m')) :
    (p >>= f).run.risks reply d m = p.run.risks reply d m ++ (f a).run.risks reply d m' := by
  have hrun : p.run.run reply d m = (.ok a, m') := h
  change (p.run >>= ExceptT.bindCont f).risks reply d m = _
  rw [Prog.risks_bind, hrun]
  rfl

/-- An early return skips the rest. -/
theorem risks_bind_error {p : Dispatch α} {f : α → Dispatch β} {r : Response} {m' : Mem}
    (h : exec reply d p m = (.error r, m')) :
    (p >>= f).run.risks reply d m = p.run.risks reply d m := by
  have hrun : p.run.run reply d m = (.error r, m') := h
  change (p.run >>= ExceptT.bindCont f).risks reply d m = _
  rw [Prog.risks_bind, hrun]
  exact List.append_nil _

end Dispatch

/-! ## Code without a risk -/

/-- The code makes no addition and takes no slice. -/
def Riskless {α : Type} (p : Prog α) : Prop := ∀ reply d m, p.risks reply d m = []

namespace Riskless

/-- Riskless code in sequence. -/
theorem bind {α β : Type} {p : Prog α} {f : α → Prog β} (hp : Riskless p)
    (hf : ∀ a, Riskless (f a)) : Riskless (p >>= f) := by
  intro reply d m
  rw [Prog.risks_bind, hp reply d m, hf _ reply d _]
  rfl

/-- Sequencing of code with early returns. -/
theorem dispatch_bind {α β : Type} {p : Dispatch α} {f : α → Dispatch β} (hp : Riskless p.run)
    (hf : ∀ a, Riskless (f a).run) : Riskless (p >>= f).run := by
  refine hp.bind fun r => ?_
  cases r with
  | error e => exact fun _ _ _ => rfl
  | ok a => exact hf a

/-- A section of riskless code. -/
theorem with_tables {α : Type} {body : ResourceTables → Dispatch α}
    (hbody : ∀ t, Riskless (body t).run) : Riskless (with_tables body).run :=
  fun reply d m =>
    (hbody m.tables).bind (fun _ => (fun _ _ _ => rfl : Riskless (.unlock (.done _)))) reply d m

theorem pure {α : Type} (a : α) : Riskless (Pure.pure a : Dispatch α).run := fun _ _ _ => rfl

/-- A call that is given no slice. -/
theorem call {c : Call} (h : slice_of c = none) {α : Type} {next : Answer → Prog α}
    (hnext : ∀ a, Riskless (next a)) : Riskless (.call c next) := by
  intro reply d m
  rw [Prog.risks, h, hnext]
  rfl

theorem issue {c : Call} (h : slice_of c = none) : Riskless (issue c).run :=
  call h fun _ _ _ _ => rfl

/-- Nor making an object. -/
theorem make (k : Kind) {c : Call} (h : slice_of c = none) : Riskless (make k c).run :=
  call h fun _ _ _ _ => rfl

theorem insert {k : Kind} (id : Id k) (o : Obj k) : Riskless (insert id o).run :=
  fun _ _ _ => rfl

/-- Nor a lookup. -/
theorem attempt {α : Type} (r : Except Response α) : Riskless (attempt r).run :=
  fun _ _ _ => rfl

/-- What comes after an attempt comes after its success only. -/
theorem attempt_bind {α β : Type} {r : Except Response α} {f : α → Dispatch β}
    (hf : ∀ a, r = .ok a → Riskless (f a).run) : Riskless (Dispatch.attempt r >>= f).run := by
  rcases r with e | a
  · exact fun _ _ _ => rfl
  · exact hf a rfl

theorem encode {encoder : Occ} {call : Wgpu.EncoderCall Obj}
    (h : slice_of (.encode encoder call) = none) : Riskless (encode encoder call).run :=
  Riskless.call h fun _ _ _ _ => rfl

/-- The create arms. -/
theorem creates {a : Action} {c : Creation} (h : creation a = some c) :
    Riskless (handle_arm a).run := by
  -- a create call is on no slice
  have hcall : ∀ t call, c.call t = .ok call → slice_of call = none := by
    intro t call hc
    have hoff := creation_no_slice h hc
    exact hoff
  have harm := create_arm h
  generalize handle_arm a = arm at harm ⊢
  generalize creates_alone a = alone at harm
  have hinsert : ∀ {k : Kind} (id : Id k) (o : Obj k),
      Riskless (Dispatch.insert id o >>= fun _ => Pure.pure Response.Ok).run := fun id o =>
    (insert id o).dispatch_bind fun _ => pure _
  cases harm with
  | unlocked id call =>
      exact (make _ (hcall ResourceTables.empty call rfl)).dispatch_bind fun o => hinsert id o
  | checked id b f =>
      refine attempt_bind fun x hx => ?_
      have hnone := hcall ResourceTables.empty (f x) (by rw [hx]; rfl)
      exact (make _ hnone).dispatch_bind fun o => hinsert id o
  | locked id b f =>
      refine dispatch_bind (with_tables fun t => ?_) fun o => hinsert id o
      refine attempt_bind fun x hx => make _ (hcall t (f x) ?_)
      show (b t).map f = _
      rw [hx]
      rfl
  | derive pipeline f id =>
      refine with_tables fun t => attempt_bind fun p hp => ?_
      have hnone := hcall t (f p) (by show (lookup t pipeline).map f = _; rw [hp]; rfl)
      exact (make _ hnone).dispatch_bind fun bgl _ _ _ => rfl

end Riskless

/-! ## What a dispatch goes through -/

/-- What a piece of code does before it goes on. -/
inductive Step where
  /-- It looks an id up, and returns early if the tables do not hold it. -/
  | look (r : Ref)
  /-- It looks a buffer up, and slices it from the offset on, for the size if there
  is one. -/
  | slice (buffer : BufferId) (offset : BufferAddress) (size : Option BufferAddress)
  /-- It returns early. -/
  | stop

/-- A slice of a buffer that is there. -/
structure Asked where
  buffer : Obj .Buffer
  offset : BufferAddress
  size : Option BufferAddress

namespace Asked

/-- The slice wgpu gets. -/
def slice (x : Asked) : BufferSlice Obj := ⟨x.buffer, x.offset, x.size.map (x.offset + ·)⟩

/-- The size is added to the offset, and the buffer is sliced. -/
def risks (x : Asked) : List Risk := (x.size.map (Risk.sum x.offset)).toList ++ [.slice x.slice]

/-- The range is not empty, and ends within the buffer. Without a size it ends with
the buffer. -/
def Inside (size : Obj .Buffer → BufferAddress) : Asked → Prop
  | ⟨b, offset, some n⟩ => 0 < n.toNat ∧ offset.toNat + n.toNat ≤ (size b).toNat
  | ⟨b, offset, none⟩ => offset.toNat < (size b).toNat

omit [WgpuTypes] in
/-- **What is inside its buffer is safe**, and nothing else is. -/
theorem safe_iff (size : Obj .Buffer → BufferAddress) (x : Asked) :
    (∀ r ∈ x.risks, r.Safe size) ↔ x.Inside size := by
  obtain ⟨b, offset, _ | n⟩ := x
  · -- from the offset to the end of the buffer
    show (∀ r ∈ [Risk.slice ⟨b, offset, none⟩], r.Safe size) ↔ offset.toNat < (size b).toNat
    rw [List.forall_mem_singleton, ← UInt64.lt_iff_toNat_lt]
    exact ⟨fun h => h.1, fun h => ⟨h, UInt64.le_refl _⟩⟩
  · have hsize := (size b).toNat_lt
    show (∀ r ∈ [Risk.sum offset n, .slice ⟨b, offset, some (offset + n)⟩], r.Safe size) ↔
      0 < n.toNat ∧ offset.toNat + n.toNat ≤ (size b).toNat
    rw [List.forall_mem_cons, List.forall_mem_singleton]
    show SumFits (offset, n) ∧ offset < offset + n ∧ offset + n ≤ size b ↔ _
    rw [UInt64.lt_iff_toNat_lt, UInt64.le_iff_toNat_le, UInt64.toNat_add]
    constructor
    · rintro ⟨hfits, hlt, hle⟩
      have hsum : offset.toNat + n.toNat < 2 ^ 64 := hfits
      rw [Nat.mod_eq_of_lt hsum] at hlt hle
      omega
    · -- what ends within the buffer is a `u64`
      rintro ⟨hpos, hle⟩
      have hfits : offset.toNat + n.toNat < 2 ^ 64 := by omega
      rw [Nat.mod_eq_of_lt hfits]
      exact ⟨hfits, by omega, hle⟩

end Asked

/-- The code gets to its end. -/
def Passes (t : ResourceTables) : List Step → Prop
  | [] => True
  | .look r :: steps => (t r).isSome ∧ Passes t steps
  | .slice buffer _ _ :: steps => (t buffer.ref).isSome ∧ Passes t steps
  | .stop :: _ => False

/-- The slices it gets to. -/
def reached (t : ResourceTables) : List Step → List Asked
  | [] => []
  | .look r :: steps => if (t r).isSome then reached t steps else []
  | .slice buffer offset size :: steps =>
      match t buffer.ref with
      | some o => ⟨⟨o⟩, offset, size⟩ :: reached t steps
      | none => []
  | .stop :: _ => []

omit [WgpuTypes] in
/-- Steps in two parts are gone through if both parts are. -/
theorem passes_append (t : ResourceTables) (steps steps' : List Step) :
    Passes t (steps ++ steps') ↔ Passes t steps ∧ Passes t steps' := by
  induction steps with
  | nil => exact ⟨fun h => ⟨trivial, h⟩, fun h => h.2⟩
  | cons step steps ih =>
      cases step with
      | look r => exact (and_congr_right fun _ => ih).trans and_assoc.symm
      | slice buffer offset size => exact (and_congr_right fun _ => ih).trans and_assoc.symm
      | stop => exact ⟨fun h => h.elim, fun h => h.1.elim⟩

omit [WgpuTypes] in
/-- The second part is gone through if the first one is. -/
theorem reached_append_of_passes {t : ResourceTables} {steps : List Step} (h : Passes t steps)
    (steps' : List Step) : reached t (steps ++ steps') = reached t steps ++ reached t steps' := by
  induction steps with
  | nil => rfl
  | cons step steps ih =>
      cases step with
      | look r =>
          rw [List.cons_append, reached, reached, if_pos h.1, if_pos h.1]
          exact ih h.2
      | slice buffer offset size =>
          obtain ⟨o, ho⟩ := Option.isSome_iff_exists.mp h.1
          rw [List.cons_append, reached, reached, ho]
          exact congrArg _ (ih h.2)
      | stop => exact h.elim

omit [WgpuTypes] in
/-- Code that does not get to the end of the first part gets to none of the slices of the
second. -/
theorem reached_append_of_not_passes {t : ResourceTables} {steps : List Step}
    (h : ¬ Passes t steps) (steps' : List Step) : reached t (steps ++ steps') = reached t steps := by
  induction steps with
  | nil => exact absurd trivial h
  | cons step steps ih =>
      cases step with
      | look r =>
          rw [List.cons_append, reached, reached]
          by_cases hr : (t r).isSome
          · rw [if_pos hr, if_pos hr]
            exact ih fun hpass => h ⟨hr, hpass⟩
          · rw [if_neg hr, if_neg hr]
      | slice buffer offset size =>
          rw [List.cons_append, reached, reached]
          rcases ho : t buffer.ref with _ | o
          · rfl
          · have hr : (t buffer.ref).isSome := Option.isSome_iff_exists.mpr ⟨o, ho⟩
            exact congrArg _ (ih fun hpass => h ⟨hr, hpass⟩)
      | stop => rfl

omit [WgpuTypes] in
/-- Lookups alone. -/
theorem passes_look (t : ResourceTables) (S : List Ref) :
    Passes t (S.map .look) ↔ Present S t := by
  induction S with
  | nil => exact ⟨fun _ => Present.nil t, fun _ => trivial⟩
  | cons r S ih =>
      rw [List.map_cons, Passes, ih, Present, Present, List.forall_mem_cons]

omit [WgpuTypes] in
theorem reached_look (t : ResourceTables) (S : List Ref) : reached t (S.map .look) = [] := by
  induction S with
  | nil => rfl
  | cons r S ih =>
      rw [List.map_cons, reached, ih]
      exact ite_self []

/-- The program goes through these steps and changes no table. -/
structure Goes {α : Type} (p : ResourceTables → Dispatch α) (steps : List Step) : Prop where
  tables : ∀ reply d t evs, ∃ r evs', exec reply d (p t) ⟨t, evs⟩ = (r, ⟨t, evs'⟩)
  ends : ∀ reply d t evs, (∃ a, (exec reply d (p t) ⟨t, evs⟩).1 = .ok a) ↔ Passes t steps
  risks : ∀ reply d t evs,
    (p t).run.risks reply d ⟨t, evs⟩ = (reached t steps).flatMap Asked.risks

namespace Goes

variable {α β : Type}

theorem of_eq {p : ResourceTables → Dispatch α} {steps steps' : List Step} (h : Goes p steps)
    (heq : steps = steps') : Goes p steps' := by
  rw [← heq]
  exact h

/-- Code that only reads the tables, and takes no risk. -/
theorem of_reads {p : ResourceTables → Dispatch α} {S : List Ref} (h : Reads p True S)
    (hrisks : ∀ t, Riskless (p t).run) : Goes p (S.map .look) where
  tables := h.tables
  ends reply d t evs := by
    rw [h.ok_iff reply d t evs, passes_look]
    exact ⟨fun hp => hp.2, fun hp => ⟨trivial, hp⟩⟩
  risks reply d t evs := by
    rw [reached_look]
    exact hrisks t reply d _

/-- An early return. What would come after it does not matter. -/
theorem stop (r : Response) (steps : List Step) :
    Goes (fun _ => (Dispatch.attempt (.error r) : Dispatch α)) (.stop :: steps) where
  tables _ _ _ _ := ⟨_, _, rfl⟩
  ends _ _ _ _ := ⟨fun ⟨_, h⟩ => by (cases h), fun h => h.elim⟩
  risks _ _ _ _ := rfl

/-- A resolved descriptor looks up what its resolution reads. -/
theorem attempt {b : ResourceTables → Except Response α} {S : List Ref}
    (hb : Resolves IsUnknown IsInvalid b True S) :
    Goes (fun t => Dispatch.attempt (b t)) (S.map .look) :=
  of_reads (Reads.attempt hb) fun _ _ _ _ => rfl

theorem pure (a : α) : Goes (fun _ => Pure.pure a) [] := attempt (Resolves.pure a)

theorem issue {c : Call} (h : slice_of c = none) : Goes (fun _ => issue c) [] :=
  of_reads (Reads.issue c) fun _ => Riskless.issue h

/-- Sequencing: the steps of the one, then those of the other. -/
theorem bind {p : ResourceTables → Dispatch α} {q : ResourceTables → α → Dispatch β}
    {steps steps' : List Step} (hp : Goes p steps) (hq : ∀ a, Goes (fun t => q t a) steps') :
    Goes (fun t => p t >>= q t) (steps ++ steps') where
  tables reply d t evs := by
    obtain ⟨r, evs1, ht⟩ := hp.tables reply d t evs
    rw [Dispatch.exec_bind, ht]
    cases r with
    | error e => exact ⟨_, _, rfl⟩
    | ok a => exact (hq a).tables reply d t evs1
  ends reply d t evs := by
    obtain ⟨r, evs1, ht⟩ := hp.tables reply d t evs
    have hfirst := hp.ends reply d t evs
    rw [ht] at hfirst
    rw [Dispatch.exec_bind, ht, passes_append]
    cases r with
    | error e =>
        -- the first part has returned early
        have hno : ¬ Passes t steps := fun h => by
          obtain ⟨a, ha⟩ := hfirst.mpr h
          cases ha
        exact ⟨fun ⟨a, ha⟩ => by (cases ha), fun h => absurd h.1 hno⟩
    | ok a =>
        have hpass := hfirst.mp ⟨a, rfl⟩
        exact ((hq a).ends reply d t evs1).trans ⟨fun h => ⟨hpass, h⟩, fun h => h.2⟩
  risks reply d t evs := by
    obtain ⟨r, evs1, ht⟩ := hp.tables reply d t evs
    have hfirst := hp.ends reply d t evs
    rw [ht] at hfirst
    cases r with
    | error e =>
        have hno : ¬ Passes t steps := fun h => by
          obtain ⟨a, ha⟩ := hfirst.mpr h
          cases ha
        rw [risks_bind_error reply d _ ht, hp.risks reply d t evs, reached_append_of_not_passes hno]
    | ok a =>
        rw [risks_bind_ok reply d _ ht, hp.risks reply d t evs, (hq a).risks reply d t evs1,
          reached_append_of_passes (hfirst.mp ⟨a, rfl⟩), List.flatMap_append]

/-- Locking gives the program the tables in memory. -/
theorem with_tables {p : ResourceTables → Dispatch α} {steps : List Step} (hp : Goes p steps) :
    Goes (fun _ => with_tables p) steps where
  tables reply d t evs := by
    rw [Dispatch.exec_with_tables]
    exact hp.tables reply d t evs
  ends reply d t evs := by
    rw [Dispatch.exec_with_tables]
    exact hp.ends reply d t evs
  risks reply d t evs := by
    change ((p t).run >>= fun r => Prog.unlock (.done r)).risks reply d ⟨t, evs⟩ = _
    rw [Prog.risks_bind, hp.risks reply d t evs]
    exact List.append_nil _

theorem encode {encoder : Occ} {call : Wgpu.EncoderCall Obj}
    (h : slice_of (.encode encoder call) = none) : Goes (fun _ => encode encoder call) [] :=
  of_reads (Reads.encode encoder call) fun _ => Riskless.encode h

/-- A loop goes through the steps of its rounds. -/
theorem for_each {f : ResourceTables → α → Dispatch Unit} {steps : α → List Step}
    (hf : ∀ c, Goes (fun t => f t c) (steps c)) (l : List α) :
    Goes (fun t => for_each (f t) l) (l.flatMap steps) := by
  induction l with
  | nil => exact pure ()
  | cons c l ih => exact (hf c).bind fun _ => ih

/-- Beginning and ending a pass takes no risk and fails nothing. -/
theorem with_pass {body : ResourceTables → Dispatch Unit} {steps : List Step}
    (hb : Goes body steps) {encoder : Occ} {opening closing : Wgpu.EncoderCall Obj}
    (hopening : slice_of (.encode encoder opening) = none)
    (hclosing : slice_of (.encode encoder closing) = none) :
    Goes (fun t => with_pass encoder opening closing (body t)) steps := by
  refine ((encode hopening).bind fun _ => (?_ : Goes (fun t => ExceptT.mk
    ((body t).run >>= fun r => (Server.encode encoder closing).run >>= fun _ => Pure.pure r)) steps))
  refine ⟨fun reply d t evs => ?_, fun reply d t evs => ?_, fun reply d t evs => ?_⟩
  · obtain ⟨r, evs', ht⟩ := hb.tables reply d t evs
    rw [exec_end_pass, ht]
    exact ⟨r, _, rfl⟩
  · rw [exec_end_pass]
    exact hb.ends reply d t evs
  · have hlast : Riskless (Server.encode encoder closing).run := Riskless.encode hclosing
    change Prog.risks reply d ((body t).run >>= _) _ = _
    rw [Prog.risks_bind, hb.risks reply d t evs]
    refine (congrArg _ ?_).trans (List.append_nil _)
    exact hlast.bind (fun _ _ _ _ => rfl) reply d _

/-- A command that looks a buffer up, slices it and makes one call with the slice. -/
theorem sliced (buffer : BufferId) (offset : BufferAddress) (size : Option BufferAddress)
    (encoder : Occ) {call : BufferSlice Obj → Wgpu.EncoderCall Obj}
    (hcall : ∀ s, slice_of (.encode encoder (call s)) = some s) :
    Goes (fun t => do
      let b ← Dispatch.attempt (lookup t buffer)
      let slice ← Server.slice b offset size
      Server.encode encoder (call slice)) [.slice buffer offset size] := by
  -- the lookup fails, or the rest is without an early return
  have hmissing : ∀ t, t buffer.ref = none →
      Dispatch.attempt (lookup t buffer) = Dispatch.attempt (.error
        (unknown Kind.Buffer.id_name buffer.raw)) := by
    intro t ht
    rw [lookup, lookup_as_none _ ht]
  have hfound : ∀ t o, t buffer.ref = some o →
      Dispatch.attempt (lookup t buffer) = Dispatch.attempt (.ok ⟨o⟩) := by
    intro t o ht
    rw [lookup, lookup_as_some _ ht]
  refine ⟨fun reply d t evs => ?_, fun reply d t evs => ?_, fun reply d t evs => ?_⟩
  · rcases ht : t buffer.ref with _ | o
    · rw [hmissing t ht]
      exact ⟨_, _, rfl⟩
    · rw [hfound t o ht]
      rcases size with _ | n
      · exact ⟨_, _, rfl⟩
      · exact ⟨_, _, rfl⟩
  · rw [Passes]
    rcases ht : t buffer.ref with _ | o
    · rw [hmissing t ht]
      exact ⟨fun ⟨_, h⟩ => by (cases h), fun h => by (cases h.1)⟩
    · rw [hfound t o ht]
      refine ⟨fun _ => ⟨rfl, trivial⟩, fun _ => ?_⟩
      rcases size with _ | n
      · exact ⟨_, rfl⟩
      · exact ⟨_, rfl⟩
  · rw [reached]
    rcases ht : t buffer.ref with _ | o
    · rw [hmissing t ht]
      rfl
    · rw [hfound t o ht]
      rcases size with _ | n
      · show ((slice_of _).map Risk.slice).toList ++ [] = _
        rw [hcall]
        rfl
      · show Risk.sum offset n :: (((slice_of _).map Risk.slice).toList ++ []) = _
        rw [hcall]
        rfl

end Goes

/-! ## Replaying -/

/-- The steps of `replay_render_command`. -/
def RenderCommand.steps : RenderCommand → List Step
  | .SetVertexBuffer _ buffer offset size => [.slice buffer offset size]
  | .SetIndexBuffer buffer _ offset size => [.slice buffer offset size]
  | c => c.refs.map .look

/-- The steps of `replay_encoder_command`. -/
def EncoderCommand.steps : EncoderCommand → List Step
  | .BeginRenderPass _ color depth commands =>
      (attachment_refs color depth).map .look ++ commands.flatMap RenderCommand.steps
  | c => c.refs.map .look

/-- The steps of a recording of a `Submit`: one that does not decode ends it. -/
def payload_steps (raw : Bytes) : List Step :=
  match CommandBufferRecording.decode raw with
  | .ok recording => recording.commands.flatMap EncoderCommand.steps
  | .error _ => [.stop]

/-- A command that looks one id up and makes one call, on no slice. -/
theorem riskless_one {k : Kind} (t : ResourceTables) (id : Id k) (encoder : Occ)
    {f : Obj k → Wgpu.EncoderCall Obj} (hf : ∀ o, slice_of (.encode encoder (f o)) = none) :
    Riskless (attempt (lookup t id) >>= fun o => encode encoder (f o)).run :=
  (Riskless.attempt _).dispatch_bind fun o => Riskless.encode (hf o)

/-- A compute command looks its ids up and takes no slice. -/
theorem goes_compute_command (pass : Occ) (c : ComputeCommand) :
    Goes (fun t => replay_compute_command t pass c) (c.refs.map .look) := by
  refine Goes.of_reads (reads_compute_command pass c) fun t => ?_
  cases c with
  | SetPipeline id => exact riskless_one t id pass fun _ => rfl
  | SetBindGroup index group offsets => exact riskless_one t group pass fun _ => rfl
  | SetPushConstants offset data => exact Riskless.encode rfl
  | DispatchWorkgroups x y z => exact Riskless.encode rfl
  | DispatchWorkgroupsIndirect buffer offset => exact riskless_one t buffer pass fun _ => rfl

/-- A render command looks its buffer up and then takes the slice, if it sets one. -/
theorem goes_render_command (pass : Occ) (c : RenderCommand) :
    Goes (fun t => replay_render_command t pass c) (RenderCommand.steps c) := by
  cases c with
  | SetPipeline id =>
      exact Goes.of_reads (reads_one id pass _) fun t => riskless_one t id pass fun _ => rfl
  | SetBindGroup index group offsets =>
      exact Goes.of_reads (reads_one group pass _) fun t => riskless_one t group pass fun _ => rfl
  | SetVertexBuffer slot buffer offset size => exact Goes.sliced buffer offset size pass fun _ => rfl
  | SetIndexBuffer buffer format offset size => exact Goes.sliced buffer offset size pass fun _ => rfl
  | Draw vertices instances => exact Goes.encode rfl
  | DrawIndexed indices base_vertex instances => exact Goes.encode rfl

/-- An encoder command goes through its lookups; a pass through those of its attachments and the
steps of its commands. -/
theorem goes_encoder_command (encoder : Occ) (c : EncoderCommand) :
    Goes (fun t => replay_encoder_command t encoder c) (EncoderCommand.steps c) := by
  cases c with
  | CopyBufferToBuffer source source_offset destination destination_offset size =>
      refine Goes.of_reads (reads_encoder_command encoder _) fun t => ?_
      exact (Riskless.attempt _).dispatch_bind fun src => riskless_one t _ encoder fun _ => rfl
  | ClearBuffer buffer offset size =>
      exact Goes.of_reads (reads_encoder_command encoder _) fun t =>
        riskless_one t _ encoder fun _ => rfl
  | CopyBufferToTexture source destination copy_size =>
      refine Goes.of_reads (reads_encoder_command encoder _) fun t => ?_
      exact (Riskless.attempt _).dispatch_bind fun src =>
        (Riskless.attempt _).dispatch_bind fun dst => Riskless.encode rfl
  | CopyTextureToBuffer source destination copy_size =>
      refine Goes.of_reads (reads_encoder_command encoder _) fun t => ?_
      exact (Riskless.attempt _).dispatch_bind fun src =>
        (Riskless.attempt _).dispatch_bind fun dst => Riskless.encode rfl
  | BeginComputePass label commands =>
      have hopening : slice_of (.encode encoder (.begin_compute_pass label)) = none := rfl
      have hclosing : slice_of (.encode encoder .end_compute_pass) = none := rfl
      have h := (Goes.for_each (goes_compute_command encoder) commands).with_pass hopening hclosing
      exact h.of_eq List.map_flatMap.symm
  | BeginRenderPass label color_attachments depth_stencil_attachment commands =>
      have hcolor := Resolves.mapM resolves_color_attachment color_attachments
      have hdepth := resolves_depth_attachment depth_stencil_attachment
      -- the attachments are looked up before the pass is begun
      have hopening : ∀ desc, slice_of (.encode encoder (.begin_render_pass desc)) = none :=
        fun _ => rfl
      have h := (Goes.attempt (hcolor.of_iff (by simp) rfl)).bind fun color_atts =>
        (Goes.attempt hdepth).bind fun depth_att =>
          (Goes.for_each (goes_render_command encoder) commands).with_pass
            (hopening
              { label, color_attachments := color_atts, depth_stencil_attachment := depth_att })
            (show slice_of (.encode encoder .end_render_pass) = none from rfl)
      refine h.of_eq ?_
      rw [EncoderCommand.steps, attachment_refs, List.map_append, List.append_assoc]

/-- A recording goes through the steps of its commands. -/
theorem goes_recording (recording : CommandBufferRecording) :
    Goes (fun _ => replay_recording recording)
      (recording.commands.flatMap EncoderCommand.steps) := by
  have hcreate : slice_of (.create_command_encoder recording.label) = none := rfl
  have hfinish : ∀ encoder, slice_of (.finish encoder) = none := fun _ => rfl
  have h := (Goes.issue hcreate).bind fun encoder =>
    (Goes.for_each (goes_encoder_command encoder.made) recording.commands).with_tables.bind fun _ =>
      (Goes.issue (hfinish encoder.made)).bind fun cb =>
        Goes.pure (⟨cb.made⟩ : Wgpu.CommandBuffer)
  exact h.of_eq (List.append_nil _)

/-- A submission goes through those of its payloads, and stops at one that does not decode. -/
theorem goes_recordings (recordings : List Bytes) :
    Goes (fun _ => replay_recordings recordings) (recordings.flatMap payload_steps) := by
  induction recordings with
  | nil => exact Goes.pure _
  | cons raw recordings ih =>
      cases hraw : CommandBufferRecording.decode raw with
      | ok recording =>
          have h := (goes_recording recording).bind fun cb =>
            ih.bind fun cbs => Goes.pure (cb :: cbs)
          rw [replay_recordings_decoded hraw]
          exact h.of_eq (by simp [payload_steps, hraw])
      | error e =>
          -- the first recording that does not decode ends it
          rw [replay_recordings_undecoded hraw]
          exact (Goes.stop _ (recordings.flatMap payload_steps)).of_eq
            (by simp [payload_steps, hraw])

/-! ## One action -/

/-- What the arm of an action does before it goes on, if it is one that slices. -/
def Action.steps : Action → List Step
  | .Submit recordings => recordings.flatMap payload_steps
  | .MapBufferForRead buffer offset size => [.slice buffer offset (some size)]
  | _ => []

/-- `read_buffer` slices before the map, and once more if the map succeeds. -/
theorem read_buffer_risks (reply : Occ → Call → Answer) (d : ℕ) (id : BufferId)
    (offset size : BufferAddress) (t : ResourceTables) (evs : List Event) :
    ∀ r, r ∈ (read_buffer id offset size).run.risks reply d ⟨t, evs⟩ ↔
      r ∈ (reached t [.slice id offset (some size)]).flatMap Asked.risks := by
  intro r
  have hlook := Dispatch.exec_with_tables reply d ⟨t, evs⟩ fun t => attempt (lookup t id)
  cases ht : t id.ref with
  | none =>
      have hb : lookup t id = .error (unknown Kind.Buffer.id_name id.raw) := lookup_as_none _ ht
      rw [Dispatch.exec_attempt, hb] at hlook
      rw [read_buffer, risks_bind_error reply d _ hlook, reached, ht]
      exact Iff.rfl
  | some o =>
      have hb : lookup t id = .ok ⟨o⟩ := lookup_as_some _ ht
      rw [Dispatch.exec_attempt, hb] at hlook
      rw [read_buffer, risks_bind_ok reply d _ hlook, reached, ht]
      rw [risks_bind_ok reply d _ (Dispatch.exec_add reply d _ offset size),
        risks_bind_ok reply d _ (Dispatch.exec_issue reply d _ _)]
      -- the risks before the map, and the same again if the map succeeds
      have hasked : (reached t []).flatMap Asked.risks = [] := rfl
      cases hmap : (reply ((⟨t, evs⟩ : Mem).next_occ d)
          (.map_async ⟨⟨o⟩, offset, some (offset + size)⟩)).map_result with
      | Ok =>
          change r ∈ [Risk.sum offset size, .slice ⟨⟨o⟩, offset, some (offset + size)⟩,
            .sum offset size, .slice ⟨⟨o⟩, offset, some (offset + size)⟩] ↔
            r ∈ [Risk.sum offset size, .slice ⟨⟨o⟩, offset, some (offset + size)⟩]
          simp only [List.mem_cons, List.not_mem_nil, or_false]
          tauto
      | Err => exact Iff.rfl
      | Dropped => exact Iff.rfl

/-- **The risks of an action.** Every risk of a dispatch is safe exactly if every
slice the action gets to on the tables is inside its buffer. -/
theorem arm_safe_iff (size : Obj .Buffer → BufferAddress) (reply : Occ → Call → Answer) (d : ℕ)
    (a : Action) (t : ResourceTables) (evs : List Event) :
    (∀ r ∈ (handle_arm a).run.risks reply d ⟨t, evs⟩, r.Safe size) ↔
      ∀ x ∈ reached t (Action.steps a), x.Inside size := by
  -- the risks are those of the slices, one after the other
  have hasked : (∀ r ∈ (reached t (Action.steps a)).flatMap Asked.risks, r.Safe size) ↔
      ∀ x ∈ reached t (Action.steps a), x.Inside size := by
    refine List.forall_mem_flatMap.trans (forall₂_congr fun x _ => x.safe_iff size)
  have hnothing : Riskless (handle_arm a).run → Action.steps a = [] →
      ((∀ r ∈ (handle_arm a).run.risks reply d ⟨t, evs⟩, r.Safe size) ↔
        ∀ x ∈ reached t (Action.steps a), x.Inside size) := by
    intro h hsteps
    rw [h reply d _, hsteps]
    exact ⟨fun _ x hx => absurd hx List.not_mem_nil, fun _ r hr => absurd hr List.not_mem_nil⟩
  -- two arms slice: the one that maps, and the one that replays
  cases hc : creation a with
  | some c =>
      refine hnothing (Riskless.creates hc) ?_
      rcases a
      all_goals first | rfl | cases hc
  | none =>
      cases a with
      | Hello v => exact hnothing (Riskless.pure _) rfl
      | RequestAdapter => exact hnothing (Riskless.pure _) rfl
      | RequestDevice label => exact hnothing (Riskless.pure _) rfl
      | CreateCommandEncoder id desc => exact hnothing (Riskless.pure _) rfl
      | Destroy resource =>
          refine hnothing ?_ rfl
          cases resource with
          | Buffer id =>
              exact (Riskless.with_tables fun t _ _ _ => rfl).dispatch_bind fun _ =>
                Riskless.pure _
          | _ => exact Riskless.pure _
      | WriteBuffer buffer offset data =>
          refine hnothing ?_ rfl
          refine (Riskless.with_tables fun t => ?_).dispatch_bind fun _ =>
            (Riskless.issue rfl).dispatch_bind fun _ => Riskless.pure _
          exact (Riskless.attempt _).dispatch_bind fun b =>
            (Riskless.issue rfl).dispatch_bind fun _ => Riskless.pure _
      | WriteTexture texture mip_level origin aspect data data_layout size =>
          refine hnothing (Riskless.with_tables fun t => ?_) rfl
          exact (Riskless.attempt _).dispatch_bind fun tex =>
            (Riskless.issue rfl).dispatch_bind fun _ =>
              (Riskless.issue rfl).dispatch_bind fun _ => Riskless.pure _
      | MapBufferForRead buffer offset size =>
          refine Iff.trans ?_ hasked
          exact forall_congr' fun s =>
            imp_congr_left (read_buffer_risks reply d buffer offset size t evs s)
      | Submit recordings =>
          have hsubmit : ∀ cbs, slice_of (.submit cbs) = none := fun _ => rfl
          have h := (goes_recordings recordings).bind fun cbs =>
            (Goes.issue (hsubmit cbs)).bind fun _ => Goes.pure Response.Ok
          rw [← hasked, Action.steps, ← (h.of_eq (List.append_nil _)).risks reply d t evs]
          exact Iff.rfl
      | _ => cases hc

/-- `handle` takes the risks of its arm. -/
theorem handle_risks (reply : Occ → Call → Answer) (d : ℕ) (a : Action) (m : Mem) :
    (handle a).risks reply d m = (handle_arm a).run.risks reply d m := by
  unfold handle respond
  rw [Prog.risks_bind, Prog.risks_bind]
  rcases (handle_arm a).run.run reply d m with ⟨r | r, m'⟩
  · exact (List.append_nil _).trans (List.append_nil _)
  · exact (List.append_nil _).trans (List.append_nil _)

end Risks

end WgpuRemote.Server
