/-
The effects of the engine's code.

Engine code does four things that matter beyond its own locals: it takes and
releases the tables mutex, it changes the tables while holding it, it calls
wgpu, and it adds two `u64`s that came over the wire. A `Prog` is such code as
a tree of these operations, so that one translation of the source can be run
under several readings: here, every wgpu call returns normally and one action
runs to its end before the next.

`Dispatch` adds the `Result<_, Response>` early return.
-/
import WgpuRemote.Server.Tables

set_option autoImplicit false

namespace WgpuRemote.Server

open Bincode
open Wgpu (Occ Obj Call Event MapResult)

section Prog

variable [WgpuTypes]

/-- What a wgpu call gives back. Each kind of call looks at its own field. -/
structure Answer where
  /-- The name of the object the call made. -/
  made : Occ
  map_result : MapResult
  bytes : Bytes

/-- Code of the engine. -/
inductive Prog (α : Type) where
  | done (a : α)
  /-- `self.tables.lock().unwrap()` -/
  | lock (next : ResourceTables → Prog α)
  /-- An assignment through the guard. -/
  | store (tables : ResourceTables) (next : Prog α)
  /-- The guard is dropped. -/
  | unlock (next : Prog α)
  | call (c : Call) (next : Answer → Prog α)
  /-- `a + b` on `u64`. -/
  | add (a b : UInt64) (next : UInt64 → Prog α)

namespace Prog

def bind {α β : Type} : Prog α → (α → Prog β) → Prog β
  | .done a, f => f a
  | .lock next, f => .lock fun t => (next t).bind f
  | .store t next, f => .store t (next.bind f)
  | .unlock next, f => .unlock (next.bind f)
  | .call c next, f => .call c fun a => (next a).bind f
  | .add a b next, f => .add a b fun s => (next s).bind f

instance : Monad Prog where
  pure := .done
  bind := bind

/-! ## Running to the end -/

/-- What one dispatch works on: the tables, and the wgpu calls it has made. -/
structure Mem where
  tables : ResourceTables
  events : List Event

/-- The name of the next call of dispatch `d`. -/
def Mem.next_occ (m : Mem) (d : ℕ) : Occ := ⟨d, m.events.length⟩

/-- Record a call. -/
def Mem.log (m : Mem) (d : ℕ) (c : Call) : Mem :=
  { m with events := m.events ++ [⟨m.next_occ d, c⟩] }

@[simp] theorem Mem.log_tables (m : Mem) (d : ℕ) (c : Call) : (m.log d c).tables = m.tables := rfl

/-- A call is logged at the end, under the next occurrence of its device. -/
@[simp] theorem Mem.log_events (m : Mem) (d : ℕ) (c : Call) :
    (m.log d c).events = m.events ++ [⟨m.next_occ d, c⟩] := rfl

/-- Record a sequence of calls. -/
def Mem.logs (m : Mem) (d : ℕ) (cs : List Call) : Mem := cs.foldl (fun m c => m.log d c) m

/-- Calls logged in two parts are logged one after the other. -/
theorem Mem.logs_append (m : Mem) (d : ℕ) (cs cs' : List Call) :
    m.logs d (cs ++ cs') = (m.logs d cs).logs d cs' := List.foldl_append

/-- However many calls are logged, the tables stay. -/
theorem Mem.logs_tables (m : Mem) (d : ℕ) (cs : List Call) : (m.logs d cs).tables = m.tables := by
  induction cs generalizing m with
  | nil => rfl
  | cons c cs ih => exact ih (m.log d c)

/-- What a log of calls adds, occurrences left aside. -/
theorem Mem.logs_calls (m : Mem) (d : ℕ) (cs : List Call) :
    (m.logs d cs).events.map Event.call = m.events.map Event.call ++ cs := by
  induction cs generalizing m with
  | nil => exact (List.append_nil _).symm
  | cons c cs ih =>
      show ((m.log d c).logs d cs).events.map Event.call = _
      rw [ih (m.log d c), Mem.log_events, List.map_append, List.append_assoc]
      rfl

/-- Run the code of dispatch `d` to its end; `reply` is what wgpu answers. The
release build's `+` wraps. -/
def run (reply : Occ → Call → Answer) (d : ℕ) {α : Type} : Prog α → Mem → α × Mem
  | .done a, m => (a, m)
  | .lock next, m => (next m.tables).run reply d m
  | .store t next, m => next.run reply d { m with tables := t }
  | .unlock next, m => next.run reply d m
  | .call c next, m => (next (reply (m.next_occ d) c)).run reply d (m.log d c)
  | .add a b next, m => (next (a + b)).run reply d m

/-- A sequence runs its second part on the memory that the first one left. -/
theorem run_bind (reply : Occ → Call → Answer) (d : ℕ) {α β : Type} (p : Prog α)
    (f : α → Prog β) (m : Mem) :
    (p >>= f).run reply d m = (f (p.run reply d m).1).run reply d (p.run reply d m).2 := by
  change (p.bind f).run reply d m = _
  induction p generalizing m with
  | done a => rfl
  | lock next ih => exact ih m.tables m
  | store t next ih => exact ih { m with tables := t }
  | unlock next ih => exact ih m
  | call c next ih => exact ih _ (m.log d c)
  | add a b next ih => exact ih (a + b) m

end Prog

/-! ## Code with early returns -/

/-- Code returning `Result<α, Response>`. -/
abbrev Dispatch (α : Type) := ExceptT Response Prog α

namespace Dispatch

open Prog (Mem)

/-- A `Result` computed without effects, with `?`. -/
def attempt {α : Type} (r : Except Response α) : Dispatch α :=
  ExceptT.mk (Prog.done r)

/-- Call wgpu. -/
def issue (c : Call) : Dispatch Answer :=
  ExceptT.mk (Prog.call c fun a => .done (.ok a))

/-- Call wgpu to make an object. -/
def make (k : Kind) (c : Call) : Dispatch (Obj k) := do
  let a ← issue c
  return ⟨a.made⟩

/-- `a + b` on `u64`. -/
def add (a b : UInt64) : Dispatch UInt64 :=
  ExceptT.mk (Prog.add a b fun s => .done (.ok s))

/-- Assign the tables through the guard. -/
def store (t : ResourceTables) : Dispatch Unit :=
  ExceptT.mk (Prog.store t (.done (.ok ())))

/-- The scope of a guard: `let tables = self.tables.lock().unwrap(); body`. The
guard is dropped at the end of the scope, by an early return as well. -/
def with_tables {α : Type} (body : ResourceTables → Dispatch α) : Dispatch α :=
  ExceptT.mk (Prog.lock fun t => (body t).run >>= fun r => Prog.unlock (.done r))

/-- `self.tables.lock().unwrap().<kind>.insert(id, object)`. -/
def insert {k : Kind} (id : Id k) (o : Obj k) : Dispatch Unit :=
  with_tables fun t => store (t.insert id o)

/-- A function returning a `Response`: both the early and the final return. -/
def respond (p : Dispatch Response) : Prog Response := do
  match ← p.run with
  | .ok r => return r
  | .error r => return r

/-! ## Running code with early returns -/

/-- Run to the end or to the early return. -/
def exec (reply : Occ → Call → Answer) (d : ℕ) {α : Type} (p : Dispatch α) (m : Mem) :
    Except Response α × Mem :=
  Prog.run reply d p.run m

variable (reply : Occ → Call → Answer) (d : ℕ) {α β : Type} (m : Mem)

@[simp] theorem exec_pure (a : α) : exec reply d (pure a) m = (.ok a, m) := rfl

@[simp] theorem exec_attempt (r : Except Response α) : exec reply d (attempt r) m = (r, m) := rfl

/-- A call is logged, and answered by the gpu for this occurrence. -/
@[simp] theorem exec_issue (c : Call) :
    exec reply d (issue c) m = (.ok (reply (m.next_occ d) c), m.log d c) := rfl

@[simp] theorem exec_add (a b : UInt64) : exec reply d (add a b) m = (.ok (a + b), m) := rfl

@[simp] theorem exec_store (t : ResourceTables) :
    exec reply d (store t) m = (.ok (), { m with tables := t }) := rfl

/-- A dispatch that failed does not run what follows it. -/
theorem exec_bind (p : Dispatch α) (f : α → Dispatch β) :
    exec reply d (p >>= f) m =
      match exec reply d p m with
      | (.ok a, m') => exec reply d (f a) m'
      | (.error r, m') => (.error r, m') := by
  unfold exec
  change Prog.run reply d (p.run >>= ExceptT.bindCont f) m = _
  rw [Prog.run_bind]
  rcases hp : Prog.run reply d p.run m with ⟨r | a, m'⟩
  · rfl
  · rfl

/-- The next step after a step that succeeds. -/
theorem exec_bind_ok {p : Dispatch α} {f : α → Dispatch β} {a : α} {m' : Mem}
    (h : exec reply d p m = (.ok a, m')) :
    exec reply d (p >>= f) m = exec reply d (f a) m' := by
  rw [exec_bind, h]

/-- An early return skips the rest. -/
theorem exec_bind_error {p : Dispatch α} {f : α → Dispatch β} {r : Response} {m' : Mem}
    (h : exec reply d p m = (.error r, m')) :
    exec reply d (p >>= f) m = (.error r, m') := by
  rw [exec_bind, h]

/-- A made object is recorded under the occurrence of the gpu's answer. -/
@[simp] theorem exec_make (k : Kind) (c : Call) :
    exec reply d (make k c) m = (.ok ⟨(reply (m.next_occ d) c).made⟩, m.log d c) := rfl

/-- Run alone, the guard changes nothing: the body sees the tables as they are. -/
@[simp] theorem exec_with_tables (body : ResourceTables → Dispatch α) :
    exec reply d (with_tables body) m = exec reply d (body m.tables) m := by
  change Prog.run reply d ((body m.tables).run >>= fun r => Prog.unlock (.done r)) m = _
  rw [Prog.run_bind]
  rfl

/-- An insertion changes one entry. -/
@[simp] theorem exec_insert {k : Kind} (id : Id k) (o : Obj k) :
    exec reply d (insert id o) m = (.ok (), { m with tables := m.tables.insert id o }) := by
  rw [insert, exec_with_tables, exec_store]

/-- An error becomes the response that names it. -/
theorem run_respond (p : Dispatch Response) :
    Prog.run reply d (respond p) m =
      match exec reply d p m with
      | (.ok r, m') => (r, m')
      | (.error r, m') => (r, m') := by
  unfold exec respond
  rw [Prog.run_bind]
  rcases Prog.run reply d p.run m with ⟨r | a, m'⟩
  · rfl
  · rfl

end Dispatch

end Prog

end WgpuRemote.Server
