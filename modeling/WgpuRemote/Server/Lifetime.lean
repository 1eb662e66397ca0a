/-
The life of a table entry.

An engine is run on a list of actions and keeps, for each, how it answered.
What the tables should hold afterwards is read off that record alone: an id
holds the object of the last create or derive action for it that was answered
`Ok`, unless a `Destroy` of the id came later. `Served.op` turns the record into
map operations, so this is `Store.Holds`.

The engine keeps to it exactly as long as no `Destroy` names a live id of a
kind other than `Buffer`: only buffers have an arm that removes, the other nine
kinds fall through to the one that just acknowledges
(`tables_exact_iff`).
-/
import WgpuRemote.Lib.Transition
import WgpuRemote.Server.Contract

set_option autoImplicit false

namespace WgpuRemote.Server

open Footprint Transition
open Wgpu (Occ Obj Call Event Gpu)

section Lifetime

variable [WgpuTypes]

/-! ## Running an engine -/

/-- One dispatched action: how it was answered, and the object made by the
first wgpu call it made, if it made any. -/
structure Served where
  action : Action
  response : Option Response
  object : Option Occ

/-- An engine and what it has dispatched. -/
structure History where
  engine : Engine
  served : List Served

/-- An engine that has not dispatched anything. -/
def History.new : History := ⟨Engine.new, []⟩

/-- The record of dispatching `a` on `e`. -/
def Served.of (gpu : Gpu) (e : Engine) (a : Action) : Served where
  action := a
  response := (e.handle gpu a).1
  object := ((e.handle gpu a).2.log.drop e.log.length).head?.map Event.occ

/-- Dispatch one action. -/
def History.step (gpu : Gpu) (s : History) (a : Action) : Option History :=
  some ⟨(s.engine.handle gpu a).2, s.served ++ [Served.of gpu s.engine a]⟩

/-- What a dispatched action means for the tables: a create or derive action
answered `Ok` puts its object at its id, a `Destroy` takes the id away. -/
def Served.op (s : Served) : Store.Op Ref Occ :=
  match s.action.creates, s.response, s.object with
  | some r, some .Ok, some o => .put r o
  | some _, _, _ => .skip
  | none, _, _ =>
      match s.action.destroys with
      | some r => .del r
      | none => .skip

/-! ## What the tables should hold -/

/-- An id is present exactly if it was created and not destroyed since, and
then it holds the object of its last creation. -/
def TracksLive (s : History) : Prop :=
  ∀ r o, s.engine.tables r = some o ↔ Store.Holds (s.served.map Served.op) r o

/-- After a `Destroy` of `r` was acknowledged, and until `r` is created anew,
every action that reads `r` is answered that it is unknown (or, if the action is
not supported in the first place, that it is invalid). -/
def DestroyedIsGone (s : History) : Prop :=
  ∀ before d mid x after r, s.served = before ++ d :: mid ++ x :: after →
    d.action.destroys = some r → d.response = some .Ok →
    (∀ m ∈ mid, ∀ o, m.op ≠ .put r o) → r ∈ x.action.reads →
    ∃ resp, x.response = some resp ∧ (IsUnknown resp ∨ ¬ x.action.supported ∧ IsInvalid resp)

/-- No action changes an entry other than the one it creates or destroys. -/
def TouchesOwnEntry (gpu : Gpu) (s : History) : Prop :=
  ∀ a r, a.creates ≠ some r → a.destroys ≠ some r →
    (s.engine.handle gpu a).2.tables r = s.engine.tables r

/-- The tables are exactly the live resources. -/
structure TablesExact (gpu : Gpu) (s : History) : Prop where
  tracks : TracksLive s
  gone : DestroyedIsGone s
  frame : TouchesOwnEntry gpu s

/-- The action is not a `Destroy` of a present id that is not a buffer's. -/
def RemovesWhatItDestroys (s : History) (a : Action) : Prop :=
  ∀ r, a.destroys = some r → s.engine.tables r ≠ none → r.kind = .Buffer

/-! ## One step -/

/-- The ids an action destroys but does not remove are those of the other nine kinds. -/
theorem removes_of_destroys {a : Action} {r : Ref} (h : a.destroys = some r) :
    removes a = if r.kind = .Buffer then some r else none := by
  cases a with
  | Destroy resource =>
      cases resource with
      | Device id => cases h
      | Queue id => cases h
      | CommandBuffer id => cases h
      | _ =>
          cases h
          rfl
  | _ => cases h

/-- What destroys nothing removes nothing. -/
theorem removes_eq_none {a : Action} (h : a.destroys = none) : removes a = none := by
  cases a with
  | Destroy resource =>
      cases resource with
      | Buffer id => cases h
      | _ => rfl
  | _ => rfl

/-- A `Destroy` reads nothing, so it is always admitted. -/
theorem admitted_of_destroys {a : Action} {r : Ref} (h : a.destroys = some r)
    (t : ResourceTables) : Admitted a t := by
  cases a with
  | Destroy resource => exact ⟨trivial, Present.nil t⟩
  | _ => cases h

/-- The object a create action makes is the one its call made. -/
theorem handle_creates_log (gpu : Gpu) (e : Engine) {a : Action} {r : Ref}
    (hr : a.creates = some r) (h : Admitted a e.tables) :
    ∃ call, (e.handle gpu a).2.log = e.log ++ [⟨⟨e.dispatched, 0⟩, call⟩] := by
  rw [← creation_ref] at hr
  obtain ⟨c, hc, -⟩ := Option.map_eq_some_iff.mp hr
  obtain ⟨call, hcall⟩ := ((creation_resolves hc).ok_iff e.tables).mpr h
  have hexec := exec_creation (e.reply gpu) e.dispatched ⟨e.tables, []⟩ hc
  rw [hcall] at hexec
  rw [handle_eq gpu e a hexec]
  exact ⟨call, rfl⟩

/-- What one action does to the tables is what the record says it means, unless
the action destroys without removing. -/
theorem step_tables (gpu : Gpu) {s s' : History} {a : Action} (h : s.step gpu a = some s') :
    ∃ x : Served, s'.served = s.served ++ [x] ∧ x.action = a ∧
      x.response = (s.engine.handle gpu a).1 ∧
      s'.engine = (s.engine.handle gpu a).2 ∧
      (RemovesWhatItDestroys s a → s'.engine.tables = x.op.apply s.engine.tables) := by
  rw [History.step] at h
  cases h
  refine ⟨Served.of gpu s.engine a, rfl, rfl, rfl, rfl, fun hok => ?_⟩
  dsimp only [Served.op, Served.of]
  cases hcr : a.creates with
  | some r =>
      by_cases hadm : Admitted a s.engine.tables
      · obtain ⟨htab, hresp⟩ := handle_admitted gpu s.engine a hadm
        obtain ⟨call, hlog⟩ := handle_creates_log gpu s.engine hcr hadm
        rw [hresp (not_query_of_creates hcr), hlog, List.drop_left, htab, effect, hcr]
        rfl
      · obtain ⟨htab, resp, hresp, herr⟩ := handle_rejected gpu s.engine a hadm
        rw [hresp, htab]
        rcases herr with ⟨what, raw, rfl⟩ | ⟨-, message, rfl⟩
        · rfl
        · rfl
  | none =>
      dsimp only
      cases hd : a.destroys with
      | some r =>
          obtain ⟨htab, -⟩ := handle_admitted gpu s.engine a (admitted_of_destroys hd _)
          rw [htab, effect, hcr, removes_of_destroys hd]
          by_cases hk : r.kind = .Buffer
          · rw [if_pos hk]
          · rw [if_neg hk]
            -- nothing was there to remove
            have habs : s.engine.tables r = none := by
              by_contra hne
              exact hk (hok r hd hne)
            exact (Store.remove_of_none habs).symm
      | none =>
          dsimp only
          by_cases hadm : Admitted a s.engine.tables
          · obtain ⟨htab, -⟩ := handle_admitted gpu s.engine a hadm
            rw [htab, effect, hcr, removes_eq_none hd]
          · obtain ⟨htab, -⟩ := handle_rejected gpu s.engine a hadm
            exact htab

/-- No action changes an entry that it neither creates nor destroys, answered or refused. -/
theorem touches_own_entry (gpu : Gpu) (s : History) : TouchesOwnEntry gpu s := by
  intro a r hcr hd
  by_cases hadm : Admitted a s.engine.tables
  · obtain ⟨htab, -⟩ := handle_admitted gpu s.engine a hadm
    rw [htab]
    refine Store.Op.apply_of_not_touches ?_ _
    rw [effect]
    cases hc : a.creates with
    | some x =>
        intro hx
        exact hcr (by rw [hc, show x = r from hx])
    | none =>
        cases hdx : a.destroys with
        | none =>
            rw [removes_eq_none hdx]
            exact id
        | some x =>
            -- only the `Destroy` of a buffer removes anything
            rw [removes_of_destroys hdx]
            by_cases hk : x.kind = .Buffer
            · rw [if_pos hk]
              intro hx
              exact hd (by rw [hdx, show x = r from hx])
            · rw [if_neg hk]
              exact id
  · obtain ⟨htab, -⟩ := handle_rejected gpu s.engine a hadm
    rw [htab]

/-! ## Runs -/

/-- The tables are the record's map, and nothing destroyed was found again. -/
def Exact (s : History) : Prop :=
  s.engine.tables = Store.run ResourceTables.empty (s.served.map Served.op) ∧ DestroyedIsGone s

/-- Tables that are the record's map track the live resources. -/
theorem Exact.tracks {s : History} (h : Exact s) : TracksLive s := by
  intro r o
  rw [h.1]
  exact Store.run_eq_some_iff _ r o

theorem exact_new : Exact History.new := by
  refine ⟨rfl, ?_⟩
  intro before d mid x after r h
  simp [History.new] at h

/-- In the record, a destroyed id counts as removed, whatever its kind. -/
theorem op_of_destroys {x : Served} {r : Ref} (h : x.action.destroys = some r) :
    x.op = .del r := by
  rw [Served.op, Action.creates_of_destroys h, h]

/-- A destroyed id that was not put back is in no table. -/
theorem Exact.absent {s : History} (h : Exact s) {before mid : List Served} {d : Served} {r : Ref}
    (hs : s.served = before ++ d :: mid) (hd : d.action.destroys = some r)
    (hmid : ∀ m ∈ mid, ∀ o, m.op ≠ .put r o) : s.engine.tables r = none := by
  cases hr : s.engine.tables r with
  | none => rfl
  | some o =>
      obtain ⟨pre, post, hops, hpost⟩ := (h.tracks r o).mp hr
      rw [hs, List.map_append, List.map_cons, op_of_destroys hd] at hops
      -- the put is either before the destroy, which then touches it, or in `mid`
      rcases List.append_eq_append_iff.mp hops with ⟨l, -, hl⟩ | ⟨l, hl, hl'⟩
      · cases l with
        | nil => cases hl
        | cons y l =>
            rw [List.cons_append] at hl
            obtain ⟨-, hl⟩ := List.cons.inj hl
            have hmem : Store.Op.put r o ∈ mid.map Served.op := by
              rw [hl]
              exact List.mem_append_right _ (List.mem_cons_self)
            obtain ⟨m, hm, hop⟩ := List.mem_map.mp hmem
            exact absurd hop (hmid m hm o)
      · cases l with
        | nil => cases hl'
        | cons y l =>
            rw [List.cons_append] at hl'
            obtain ⟨-, hl'⟩ := List.cons.inj hl'
            refine absurd ?_ (hpost (.del r) ?_)
            · rfl
            · rw [hl']
              exact List.mem_append_right _ (List.mem_cons_self)

/-- A step that removes what it destroys keeps the tables exact. -/
theorem Exact.step {gpu : Gpu} {s s' : History} {a : Action} (h : Exact s)
    (hstep : s.step gpu a = some s') (hok : RemovesWhatItDestroys s a) : Exact s' := by
  obtain ⟨x, hserved, hact, hresp, hengine, htab⟩ := step_tables gpu hstep
  refine ⟨?_, ?_⟩
  · rw [hserved, List.map_append, List.map_singleton, Store.run_snoc, ← h.1]
    exact htab hok
  · intro before d mid y after r hs hd hack hmid hy
    rw [hserved] at hs
    rcases List.eq_nil_or_concat after with rfl | ⟨front, z, rfl⟩
    · -- the reading action is the one just dispatched
      obtain ⟨hpre, hlast⟩ := List.append_inj' hs rfl
      cases List.singleton_inj.mp hlast
      have habs := h.absent hpre hd hmid
      rw [hact] at hy ⊢
      have hadm : ¬ Admitted a s.engine.tables := fun hadm => by
        have hsome := hadm.2 r hy
        rw [habs] at hsome
        cases hsome
      obtain ⟨-, resp, hr, herr⟩ := handle_rejected gpu s.engine a hadm
      exact ⟨resp, hresp.trans hr, herr⟩
    · -- it was dispatched earlier
      rw [List.concat_eq_append, ← List.cons_append, ← List.append_assoc] at hs
      obtain ⟨hpre, -⟩ := List.append_inj' hs rfl
      exact h.2 before d mid y front r hpre hd hack hmid hy

/-- A step that destroys without removing leaves an entry behind. -/
theorem not_tracks_of_step {gpu : Gpu} {s s' : History} {a : Action}
    (hstep : s.step gpu a = some s') (hbad : ¬ RemovesWhatItDestroys s a) : ¬ TracksLive s' := by
  intro htracks
  refine hbad fun r hd hne => ?_
  by_contra hk
  obtain ⟨x, hserved, hact, -, hengine, -⟩ := step_tables gpu hstep
  obtain ⟨o, ho⟩ := Option.ne_none_iff_exists'.mp hne
  have hstill : s'.engine.tables r = some o := by
    obtain ⟨htab, -⟩ := handle_admitted gpu s.engine a (admitted_of_destroys hd _)
    rw [hengine, htab, effect, Action.creates_of_destroys hd, removes_of_destroys hd, if_neg hk]
    exact ho
  have hholds := (htracks r o).mp hstill
  rw [hserved, List.map_append, List.map_singleton, op_of_destroys (hact ▸ hd)] at hholds
  rcases hholds.last with hput | ⟨hnot, -⟩
  · cases hput
  · exact hnot rfl

/-- **The tables track the live resources**, in every state of a run, exactly
if no action of the run destroys a live id that is not a buffer's. -/
theorem tables_exact_iff (gpu : Gpu) (actions : List Action) :
    Always (History.step gpu) (TablesExact gpu) History.new actions ↔
      Guarded (History.step gpu) RemovesWhatItDestroys History.new actions := by
  refine always_iff_guarded (History.step gpu) ?_ ?_ ?_ actions exact_new
  · intro s h
    exact ⟨h.tracks, h.2, touches_own_entry gpu s⟩
  · intro s a s' h hstep hok
    exact h.step hstep hok
  · intro s a s' _ hstep hbad hexact
    exact not_tracks_of_step hstep hbad hexact.tracks

end Lifetime

/-! ## A texture that is destroyed and stays -/

/-- Create a texture, destroy it: the table still holds it. -/
theorem destroyed_texture_stays :
    letI := WgpuTypes.numeric
    ¬ ∀ (gpu : Gpu) (actions : List Action) (s : History),
      run (History.step gpu) History.new actions = some s → TracksLive s := by
  let _ := WgpuTypes.numeric
  intro h
  have htracks := h idle_gpu
    [.CreateTexture ⟨1⟩ ⟨none, (4 : UInt32), 1, 1, (2 : UInt32), (18 : UInt32), (6 : UInt32), []⟩, .Destroy (.Texture ⟨1⟩)] _ rfl
  have hheld := (htracks (Id.ref (⟨1⟩ : TextureId)) ⟨0, 0⟩).mp rfl
  -- the last thing recorded is the destroy, and it is about this very id
  have hlast : Store.Holds
      ([.put (Id.ref (⟨1⟩ : TextureId)) ⟨0, 0⟩] ++ [.del (Id.ref (⟨1⟩ : TextureId))])
      (Id.ref (⟨1⟩ : TextureId)) (⟨0, 0⟩ : Occ) := hheld
  rcases hlast.last with hput | ⟨hnot, -⟩
  · cases hput
  · exact hnot rfl

end WgpuRemote.Server
