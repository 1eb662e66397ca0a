/-
What one action depends on.

Of the tables, an action sees the entries it reads and nothing else; of the
engine's past, only what wgpu makes of it (`handle_congr`). Its own calls are
named after its dispatch (`handle_log`).
-/
import WgpuRemote.Server.Contract

set_option autoImplicit false

namespace WgpuRemote.Server

open Footprint
open Wgpu (Occ Call Event Gpu)
open Dispatch (exec)
open Prog (Mem)

section Isolation

variable [WgpuTypes]

/-- Whatever code a dispatch runs, the calls it makes bear its number. -/
theorem run_events (reply : Occ → Call → Answer) (d : ℕ) {α : Type} (p : Prog α) (m : Mem) :
    ∃ evs, (p.run reply d m).2.events = m.events ++ evs ∧ ∀ ev ∈ evs, ev.occ.dispatch = d := by
  induction p generalizing m with
  | done a => exact ⟨[], (List.append_nil _).symm, fun ev hev => absurd hev List.not_mem_nil⟩
  | lock next ih => exact ih m.tables m
  | store t next ih => exact ih { m with tables := t }
  | unlock next ih => exact ih m
  | add a b next ih => exact ih (a + b) m
  | call c next ih =>
      obtain ⟨evs, hevents, hdispatch⟩ := ih (reply (m.next_occ d) c) (m.log d c)
      refine ⟨⟨m.next_occ d, c⟩ :: evs, ?_, ?_⟩
      · rw [Mem.log_events, List.append_assoc] at hevents
        exact hevents
      · intro ev hev
        rcases List.mem_cons.mp hev with rfl | hev
        · rfl
        · exact hdispatch ev hev

/-- The log grows by the calls of the dispatch. -/
theorem handle_log (gpu : Gpu) (e : Engine) (a : Action) :
    ∃ evs, (e.handle gpu a).2.log = e.log ++ evs ∧ ∀ ev ∈ evs, ev.occ.dispatch = e.dispatched := by
  obtain ⟨evs, hevents, hdispatch⟩ :=
    run_events (e.reply gpu) e.dispatched (Server.handle a) ⟨e.tables, []⟩
  refine ⟨evs, ?_, hdispatch⟩
  show e.log ++ _ = _
  rw [hevents, List.nil_append]

/-- Two engines on which an action's arm ends the same way, with the same calls. -/
theorem handle_same (gpu : Gpu) {e e' : Engine} {a : Action} {r : Except Response Response}
    {t t' : ResourceTables} {evs : List Event}
    (h : exec (e.reply gpu) e.dispatched (handle_arm a) ⟨e.tables, []⟩ = (r, ⟨t, evs⟩))
    (h' : exec (e'.reply gpu) e'.dispatched (handle_arm a) ⟨e'.tables, []⟩ = (r, ⟨t', evs⟩)) :
    (e.handle gpu a).1 = (e'.handle gpu a).1 ∧
      ∃ evs, (e.handle gpu a).2.log = e.log ++ evs ∧ (e'.handle gpu a).2.log = e'.log ++ evs := by
  rw [handle_eq gpu e a h, handle_eq gpu e' a h']
  exact ⟨rfl, evs, rfl, rfl⟩

/-- **One action on two engines** that agree on the entries it reads, and that
wgpu answers alike: it is answered the same and makes the same calls. -/
theorem handle_congr (gpu : Gpu) {e e' : Engine} {a : Action}
    (hnumber : e.dispatched = e'.dispatched) (hreply : e.reply gpu = e'.reply gpu)
    (h : AgreeOn a.reads e.tables e'.tables) :
    (e.handle gpu a).1 = (e'.handle gpu a).1 ∧
      ∃ evs, (e.handle gpu a).2.log = e.log ++ evs ∧ (e'.handle gpu a).2.log = e'.log ++ evs := by
  rcases hc : creation a with _ | c
  · rcases hr : removes a with _ | ref
    · -- the arms that only read
      obtain ⟨r, evs, h1, h2⟩ :=
        (reads_arm a hc hr).frame (e.reply gpu) e.dispatched e.tables e'.tables [] h
      rw [hreply, hnumber] at h2
      exact handle_same gpu h1 h2
    · -- the one arm that removes reads nothing
      rcases a with _ | _ | _ | _ | _ | _ | _ | _ | _ | _ | _ | _ | _ | _ | resource
      case Destroy =>
        rcases resource with _ | _ | id
        case Buffer => exact handle_same gpu (t := e.tables.remove id) rfl rfl
        all_goals exact absurd hr (by simp [removes])
      all_goals exact absurd hr (by simp [removes])
  · -- the create arms
    have hcall : c.call e.tables = c.call e'.tables := (creation_resolves hc).congr _ _ h
    have hexec := exec_creation (e.reply gpu) e.dispatched ⟨e.tables, []⟩ hc
    have hexec' := exec_creation (e'.reply gpu) e'.dispatched ⟨e'.tables, []⟩ hc
    rw [← hcall] at hexec'
    rcases hv : c.call e.tables with r | call
    · rw [hv] at hexec hexec'
      exact handle_same gpu hexec hexec'
    · rw [hv] at hexec hexec'
      have hone : exec (e.reply gpu) e.dispatched (handle_arm a) ⟨e.tables, []⟩ =
          (.ok .Ok, ⟨_, [⟨⟨e.dispatched, 0⟩, call⟩]⟩) := hexec
      have hother : exec (e'.reply gpu) e'.dispatched (handle_arm a) ⟨e'.tables, []⟩ =
          (.ok .Ok, ⟨_, [⟨⟨e'.dispatched, 0⟩, call⟩]⟩) := hexec'
      have hname : (⟨e'.dispatched, 0⟩ : Occ) = ⟨e.dispatched, 0⟩ := by rw [hnumber]
      rw [hname] at hother
      exact handle_same gpu hone hother

end Isolation

end WgpuRemote.Server
