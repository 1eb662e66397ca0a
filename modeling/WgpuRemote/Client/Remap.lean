/-
`map_async` and `unmap` on one drop-in `Buffer`, with the readbacks in between.

A `map_async` spawns a task that reads the range back, fills the buffer's slot
and calls the callback. Nothing stops the task: when `unmap` comes first, the
task still fills the slot when it is done. The maps are numbered in the order of
their calls, and `filled_by` remembers whose bytes the slot holds, so that a
readback that outlives its map can be told from the one that belongs there.
-/
import WgpuRemote.Client.Mapping

set_option autoImplicit false

namespace WgpuRemote.Client

open Bincode
open Transition (Always Guarded always_iff_guarded)
open Overlay (get_set get_set_self get_push)

/-! ## Maps -/

/-- How far the task of a map has come. -/
inductive Readback where
  | reading
  /-- The slot is filled, the callback not yet called. -/
  | filled (bytes : Bytes)
  /-- The callback was called with `Ok`. -/
  | succeeded (bytes : Bytes)
  /-- The callback was called with an error. -/
  | failed

/-- The bytes the readback brought. -/
def Readback.bytes : Readback → Option Bytes
  | .filled bytes | .succeeded bytes => some bytes
  | .reading | .failed => none

/-- The callback has been called. -/
def Readback.ended : Readback → Bool
  | .succeeded _ | .failed => true
  | .reading | .filled _ => false

/-- One call of `map_async`. -/
structure Map where
  readback : Readback
  /-- `unmap` was called after it. -/
  unmapped : Bool
  /-- `unmap` was called before its callback. -/
  cancelled : Bool

/-- The call, when it returns. -/
def Map.new : Map := ⟨.reading, false, false⟩

/-- The map, once `unmap` is called. -/
def Map.unmap (m : Map) : Map :=
  { m with unmapped := true, cancelled := m.cancelled || !m.readback.ended }

/-- How the maps of a buffer stand to each other. -/
structure Ordered (maps : List Map) (active : Bool) : Prop where
  /-- Only the latest map can be in place, and then the buffer is active. -/
  latest : ∀ n m, maps[n]? = some m → m.unmapped = false → active = true ∧ n + 1 = maps.length
  /-- A task that is under way is cancelled by `unmap`. -/
  cancelled : ∀ (n : ℕ) m, maps[n]? = some m → m.readback.ended = false → m.cancelled = m.unmapped

/-- A task that goes on leaves the order as it is. -/
theorem Ordered.set {maps : List Map} {active : Bool} (h : Ordered maps active) {n : ℕ} {m : Map}
    (hm : maps[n]? = some m) (hended : m.readback.ended = false) (readback : Readback) :
    Ordered (maps.set n { m with readback }) active := by
  refine ⟨fun k mk hk hunmapped => ?_, fun k mk hk hreadback => ?_⟩
  · rw [List.length_set]
    rcases get_set hk with ⟨rfl, rfl⟩ | ⟨-, hk⟩
    · exact h.latest k m hm hunmapped
    · exact h.latest k mk hk hunmapped
  · rcases get_set hk with ⟨rfl, rfl⟩ | ⟨-, hk⟩
    · exact h.cancelled k m hm hended
    · exact h.cancelled k mk hk hreadback

/-- When no map is in place, a new one may be. -/
theorem Ordered.push {maps : List Map} (h : Ordered maps false) : Ordered (maps ++ [Map.new]) true := by
  refine ⟨fun k mk hk hunmapped => ?_, fun k mk hk hended => ?_⟩
  · rcases get_push hk with hk | ⟨heq, -⟩
    · exact absurd (h.latest k mk hk hunmapped).1 (by simp)
    · rw [List.length_append, heq]
      exact ⟨rfl, rfl⟩
  · rcases get_push hk with hk | ⟨-, rfl⟩
    · exact h.cancelled k mk hk hended
    · rfl

/-- After `unmap` no map is in place, and every task under way is cancelled. -/
theorem Ordered.unmap {maps : List Map} : Ordered (maps.map Map.unmap) false := by
  have hget : ∀ (k : ℕ) mk, (maps.map Map.unmap)[k]? = some mk → ∃ m, mk = Map.unmap m := by
    intro k mk hk
    rw [List.getElem?_map] at hk
    obtain ⟨m, -, hmk⟩ := Option.map_eq_some_iff.mp hk
    exact ⟨m, hmk.symm⟩
  refine ⟨fun k mk hk hunmapped => ?_, fun k mk hk hended => ?_⟩
  · obtain ⟨m, rfl⟩ := hget k mk hk
    exact absurd hunmapped (by simp [Map.unmap])
  · obtain ⟨m, rfl⟩ := hget k mk hk
    change m.readback.ended = false at hended
    simp [Map.unmap, hended]

section Remap

variable [WgpuTypes]

structure Maps where
  client : Mux
  buffer : DropinBuffer
  maps : List Map
  /-- The buffer is mapped or about to be: since the last `unmap` there was a
  `map_async`, or the buffer was created mapped and never unmapped. -/
  active : Bool
  /-- The map whose readback filled the slot. -/
  filled_by : Option ℕ

namespace Maps

/-- A buffer that was just created, with a staging if it is mapped at creation. -/
def new (client : Mux) (facade : Handle .Buffer) (staging : Option Bytes) : Maps where
  client
  buffer := ⟨facade, staging.map .Write⟩
  maps := []
  active := staging.isSome
  filled_by := none

inductive Label where
  | map_async
  /-- A readback has ended well, and its task fills the slot. -/
  | fill (n : ℕ) (bytes : Bytes)
  /-- The task calls the callback with `Ok`. -/
  | report (n : ℕ)
  /-- A readback has ended with an error, and its task calls the callback. -/
  | fail (n : ℕ) (e : ReadError)
  | unmap

/-- wgpu's front end refuses a `map_async` on a buffer that is not unmapped. -/
def step (s : Maps) : Label → Option Maps
  | .map_async =>
      if s.active then none else some { s with maps := s.maps ++ [Map.new], active := true }
  | .fill n bytes =>
      match s.maps[n]? with
      | some ⟨.reading, unmapped, cancelled⟩ =>
          some { s with
            buffer := (s.buffer.finish_map (.ok bytes)).1
            maps := s.maps.set n ⟨.filled bytes, unmapped, cancelled⟩
            filled_by := some n }
      | _ => none
  | .report n =>
      match s.maps[n]? with
      | some ⟨.filled bytes, unmapped, cancelled⟩ =>
          some { s with maps := s.maps.set n ⟨.succeeded bytes, unmapped, cancelled⟩ }
      | _ => none
  | .fail n e =>
      match s.maps[n]? with
      | some ⟨.reading, unmapped, cancelled⟩ =>
          some { s with
            buffer := (s.buffer.finish_map (.error e)).1
            maps := s.maps.set n ⟨.failed, unmapped, cancelled⟩ }
      | _ => none
  | .unmap =>
      let (buffer, client) := s.buffer.unmap s.client
      some { client, buffer, maps := s.maps.map Map.unmap, active := false, filled_by := none }

/-- The pieces of a task in a row are the task: the slot is filled and the
callback called as `finish_map` does both. -/
theorem run_task {s : Maps} {n : ℕ} {m : Map} (hm : s.maps[n]? = some m)
    (hreading : m.readback = .reading) (bytes : Bytes) :
    ∃ s', Transition.run step s [.fill n bytes, .report n] = some s' ∧
      s'.buffer = (s.buffer.finish_map (.ok bytes)).1 ∧
      s'.maps[n]? = some { m with readback := .succeeded bytes } := by
  obtain ⟨readback, unmapped, cancelled⟩ := m
  subst hreading
  have hlt := (List.getElem?_eq_some_iff.mp hm).1
  have hset : ∀ m', (s.maps.set n m')[n]? = some m' := fun m' => List.getElem?_set_self hlt
  refine ⟨{ s with
    buffer := (s.buffer.finish_map (.ok bytes)).1
    maps := (s.maps.set n ⟨.filled bytes, unmapped, cancelled⟩).set n
      ⟨.succeeded bytes, unmapped, cancelled⟩
    filled_by := some n }, ?_, rfl, ?_⟩
  · simp only [Transition.run_cons, Transition.run_nil, step, hm, hset, Option.bind_some]
  · exact List.getElem?_set_self (by rw [List.length_set]; exact hlt)

/-! ## What unmap should do -/

/-- **Unmap cancels a map**: the slot holds the bytes of the latest map, if it
is completed and was not unmapped, or none. The callback of a map that was
cancelled does not report success. -/
structure Coherent (s : Maps) : Prop where
  slot : ∀ bytes, s.buffer.mapped = some (.Read bytes) → ∃ n m,
    s.filled_by = some n ∧ n + 1 = s.maps.length ∧ s.maps[n]? = some m ∧
      m.unmapped = false ∧ m.readback.bytes = some bytes
  callback : ∀ m ∈ s.maps, m.cancelled = true → ∀ bytes, m.readback ≠ .succeeded bytes

/-- No readback ends well, and no callback is called with `Ok`, after the map
was unmapped. -/
def InTime (s : Maps) : Label → Prop
  | .fill n _ | .report n => ∀ m, s.maps[n]? = some m → m.unmapped = false
  | .map_async | .fail _ _ | .unmap => True

/-! ## The invariant -/

structure Inv (s : Maps) : Prop where
  coherent : Coherent s
  ordered : Ordered s.maps s.active

theorem inv_new (client : Mux) (facade : Handle .Buffer) (staging : Option Bytes) :
    (new client facade staging).Inv := by
  refine ⟨⟨fun bytes h => ?_, fun m hm => absurd hm (by simp [new])⟩,
    ⟨fun n m hm => absurd hm (by simp [new]), fun n m hm => absurd hm (by simp [new])⟩⟩
  rcases staging with _ | staging
  · exact absurd h (by simp [new])
  · exact absurd h (by simp [new])

/-- **All that a step can do.** -/
inductive Moves (s : Maps) : Label → Maps → Prop where
  | map_async (ha : s.active = false) :
      Moves s .map_async { s with maps := s.maps ++ [Map.new], active := true }
  | fill {n : ℕ} {m : Map} (bytes : Bytes) (hm : s.maps[n]? = some m)
      (hr : m.readback = .reading) :
      Moves s (.fill n bytes) { s with
        buffer := ⟨s.buffer.facade, some (.Read bytes)⟩
        maps := s.maps.set n { m with readback := .filled bytes }
        filled_by := some n }
  | report {n : ℕ} {m : Map} {bytes : Bytes} (hm : s.maps[n]? = some m)
      (hr : m.readback = .filled bytes) :
      Moves s (.report n) { s with maps := s.maps.set n { m with readback := .succeeded bytes } }
  | fail {n : ℕ} {m : Map} (e : ReadError) (hm : s.maps[n]? = some m)
      (hr : m.readback = .reading) :
      Moves s (.fail n e) { s with maps := s.maps.set n { m with readback := .failed } }
  | unmap (client : Mux) :
      Moves s .unmap ⟨client, ⟨s.buffer.facade, none⟩, s.maps.map Map.unmap, false, none⟩

/-- The steps of the model are moves, and no more. -/
theorem moves_of_step {s s' : Maps} {l : Label} (h : s.step l = some s') : Moves s l s' := by
  cases l with
  | map_async =>
      simp only [step] at h
      by_cases ha : s.active = true
      · rw [if_pos ha] at h
        exact absurd h (by simp)
      · rw [if_neg ha] at h
        rw [← Option.some.inj h]
        exact .map_async (by simpa using ha)
  | fill n bytes =>
      simp only [step] at h
      split at h
      · rename_i unmapped cancelled hm
        rw [← Option.some.inj h]
        exact .fill bytes hm rfl
      · exact absurd h (by simp)
  | report n =>
      simp only [step] at h
      split at h
      · rename_i bytes unmapped cancelled hm
        rw [← Option.some.inj h]
        exact .report hm rfl
      · exact absurd h (by simp)
  | fail n e =>
      simp only [step] at h
      split at h
      · rename_i unmapped cancelled hm
        rw [← Option.some.inj h]
        exact .fail e hm rfl
      · exact absurd h (by simp)
  | unmap =>
      -- whatever the slot holds, it is empty afterwards
      have hslot : (s.buffer.unmap s.client).1 = ⟨s.buffer.facade, none⟩ := by
        unfold DropinBuffer.unmap
        rcases s.buffer.mapped with _ | _ | _
        · rfl
        · rfl
        · rfl
      rw [← Option.some.inj h]
      show Moves s .unmap ⟨_, (s.buffer.unmap s.client).1, _, _, _⟩
      rw [hslot]
      exact .unmap _

/-- The bytes in the slot stay those of the latest map when a task goes on that
has the same bytes as before, or is another one. -/
theorem Coherent.slot_set {s : Maps} (h : Coherent s) {n : ℕ} {m : Map} (hm : s.maps[n]? = some m)
    {readback : Readback} (hbytes : ∀ bytes, m.readback.bytes = some bytes → readback.bytes = some bytes)
    (bytes : Bytes) (hslot : s.buffer.mapped = some (.Read bytes)) :
    ∃ k mk, s.filled_by = some k ∧ k + 1 = (s.maps.set n { m with readback }).length ∧
      (s.maps.set n { m with readback })[k]? = some mk ∧
      mk.unmapped = false ∧ mk.readback.bytes = some bytes := by
  obtain ⟨k, mk, hby, hlen, hk, hu, hmk⟩ := h.slot bytes hslot
  rw [List.length_set]
  by_cases hkn : k = n
  · rw [hkn, hm] at hk
    obtain rfl := Option.some.inj hk
    have hlt := (List.getElem?_eq_some_iff.mp hm).1
    exact ⟨k, { m with readback }, hby, hlen, by rw [hkn]; exact List.getElem?_set_self hlt, hu,
      hbytes bytes hmk⟩
  · exact ⟨k, mk, hby, hlen, by rw [List.getElem?_set_ne (Ne.symm hkn)]; exact hk, hu, hmk⟩

/-- No cancelled map reports success after a task has gone on, if that one does
not. -/
theorem Coherent.callback_set {s : Maps} (h : Coherent s) {n : ℕ} {m : Map}
    (hnot : m.cancelled = true → ∀ bytes, m.readback ≠ .succeeded bytes) :
    ∀ mk ∈ s.maps.set n m, mk.cancelled = true → ∀ bytes, mk.readback ≠ .succeeded bytes := by
  intro mk hmk
  rcases List.mem_or_eq_of_mem_set hmk with hmk | rfl
  · exact h.callback mk hmk
  · exact hnot

/-- A step in time keeps the invariant. -/
theorem Inv.step {s s' : Maps} {l : Label} (h : s.Inv) (hstep : s.step l = some s')
    (hintime : s.InTime l) : s'.Inv := by
  rcases moves_of_step hstep with ha | ⟨bytes, hm, hr⟩ | ⟨hm, hr⟩ | ⟨e, hm, hr⟩ | client
  case map_async =>
    have hordered := h.ordered
    rw [ha] at hordered
    refine ⟨⟨fun bytes hslot => ?_, fun m hm hc => ?_⟩, hordered.push⟩
    · -- nothing is in place, so the slot holds no bytes
      obtain ⟨n, m, -, -, hm, hunmapped, -⟩ := h.coherent.slot bytes hslot
      exact absurd (hordered.latest n m hm hunmapped).1 (by simp)
    · rcases List.mem_append.mp hm with hm | hm
      · exact h.coherent.callback m hm hc
      · rw [List.mem_singleton.mp hm] at hc
        exact absurd hc (by simp [Map.new])
  case fill n m =>
    have hunmapped : m.unmapped = false := hintime m hm
    obtain ⟨-, hlast⟩ := h.ordered.latest n m hm hunmapped
    have hlt := (List.getElem?_eq_some_iff.mp hm).1
    refine ⟨⟨fun bytes' hslot => ?_, h.coherent.callback_set fun _ _ => by simp⟩,
      h.ordered.set hm (by rw [hr]; rfl) _⟩
    -- it is the latest map, and its bytes are in the slot
    rw [← MapState.Read.inj (Option.some.inj hslot)]
    refine ⟨n, { m with readback := .filled bytes }, rfl, ?_, ?_, hunmapped, rfl⟩
    · rw [List.length_set]
      exact hlast
    · exact List.getElem?_set_self hlt
  case report n m bytes =>
    -- a map that is not unmapped is not cancelled
    have hnot : m.cancelled = false := by
      rw [h.ordered.cancelled n m hm (by rw [hr]; rfl)]
      exact hintime m hm
    refine ⟨⟨h.coherent.slot_set hm fun bytes' hbytes => ?_, h.coherent.callback_set fun hc => ?_⟩,
      h.ordered.set hm (by rw [hr]; rfl) _⟩
    · rw [hr] at hbytes
      exact hbytes
    · rw [hnot] at hc
      exact absurd hc (by simp)
  case fail n m =>
    refine ⟨⟨h.coherent.slot_set hm fun bytes' hbytes => ?_,
      h.coherent.callback_set fun _ _ => by simp⟩, h.ordered.set hm (by rw [hr]; rfl) _⟩
    rw [hr] at hbytes
    exact absurd hbytes (by simp [Readback.bytes])
  case unmap =>
    refine ⟨⟨fun bytes hslot => absurd hslot (by simp), fun mk hmk hc bytes hsucceeded => ?_⟩,
      Ordered.unmap⟩
    obtain ⟨m, hm, rfl⟩ := List.mem_map.mp hmk
    -- its callback was called already, so it was cancelled before
    have hold : m.cancelled = true := by
      change m.readback = .succeeded bytes at hsucceeded
      simpa [Map.unmap, hsucceeded, Readback.ended] using hc
    exact h.coherent.callback m hm hold bytes hsucceeded

/-- A step that comes too late breaks the property at once. -/
theorem Inv.late {s s' : Maps} {l : Label} (h : s.Inv) (hstep : s.step l = some s')
    (hlate : ¬ s.InTime l) : ¬ Coherent s' := by
  intro hs'
  rcases moves_of_step hstep with ha | ⟨bytes, hm, hr⟩ | ⟨hm, hr⟩ | ⟨e, hm, hr⟩ | client
  case map_async => exact hlate trivial
  case fill n m =>
    -- the slot now holds the bytes of a map that was unmapped
    obtain ⟨k, mk, hby, -, hk, hunmapped, -⟩ := hs'.slot bytes rfl
    obtain rfl := Option.some.inj hby
    refine hlate fun m' hm' => ?_
    rw [hm] at hm'
    rcases get_set hk with ⟨-, rfl⟩ | ⟨hne, -⟩
    · rw [← Option.some.inj hm']
      exact hunmapped
    · exact absurd rfl hne
  case report n m bytes =>
    -- the callback of a cancelled map now reports success
    refine hlate fun m' hm' => ?_
    rw [hm] at hm'
    rw [← Option.some.inj hm', ← h.ordered.cancelled n m hm (by rw [hr]; rfl)]
    by_contra hc
    have hlt := (List.getElem?_eq_some_iff.mp hm).1
    have hmem := List.mem_set hlt { m with readback := .succeeded bytes }
    exact hs'.callback _ hmem (by simpa using hc) bytes rfl
  case fail n m => exact hlate trivial
  case unmap => exact hlate trivial

/-- **Unmap cancels a map exactly if no readback ends well after it**: the
property holds all along a run if and only if every readback that succeeds does
so before its map is unmapped. -/
theorem coherent_iff_in_time (client : Mux) (facade : Handle .Buffer) (staging : Option Bytes)
    (labels : List Label) :
    Always step Coherent (new client facade staging) labels ↔
      Guarded step InTime (new client facade staging) labels :=
  always_iff_guarded step (fun _ h => h.coherent)
    (fun _ _ _ h hstep hok => h.step hstep hok)
    (fun _ _ _ h hstep hlate => h.late hstep hlate) labels (inv_new client facade staging)

end Maps

end Remap

/-! ## A map that comes back from the dead -/

section Runs

attribute [local instance] WgpuTypes.numeric

/-- A map, and an unmap before the readback is done; then a second map, whose
bytes have come when the first readback ends. -/
def late_readback : List Maps.Label :=
  [.map_async, .unmap, .map_async, .fill 1 [2], .report 1, .fill 0 [1], .report 0]

/-- The late readback overwrites the newer map's bytes. -/
theorem late_readback_resurrects :
    ¬ Always Maps.step Maps.Coherent (Maps.new (Mux.new 1) ⟨⟨1⟩, 1⟩ none) late_readback := by
  intro h
  have hrun : ∃ s, Transition.run Maps.step (Maps.new (Mux.new 1) ⟨⟨1⟩, 1⟩ none) late_readback =
      some s ∧ s.buffer.mapped = some (.Read [1]) ∧ s.filled_by = some 0 ∧ s.maps.length = 2 :=
    ⟨_, rfl, rfl, rfl, rfl⟩
  obtain ⟨s, hs, hmapped, hby, hlen⟩ := hrun
  obtain ⟨n, m, hn, hlatest, -⟩ := (Transition.Always.last Maps.step h hs).slot [1] hmapped
  rw [hby] at hn
  rw [← Option.some.inj hn, hlen] at hlatest
  omega

end Runs

end WgpuRemote.Client
