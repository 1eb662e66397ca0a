/-
`mapped_at_creation` of the drop-in.

The server knows no buffers that are mapped at creation. The drop-in creates a
plain one, keeps a zeroed staging of its size, hands out copies of parts of it,
folds each copy back when its range is dropped, and ships the staging with the
first `unmap`. Ranges are numbered in the order of their calls; `writes` is the
history of what the caller wrote, at offsets of the buffer. Nothing is taken off
the client's inbox here, so the inbox is the stream so far.

While the buffer is mapped it is a `Loans`: the ranges are its loans, and the
staging is lent out and folded back the same way (`Refines.step`).
-/
import WgpuRemote.Client.Mapping
import WgpuRemote.Client.Translate
import WgpuRemote.Lib.Loans

set_option autoImplicit false

namespace WgpuRemote.Client

open Bincode
open Overlay (Write Loans view overwrite overwrite_all)
open Transition (Always)

/-! ## Ranges as windows -/

def BufferMappedRange.offset : BufferMappedRange → ℕ
  | .Write _ offset => offset
  | .Read _ => 0

/-- The bytes of a range, and where they are in the buffer. -/
def BufferMappedRange.window (r : BufferMappedRange) : Overlay.Write UInt8 := ⟨r.offset, r.slice⟩

/-- The write range over a window. -/
def mapped_range (w : Write UInt8) : BufferMappedRange := .Write w.data w.offset

section Staging

variable [WgpuTypes]

/-! ## The emulation -/

/-- The drop-in's `Device::create_buffer`, where the facade mints `id`. -/
def create_buffer (client : Mux) (id : BufferId) (desc : BufferDescriptor) : DropinBuffer × Mux :=
  let client := client.send_action (.CreateBuffer id (shipped_buffer_descriptor desc))
  if desc.mapped_at_creation then (.new_mapped_at_creation ⟨id, desc.size⟩ desc.size, client)
  else (.new ⟨id, desc.size⟩, client)

structure Staging where
  client : Mux
  buffer : DropinBuffer
  /-- The ranges handed out, `none` once dropped. -/
  ranges : List (Option BufferMappedRange)
  /-- What was written, oldest first, each with the number of its range. -/
  writes : List (ℕ × Write UInt8)

namespace Staging

def new (client : Mux) (id : BufferId) (desc : BufferDescriptor) : Staging :=
  let (buffer, client) := create_buffer client id desc
  { client, buffer, ranges := [], writes := [] }

inductive Label where
  | get_mapped_range (sub_range : AddressRange)
  /-- `data` is written through range `k`, from `pos` on. -/
  | write (k pos : ℕ) (data : Bytes)
  | drop (k : ℕ)
  /-- Something else is sent on the same client. -/
  | send (action : Action)
  | unmap

/-- A step that panics is none. -/
def step (s : Staging) : Label → Option Staging
  | .get_mapped_range sub_range =>
      match s.buffer.get_mapped_range sub_range with
      | some r => some { s with ranges := s.ranges ++ [some r] }
      | none => none
  | .write k pos data =>
      match s.ranges[k]? with
      | some (some r) =>
          match r.write pos data with
          | some r' =>
              some { s with
                ranges := s.ranges.set k (some r')
                writes := s.writes ++ [(k, ⟨r.offset + pos, data⟩)] }
          | none => none
      | _ => none
  | .drop k =>
      match s.ranges[k]? with
      | some (some r) =>
          some { s with buffer := s.buffer.drop_range r, ranges := s.ranges.set k none }
      | _ => none
  | .send action => some { s with client := s.client.send_action action }
  | .unmap =>
      let (buffer, client) := s.buffer.unmap s.client
      some { s with buffer, client }

/-- **All that one step can do.** -/
inductive Moves (s : Staging) : Label → Staging → Prop where
  | get_mapped_range {sub_range : AddressRange} {r : BufferMappedRange}
      (hr : s.buffer.get_mapped_range sub_range = some r) :
      Moves s (.get_mapped_range sub_range) { s with ranges := s.ranges ++ [some r] }
  | write {k pos : ℕ} {data : Bytes} {r r' : BufferMappedRange}
      (hr : s.ranges[k]? = some (some r)) (hw : r.write pos data = some r') :
      Moves s (.write k pos data) { s with
        ranges := s.ranges.set k (some r'), writes := s.writes ++ [(k, ⟨r.offset + pos, data⟩)] }
  | drop {k : ℕ} {r : BufferMappedRange} (hr : s.ranges[k]? = some (some r)) :
      Moves s (.drop k) { s with buffer := s.buffer.drop_range r, ranges := s.ranges.set k none }
  | send (action : Action) :
      Moves s (.send action) { s with client := s.client.send_action action }
  | unmap :
      Moves s .unmap { s with
        buffer := (s.buffer.unmap s.client).1, client := (s.buffer.unmap s.client).2 }

/-- The steps of the model are moves, and no more. -/
theorem moves_of_step {s s' : Staging} {label : Label} (h : s.step label = some s') :
    Moves s label s' := by
  cases label with
  | get_mapped_range sub_range =>
      simp only [step] at h
      split at h
      · rename_i r hr
        rw [← Option.some.inj h]
        exact .get_mapped_range hr
      · exact absurd h (by simp)
  | write k pos data =>
      simp only [step] at h
      split at h
      · rename_i r hr
        split at h
        · rename_i r' hw
          rw [← Option.some.inj h]
          exact .write hr hw
        · exact absurd h (by simp)
      · exact absurd h (by simp)
  | drop k =>
      simp only [step] at h
      split at h
      · rename_i r hr
        rw [← Option.some.inj h]
        exact .drop hr
      · exact absurd h (by simp)
  | send action =>
      rw [← Option.some.inj h]
      exact .send action
  | unmap =>
      rw [← Option.some.inj h]
      exact .unmap

/-! ## What the emulation should do -/

/-- Where two outstanding ranges overlap, neither was written. -/
def Exclusive (s : Staging) : Prop :=
  ∀ j k r q, j ≠ k → s.ranges[j]? = some (some r) → s.ranges[k]? = some (some q) →
    (∃ i, r.window.covers i ∧ q.window.covers i) → ¬ ∃ w ∈ s.writes, w.1 = j

/-- Zeros overwritten by the caller's writes, in write order. -/
def content (s : Staging) : Bytes :=
  overwrite_all (List.replicate s.buffer.facade.size.toNat 0) (s.writes.map Prod.snd)

/-- Zeros overwritten by the writes of the ranges that were dropped. -/
def left (s : Staging) : Bytes :=
  overwrite_all (List.replicate s.buffer.facade.size.toNat 0)
    ((s.writes.filter fun w => s.ranges[w.1]?.any Option.isNone).map Prod.snd)

/-- The bytes are one frame with this action. -/
def IsFrame (bytes : Bytes) (action : Action) : Prop :=
  ∃ rid, decode_frame Wire.frame bytes = .ok (⟨some rid, action⟩, bytes.length)

/-- From `s` to `s'` exactly one `WriteBuffer` is enqueued, of the whole content
at offset 0, after the `CreateBuffer`. -/
def Shipped (id : BufferId) (desc : BufferDescriptor) (s s' : Staging) : Prop :=
  (∃ job ∈ s.client.inbox, IsFrame job.bytes (.CreateBuffer id (shipped_buffer_descriptor desc))) ∧
    ∃ job, s'.client.inbox = s.client.inbox ++ [job] ∧
      IsFrame job.bytes (.WriteBuffer id 0 s.content)

/-- **The emulation of `mapped_at_creation`**, after a history: what a new range
starts from, what the first `unmap` does, and that a further one does nothing. -/
structure Emulates (shipped : Staging → Staging → Prop) (desc : BufferDescriptor) (s : Staging)
    (labels : List Label) : Prop where
  fresh : .unmap ∉ labels → ∀ r : AddressRange, r.start ≤ r.stop → r.stop ≤ desc.size →
    ∃ s', s.step (.get_mapped_range r) = some s' ∧ (Exclusive s' →
      s'.ranges =
        s.ranges ++ [some (.Write (view s.left r.start.toNat r.stop.toNat) r.start.toNat)])
  unmap : .unmap ∉ labels → (∀ r, some r ∉ s.ranges) →
    ∃ s', s.step .unmap = some s' ∧ shipped s s'
  again : .unmap ∈ labels → ∃ s', s.step .unmap = some s' ∧ s'.client.inbox = s.client.inbox

/-- The size of the frame: the tag of the request id, the id, the variant, the
buffer, the offset, and the data with its length. -/
def write_size (request_id : UInt64) (id : BufferId) (data : Bytes) : ℕ :=
  3 + (varint_encode request_id.toNat).length + (varint_encode id.raw.toNat).length +
    Codec.bytes_size data

/-- A `WriteBuffer` whose frame is over the cap is dropped by `send`. -/
def ShippedToCap (id : BufferId) (desc : BufferDescriptor) (s s' : Staging) : Prop :=
  (write_size s.client.next_request_id id s.content ≤ MAX_FRAME_BYTES → Shipped id desc s s') ∧
    (MAX_FRAME_BYTES < write_size s.client.next_request_id id s.content →
      s'.client.inbox = s.client.inbox)

/-! ## The staging is lent out and folded back -/

/-- While it is mapped, the buffer is a `Loans` of zeros. -/
structure Refines (b : Handle .Buffer) (s : Staging) (l : Loans UInt8) : Prop where
  facade : s.buffer.facade = b
  slot : s.buffer.mapped = some (.Write l.staging)
  ranges : s.ranges = l.loans.map (Option.map mapped_range)
  writes : s.writes = l.writes
  base : l.base = List.replicate b.size.toNat 0

variable {b : Handle .Buffer} {s s' : Staging} {l : Loans UInt8}

/-- The concrete bytes are the abstract ones. -/
theorem Refines.content (h : Refines b s l) : s.content = l.content := by
  unfold Staging.content Loans.content
  rw [h.facade, h.writes, h.base]

/-- The count of writes left is that of the abstract buffer. -/
theorem Refines.left (h : Refines b s l) : s.left = l.left := by
  have hreturned : ∀ k, s.ranges[k]?.any Option.isNone = l.returned k := by
    intro k
    rw [h.ranges, List.getElem?_map, Loans.returned]
    rcases l.loans[k]? with _ | _ | w
    · rfl
    · rfl
    · rfl
  unfold Staging.left Loans.left
  simp only [hreturned]
  rw [h.facade, h.writes, h.base]

/-- The outstanding ranges are the loans that are out. -/
theorem Refines.out (h : Refines b s l) {k : ℕ} {r : BufferMappedRange}
    (hr : s.ranges[k]? = some (some r)) : ∃ w, l.Out k w ∧ r = mapped_range w := by
  rw [h.ranges, List.getElem?_map] at hr
  obtain ⟨x, hx, hr⟩ := Option.map_eq_some_iff.mp hr
  obtain ⟨w, rfl, hw⟩ := Option.map_eq_some_iff.mp hr
  exact ⟨w, hx, hw.symm⟩

/-- A write that is out abstractly has its range outstanding. -/
theorem Refines.range (h : Refines b s l) {k : ℕ} {w : Write UInt8} (hw : l.Out k w) :
    s.ranges[k]? = some (some (mapped_range w)) := by
  rw [h.ranges, List.getElem?_map, hw]
  rfl

/-- Disjoint ranges are disjoint writes. -/
theorem Refines.exclusive (h : Refines b s l) (hex : Exclusive s) : l.Exclusive := by
  intro j k v w hjk hv hw hoverlap hwritten
  refine hex j k _ _ hjk (h.range hv) (h.range hw) hoverlap ?_
  rw [h.writes]
  exact hwritten

/-- The buffer is created mapped, and nothing is lent. -/
theorem refines_new {desc : BufferDescriptor} (hmapped : desc.mapped_at_creation = true)
    (client : Mux) (id : BufferId) :
    Refines ⟨id, desc.size⟩ (new client id desc) (.new (List.replicate desc.size.toNat 0)) := by
  unfold new create_buffer
  rw [if_pos hmapped]
  exact ⟨rfl, rfl, rfl, rfl, rfl⟩

/-- A range is lent. -/
theorem Refines.lend (h : Refines b s l) {sub_range : AddressRange} {r : BufferMappedRange}
    (hr : s.buffer.get_mapped_range sub_range = some r) :
    ∃ l', Refines b { s with ranges := s.ranges ++ [some r] } l' ∧ l.Step l' := by
  simp only [DropinBuffer.get_mapped_range, h.slot] at hr
  obtain ⟨owned, hslice, rfl⟩ := Option.map_eq_some_iff.mp hr
  obtain ⟨⟨hle, hstop⟩, rfl⟩ := slice_eq_some.mp hslice
  refine ⟨l.lend sub_range.start.toNat sub_range.stop.toNat,
    ⟨h.facade, h.slot, ?_, h.writes, h.base⟩, .lend hle hstop⟩
  show s.ranges ++ _ = (l.loans ++ _).map _
  rw [h.ranges, List.map_append]
  rfl

/-- A copy is written into. -/
theorem Refines.write (h : Refines b s l) {k pos : ℕ} {data : Bytes} {r r' : BufferMappedRange}
    (hr : s.ranges[k]? = some (some r)) (hw : r.write pos data = some r') :
    ∃ l', Refines b { s with
        ranges := s.ranges.set k (some r'), writes := s.writes ++ [(k, ⟨r.offset + pos, data⟩)] } l' ∧
      l.Step l' := by
  obtain ⟨w, hout, rfl⟩ := h.out hr
  simp only [mapped_range, BufferMappedRange.write] at hw
  by_cases hfit : pos + data.length ≤ w.data.length
  · rw [if_pos hfit] at hw
    rw [← Option.some.inj hw]
    refine ⟨l.write k w pos data, ⟨h.facade, h.slot, ?_, ?_, h.base⟩, .write hout hfit⟩
    · show s.ranges.set k _ = (l.loans.set k _).map _
      rw [h.ranges, List.map_set]
      rfl
    · show s.writes ++ _ = l.writes ++ _
      rw [h.writes]
      rfl
  · rw [if_neg hfit] at hw
    exact absurd hw (by simp)

/-- A copy is folded back; its window is within the staging. -/
theorem Refines.drop (h : Refines b s l) (hinv : l.Inv) {k : ℕ} {r : BufferMappedRange}
    (hr : s.ranges[k]? = some (some r)) :
    ∃ l', Refines b { s with buffer := s.buffer.drop_range r, ranges := s.ranges.set k none } l' ∧
      l.Step l' := by
  obtain ⟨w, hout, rfl⟩ := h.out hr
  have hfit : w.offset + w.data.length ≤ l.staging.length := by
    rw [hinv.staging_length]
    exact (hinv.lent k w hout).1
  have hfold : s.buffer.drop_range (mapped_range w) =
      ⟨s.buffer.facade, some (.Write (l.give_back k w).staging)⟩ := by
    simp only [mapped_range, DropinBuffer.drop_range, h.slot, if_pos hfit]
    rfl
  rw [hfold]
  refine ⟨l.give_back k w, ⟨h.facade, rfl, ?_, h.writes, h.base⟩, .give_back hout⟩
  show s.ranges.set k _ = (l.loans.set k _).map _
  rw [h.ranges, List.map_set]
  rfl

/-- **Every step before `unmap` is one of the loans**, or leaves them as they are. -/
theorem Refines.step (h : Refines b s l) (hinv : l.Inv) {label : Label} (hstep : s.step label = some s')
    (hlabel : label ≠ .unmap) : ∃ l', Refines b s' l' ∧ (l' = l ∨ l.Step l') := by
  rcases moves_of_step hstep
  case get_mapped_range sub_range r hr =>
    obtain ⟨l', hrefines, hl⟩ := h.lend hr
    exact ⟨l', hrefines, Or.inr hl⟩
  case write k pos data r r' hr hw =>
    obtain ⟨l', hrefines, hl⟩ := h.write hr hw
    exact ⟨l', hrefines, Or.inr hl⟩
  case drop k r hr =>
    obtain ⟨l', hrefines, hl⟩ := h.drop hinv hr
    exact ⟨l', hrefines, Or.inr hl⟩
  case send action =>
    -- the stream grows, the buffer does not change
    exact ⟨l, ⟨h.facade, h.slot, h.ranges, h.writes, h.base⟩, Or.inl rfl⟩
  case unmap => exact absurd rfl hlabel

/-- In a history without `unmap` in which overlapping ranges are not written,
the buffer is a `Loans` that keeps its invariant. -/
theorem Refines.run {labels : List Label} (h : Refines b s l) (hinv : l.Inv)
    (hno : .unmap ∉ labels) (hex : Always Staging.step Exclusive s labels)
    (hrun : Transition.run Staging.step s labels = some s') :
    ∃ l', Refines b s' l' ∧ l'.Inv := by
  induction labels generalizing s l with
  | nil =>
      rw [← Option.some.inj hrun]
      exact ⟨l, h, hinv⟩
  | cons label labels ih =>
      rw [Transition.run_cons] at hrun
      obtain ⟨s1, h1, hrest⟩ := Option.bind_eq_some_iff.mp hrun
      rw [List.mem_cons, not_or] at hno
      have hex1 := hex.2 s1 h1
      obtain ⟨l1, hrefines, hl⟩ := h.step hinv h1 (Ne.symm hno.1)
      refine ih hrefines ?_ hno.2 hex1 hrest
      rcases hl with rfl | hl
      · exact hinv
      · exact hinv.step hl (hrefines.exclusive (hex1.head Staging.step))

/-! ## The stream -/

/-- The `CreateBuffer` is enqueued, and the writer runs. -/
def Created (id : BufferId) (desc : BufferDescriptor) (s : Staging) : Prop :=
  s.client.writer = true ∧
    ∃ job ∈ s.client.inbox, IsFrame job.bytes (.CreateBuffer id (shipped_buffer_descriptor desc))

/-- Sending further actions does not undo the creation. -/
theorem Created.send {id : BufferId} {desc : BufferDescriptor} (h : Created id desc s)
    {client : Mux} (hclient : client = s.client ∨ ∃ action, client = s.client.send_action action)
    (s' : Staging) (hs' : s'.client = client) : Created id desc s' := by
  obtain ⟨hw, job, hjob, hframe⟩ := h
  unfold Created
  rw [hs']
  rcases hclient with rfl | ⟨action, rfl⟩
  · exact ⟨hw, job, hjob, hframe⟩
  · exact ⟨by rw [Mux.send_action_writer]; exact hw, job, Mux.mem_send_action hw hjob action, hframe⟩

/-- A step sends at most one action. -/
theorem client_of_step {label : Label} (h : s.step label = some s') :
    s'.client = s.client ∨ ∃ action, s'.client = s.client.send_action action := by
  rcases moves_of_step h
  case send action => exact Or.inr ⟨action, rfl⟩
  case unmap =>
    -- only an `unmap` of written staging sends
    unfold DropinBuffer.unmap
    rcases s.buffer.mapped with _ | bytes | staging
    · exact Or.inl rfl
    · exact Or.inl rfl
    · exact Or.inr ⟨_, rfl⟩
  all_goals exact Or.inl rfl

/-- The buffer stays created in every run. -/
theorem Created.run {id : BufferId} {desc : BufferDescriptor} {labels : List Label}
    (h : Created id desc s) (hrun : Transition.run step s labels = some s') : Created id desc s' :=
  Transition.run_invariant step
    (fun _ _ t' ht hstep => ht.send (client_of_step hstep) t' rfl) h hrun

/-- Once it is unmapped, the buffer stays so. -/
theorem unmapped_of_step {label : Label} (h : s.buffer.mapped = none) (hstep : s.step label = some s') :
    s'.buffer.mapped = none := by
  rcases moves_of_step hstep
  case drop k r hr =>
    -- a range that outlives the mapping is folded into nothing
    show (s.buffer.drop_range r).mapped = none
    unfold DropinBuffer.drop_range
    rw [h]
    rcases r with bytes | ⟨owned, offset⟩
    · exact h
    · exact h
  case unmap =>
    show (s.buffer.unmap s.client).1.mapped = none
    unfold DropinBuffer.unmap
    rw [h]
  all_goals exact h

/-- After a history with an `unmap` in it, the buffer is unmapped. -/
theorem unmapped_of_run {labels : List Label} (hmem : .unmap ∈ labels)
    (hrun : Transition.run step s labels = some s') : s'.buffer.mapped = none := by
  obtain ⟨before, after, rfl⟩ := List.append_of_mem hmem
  rw [Transition.run_append] at hrun
  obtain ⟨s1, -, hrun⟩ := Option.bind_eq_some_iff.mp hrun
  rw [Transition.run_cons] at hrun
  obtain ⟨s2, h2, hrun⟩ := Option.bind_eq_some_iff.mp hrun
  refine Transition.run_invariant step (fun _ _ _ => unmapped_of_step) ?_ hrun
  rw [← Option.some.inj h2]
  show (s1.buffer.unmap s1.client).1.mapped = none
  unfold DropinBuffer.unmap
  rcases s1.buffer.mapped with _ | bytes | staging
  · rfl
  · rfl
  · rfl

/-- A `WriteBuffer` at offset 0: the variant, the buffer, the offset, the data. -/
theorem write_encode_ok {id : BufferId} {data body : Bytes} :
    Wire.action.encode (.WriteBuffer id 0 data) = .ok body ↔ ∃ x, Codec.bytes.encode data = .ok x ∧
      body = varint_encode 15 ++ (varint_encode id.raw.toNat ++ (varint_encode 0 ++ x)) := by
  have hencode : Wire.action.encode (.WriteBuffer id 0 data) =
      (((Wire.id .Buffer).seq (Codec.u64.seq Codec.bytes)).encode (id, 0, data) >>=
        fun x => .ok (varint_encode 15 ++ x)) := rfl
  rw [hencode, bind_eq_ok]
  constructor
  · rintro ⟨fields, hfields, hbody⟩
    obtain ⟨raw, rest, hraw, hrest, rfl⟩ := Codec.seq_encode_ok.mp hfields
    obtain ⟨offset, x, hoffset, hx, rfl⟩ := Codec.seq_encode_ok.mp hrest
    refine ⟨x, hx, ?_⟩
    rw [← Except.ok.inj hbody, ← Except.ok.inj hraw, ← Except.ok.inj hoffset]
    rfl
  · rintro ⟨x, hx, rfl⟩
    have hrest : (Codec.u64.seq Codec.bytes).encode (0, data) = .ok (varint_encode 0 ++ x) :=
      Codec.seq_encode_ok.mpr ⟨_, x, rfl, hx, rfl⟩
    exact ⟨_, Codec.seq_encode_ok.mpr ⟨varint_encode id.raw.toNat, _, rfl, hrest, rfl⟩, rfl⟩

/-- The frame encodes exactly if its size is within the cap. -/
theorem write_encodes_iff (request_id : UInt64) (id : BufferId) (data : Bytes) :
    (∃ bytes, encode_frame Wire.frame ⟨some ⟨request_id⟩, .WriteBuffer id 0 data⟩ = .ok bytes) ↔
      write_size request_id id data ≤ MAX_FRAME_BYTES := by
  -- the body is the variant, the id, the offset 0 and the bytes
  have hsize : ∀ body, Wire.action.encode (.WriteBuffer id 0 data) = .ok body →
      body.length = 2 + (varint_encode id.raw.toNat).length + Codec.bytes_size data := by
    intro body hbody
    obtain ⟨x, hx, rfl⟩ := write_encode_ok.mp hbody
    obtain ⟨-, rfl⟩ := Codec.bytes_encode_ok.mp hx
    have hvariant : (varint_encode 15).length = 1 := rfl
    have hoffset : (varint_encode 0).length = 1 := rfl
    simp only [List.length_append, hvariant, hoffset, Codec.bytes_size]
    omega
  have hencodes : 2 + (varint_encode id.raw.toNat).length + Codec.bytes_size data ≤
      MAX_FRAME_BYTES → ∃ body, Wire.action.encode (.WriteBuffer id 0 data) = .ok body := by
    intro h
    have hcap : MAX_FRAME_BYTES < 256 ^ 8 := by decide
    have hlen : data.length < 256 ^ 8 := by
      unfold Codec.bytes_size at h
      omega
    exact ⟨_, write_encode_ok.mpr ⟨_, Codec.bytes_encode_ok.mpr ⟨hlen, rfl⟩, rfl⟩⟩
  rw [frame_encodes_iff hsize hencodes, write_size]
  omega

/-! ## The first unmap and the others -/

/-- `send` enqueues an action whose frame encodes, as one job. -/
theorem sends_frame {client : Mux} (hw : client.writer = true) {action : Action} {bytes : Bytes}
    (h : encode_frame Wire.frame ⟨some ⟨client.next_request_id⟩, action⟩ = .ok bytes) :
    ∃ job, (client.send_action action).inbox = client.inbox ++ [job] ∧ IsFrame job.bytes action := by
  rw [Mux.send_action_inbox hw, h]
  exact ⟨⟨_, bytes⟩, rfl, _, decode_frame_encode_frame _ h⟩

/-- One that is over the cap is dropped. -/
theorem drops_frame {client : Mux} (hw : client.writer = true) {id : BufferId} {data : Bytes}
    (h : MAX_FRAME_BYTES < write_size client.next_request_id id data) :
    (client.send_action (.WriteBuffer id 0 data)).inbox = client.inbox := by
  rw [Mux.send_action_inbox hw]
  split
  · rfl
  · rename_i bytes hbytes
    have hfits := (write_encodes_iff client.next_request_id id data).mp ⟨bytes, hbytes⟩
    omega

/-- A buffer created on a client whose writer runs has its `CreateBuffer` enqueued, if that
frame encodes. -/
theorem created_new {client : Mux} (hw : client.writer = true) {id : BufferId}
    {desc : BufferDescriptor}
    (hcreate : ∃ bytes, encode_frame Wire.frame
      ⟨some ⟨client.next_request_id⟩, .CreateBuffer id (shipped_buffer_descriptor desc)⟩ =
        .ok bytes) : Created id desc (new client id desc) := by
  obtain ⟨bytes, hbytes⟩ := hcreate
  have hclient : (new client id desc).client =
      client.send_action (.CreateBuffer id (shipped_buffer_descriptor desc)) := by
    unfold new create_buffer
    split_ifs
    · rfl
    · rfl
  obtain ⟨job, hjob, hframe⟩ := sends_frame hw hbytes
  unfold Created
  rw [hclient, Mux.send_action_writer, hjob]
  exact ⟨hw, job, List.mem_append_right _ (List.mem_singleton.mpr rfl), hframe⟩

/-- When every range is dropped, `unmap` sends the content. -/
theorem Refines.unmap (h : Refines b s l) (hinv : l.Inv) (hdropped : ∀ r, some r ∉ s.ranges) :
    ∃ s', s.step .unmap = some s' ∧
      s'.client = s.client.send_action (.WriteBuffer b.id 0 s.content) := by
  have hback : ∀ k w, ¬ l.Out k w := fun k w hw =>
    hdropped (mapped_range w) (List.mem_of_getElem? (h.range hw))
  refine ⟨_, rfl, ?_⟩
  show (s.buffer.unmap s.client).2 = _
  unfold DropinBuffer.unmap
  rw [h.slot, h.content, ← hinv.all_back hback, h.facade]
  rfl

/-- A new range starts from what the dropped ranges have left. -/
theorem Refines.fresh (h : Refines b s l) (hinv : l.Inv) {r : AddressRange}
    (hle : r.start ≤ r.stop) (hstop : r.stop ≤ b.size) :
    ∃ s', s.step (.get_mapped_range r) = some s' ∧ (Exclusive s' → s'.ranges =
      s.ranges ++ [some (.Write (view s.left r.start.toNat r.stop.toNat) r.start.toNat)]) := by
  -- the abstract buffer has the size of the descriptor
  have hlen : l.staging.length = b.size.toNat := by
    rw [hinv.staging_length, h.base, List.length_replicate]
  have hbound : r.start.toNat ≤ r.stop.toNat ∧ r.stop.toNat ≤ l.staging.length := by
    rw [hlen]
    exact ⟨hle, hstop⟩
  have hslice := slice_eq_some.mpr ⟨hbound, rfl⟩
  have hget : s.buffer.get_mapped_range r =
      some (.Write (view l.staging r.start.toNat r.stop.toNat) r.start.toNat) := by
    simp only [DropinBuffer.get_mapped_range, h.slot, hslice]
    rfl
  have hstep : s.step (.get_mapped_range r) = some { s with
      ranges := s.ranges ++
        [some (.Write (view l.staging r.start.toNat r.stop.toNat) r.start.toNat)] } := by
    simp only [Staging.step, hget]
  -- the range that is lent shows what was left there, whatever else is out
  refine ⟨_, hstep, fun hex => ?_⟩
  have hrefines : Refines b { s with
      ranges := s.ranges ++
        [some (.Write (view l.staging r.start.toNat r.stop.toNat) r.start.toNat)] }
      (l.lend r.start.toNat r.stop.toNat) := by
    refine ⟨h.facade, h.slot, ?_, h.writes, h.base⟩
    show s.ranges ++ _ = (l.loans ++ _).map _
    rw [h.ranges, List.map_append]
    rfl
  rw [h.left, ← hinv.lent_left hbound.2 (hrefines.exclusive hex)]

/-- **The emulation ships exactly what was written**, as far as `send` enqueues
what it is given: a frame over the cap is dropped. -/
theorem emulates_to_cap (client : Mux) (hw : client.writer = true) (id : BufferId)
    (desc : BufferDescriptor) (hmapped : desc.mapped_at_creation = true)
    (hcreate : ∃ bytes, encode_frame Wire.frame
      ⟨some ⟨client.next_request_id⟩, .CreateBuffer id (shipped_buffer_descriptor desc)⟩ = .ok bytes)
    (labels : List Label) (s : Staging)
    (hrun : Transition.run step (new client id desc) labels = some s)
    (hexclusive : Always step Exclusive (new client id desc) labels) :
    Emulates (ShippedToCap id desc) desc s labels := by
  have hnew := refines_new hmapped client id
  have hcreated := (created_new hw hcreate).run hrun
  refine ⟨fun hno r hle hstop => ?_, fun hno hdropped => ?_, fun hmem => ?_⟩
  · obtain ⟨l, hrefines, hinv⟩ := hnew.run (Loans.inv_new _) hno hexclusive hrun
    exact hrefines.fresh hinv hle hstop
  · obtain ⟨l, hrefines, hinv⟩ := hnew.run (Loans.inv_new _) hno hexclusive hrun
    obtain ⟨s', hstep, hclient⟩ := hrefines.unmap hinv hdropped
    refine ⟨s', hstep, fun hfits => ?_, fun hlong => ?_⟩
    -- an update that fits is a frame on the stream; a longer one is dropped by `send`
    · obtain ⟨bytes, hbytes⟩ := (write_encodes_iff s.client.next_request_id id s.content).mpr hfits
      rw [Shipped, hclient]
      exact ⟨hcreated.2, sends_frame hcreated.1 hbytes⟩
    · rw [hclient]
      exact drops_frame hcreated.1 hlong
  · -- the slot is empty, and stays so
    refine ⟨_, rfl, ?_⟩
    show (s.buffer.unmap s.client).2.inbox = _
    unfold DropinBuffer.unmap
    rw [unmapped_of_run hmem hrun]

end Staging

end Staging

/-! ## A staging as long as a frame -/

section Runs

attribute [local instance] WgpuTypes.numeric

/-- A buffer of `size` bytes, mapped at creation. -/
def mapped_buffer (size : UInt64) : BufferDescriptor := ⟨none, size, (4 : UInt32), true⟩

/-- One range ends before the other one starts, unless one of them was dropped. -/
def apart : Option BufferMappedRange → Option BufferMappedRange → Bool
  | some r, some q => r.offset + r.slice.length ≤ q.offset || q.offset + q.slice.length ≤ r.offset
  | _, _ => true

/-- Ranges that `apart` accepts cover no byte in common. -/
theorem not_both_of_apart {r q : BufferMappedRange} (h : apart (some r) (some q) = true) :
    ¬ ∃ i, r.window.covers i ∧ q.window.covers i := by
  rintro ⟨i, ⟨hr1, hr2⟩, ⟨hq1, hq2⟩⟩
  simp only [apart, Bool.or_eq_true, decide_eq_true_eq] at h
  simp only [BufferMappedRange.window, Write.stop] at hr1 hr2 hq1 hq2
  omega

/-- Histories whose ranges are apart are exclusive. -/
theorem exclusive_of_apart {s : Staging}
    (h : s.ranges.Pairwise fun a b => apart a b = true) : s.Exclusive := by
  rintro j k r q hjk hj hk ⟨i, hr, hq⟩
  obtain ⟨hj', hj⟩ := List.getElem?_eq_some_iff.mp hj
  obtain ⟨hk', hk⟩ := List.getElem?_eq_some_iff.mp hk
  have hall := List.pairwise_iff_getElem.mp h
  rcases Nat.lt_or_gt_of_ne hjk with hlt | hlt
  · have hapart := hall j k hj' hk' hlt
    rw [hj, hk] at hapart
    exact absurd ⟨i, hr, hq⟩ (not_both_of_apart hapart)
  · have hapart := hall k j hk' hj' hlt
    rw [hj, hk] at hapart
    exact absurd ⟨i, hq, hr⟩ (not_both_of_apart hapart)

/-- Two halves of a buffer are written at a time, one is obtained again and
written on, and what is shipped is all of it. -/
theorem two_halves_shipped :
    let start := Staging.new (Mux.new 1) ⟨1⟩ (mapped_buffer 4)
    let labels : List Staging.Label :=
      [.get_mapped_range ⟨0, 2⟩, .get_mapped_range ⟨2, 4⟩, .write 0 1 [7], .write 1 0 [8], .drop 1,
        .get_mapped_range ⟨2, 4⟩, .write 2 1 [9], .drop 2, .drop 0]
    ∃ s, Transition.run Staging.step start labels = some s ∧ s.content = [0, 7, 8, 9] ∧
      Staging.Emulates (Staging.ShippedToCap ⟨1⟩ (mapped_buffer 4)) (mapped_buffer 4) s labels := by
  intro start labels
  have hexclusive : Always Staging.step Staging.Exclusive start labels := by
    -- nine steps, with the ranges apart before each and at the end
    refine Always.cons _ (exclusive_of_apart (by decide)) rfl <|
      Always.cons _ (exclusive_of_apart (by decide)) rfl <|
      Always.cons _ (exclusive_of_apart (by decide)) rfl <|
      Always.cons _ (exclusive_of_apart (by decide)) rfl <|
      Always.cons _ (exclusive_of_apart (by decide)) rfl <|
      Always.cons _ (exclusive_of_apart (by decide)) rfl <|
      Always.cons _ (exclusive_of_apart (by decide)) rfl <|
      Always.cons _ (exclusive_of_apart (by decide)) rfl <|
      Always.cons _ (exclusive_of_apart (by decide)) rfl ?_
    exact exclusive_of_apart (by decide)
  exact ⟨_, rfl, rfl, Staging.emulates_to_cap (Mux.new 1) rfl ⟨1⟩ (mapped_buffer 4) rfl ⟨_, rfl⟩
    labels _ rfl hexclusive⟩

/-- **A staging of 64 MiB is lost**: its frame is a few bytes over the cap. -/
theorem long_staging_lost :
    let start := Staging.new (Mux.new 1) ⟨1⟩ (mapped_buffer 67108864)
    Always Staging.step Staging.Exclusive start [] ∧
      ¬ Staging.Emulates (Staging.Shipped ⟨1⟩ (mapped_buffer 67108864)) (mapped_buffer 67108864)
        start [] := by
  intro start
  refine ⟨exclusive_of_apart List.Pairwise.nil, fun h => ?_⟩
  have hdropped : ∀ r, some r ∉ start.ranges := fun r hr => absurd hr (by simp [start, Staging.new])
  have hmapped : (mapped_buffer 67108864).mapped_at_creation = true := rfl
  have hrefines := Staging.refines_new hmapped (Mux.new 1) ⟨1⟩
  obtain ⟨s1, hs1, hclient⟩ := hrefines.unmap (Loans.inv_new _) hdropped
  obtain ⟨s', hs', -, job, hjob, -⟩ := h.unmap (by simp) hdropped
  obtain rfl := Option.some.inj (hs1.symm.trans hs')
  have hsize : start.content.length = 67108864 := List.length_replicate
  -- the data alone is as long as a frame may be
  have hlong : MAX_FRAME_BYTES <
      Staging.write_size start.client.next_request_id ⟨1⟩ start.content := by
    unfold Staging.write_size Codec.bytes_size MAX_FRAME_BYTES
    rw [hsize]
    omega
  rw [hclient, Staging.drops_frame rfl hlong] at hjob
  exact absurd (congrArg List.length hjob) (by simp)

end Runs

end WgpuRemote.Client
