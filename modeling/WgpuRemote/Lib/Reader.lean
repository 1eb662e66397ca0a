/-
Readers that use an initial part of their input, and only that.

A reader takes a value from the head of a buffer and hands back the rest. The
round-trip law of a `Codec` says what its reader does in front of what the
writer wrote, and nothing about any other input. `Local` is the law for all
inputs: what a reader hands back is its input without the bytes it used, and
behind the same bytes it reads the same value whatever follows. Every reader of
`Bincode` is local if the ones it is assembled from are, so `Codec.Streams` is a
class, and a codec assembled from the combinators is in it by instance search.
-/
import WgpuRemote.Lib.Bincode

set_option autoImplicit false

namespace Bincode

/-- A value from the head of a buffer, and the rest. -/
abbrev Reader (α : Type) := Bytes → Except DecodeError (α × Bytes)

namespace Reader

variable {α β : Type}

/-- The reader uses an initial part of its input, and does not look behind it. -/
def Local (read : Reader α) : Prop :=
  ∀ bs a rest, read bs = .ok (a, rest) →
    ∃ used, bs = used ++ rest ∧ ∀ after, read (used ++ after) = .ok (a, after)

/-! ## The rules -/

theorem local_pure (a : α) : Local fun bs => .ok (a, bs) := by
  intro bs a' rest h
  obtain ⟨rfl, rfl⟩ := Prod.mk.inj (Except.ok.inj h)
  exact ⟨[], rfl, fun after => rfl⟩

theorem local_error (e : DecodeError) : Local fun _ => (.error e : Except DecodeError (α × Bytes)) := by
  intro bs a rest h
  exact absurd h (by simp)

/-- One reader after another: the bytes used are those of both. -/
theorem Local.bind {read : Reader α} {next : α → Reader β} (hread : Local read)
    (hnext : ∀ a, Local (next a)) : Local fun bs => read bs >>= fun p => next p.1 p.2 := by
  intro bs b rest h
  obtain ⟨⟨a, mid⟩, ha, hb⟩ := bind_eq_ok.mp h
  obtain ⟨used, rfl, hused⟩ := hread bs a mid ha
  obtain ⟨used', rfl, hused'⟩ := hnext a mid b rest hb
  refine ⟨used ++ used', by rw [List.append_assoc], ?_⟩
  intro after
  rw [List.append_assoc]
  exact bind_eq_ok.mpr ⟨(a, used' ++ after), hused _, hused' after⟩

/-- A check on what was read uses nothing. -/
theorem local_check (x : Except DecodeError α) : Local fun bs => x >>= fun a => .ok (a, bs) := by
  cases x with
  | error e => exact local_error e
  | ok a => exact local_pure a

/-- One byte, and what it says to read. -/
theorem local_byte {read : Reader α} {e : DecodeError} {next : UInt8 → Reader α}
    (hnil : read [] = .error e) (hcons : ∀ b bs, read (b :: bs) = next b bs)
    (hnext : ∀ b, Local (next b)) : Local read := by
  intro bs a rest h
  rcases bs with _ | ⟨b, bs⟩
  · rw [hnil] at h
    exact absurd h (by simp)
  · rw [hcons] at h
    obtain ⟨used, rfl, hused⟩ := hnext b bs a rest h
    refine ⟨b :: used, rfl, ?_⟩
    intro after
    rw [List.cons_append, hcons]
    exact hused after

theorem local_ite {p : Prop} [Decidable p] {read read' : Reader α} (hread : Local read)
    (hread' : Local read') : Local fun bs => if p then read bs else read' bs := by
  by_cases h : p
  · simp only [if_pos h]
    exact hread
  · simp only [if_neg h]
    exact hread'

theorem local_dite {p : Prop} [Decidable p] {read : p → Reader α} {read' : ¬ p → Reader α}
    (hread : ∀ h, Local (read h)) (hread' : ∀ h, Local (read' h)) :
    Local fun bs => if h : p then read h bs else read' h bs := by
  by_cases h : p
  · simp only [dif_pos h]
    exact hread h
  · simp only [dif_neg h]
    exact hread' h

/-! ## Bytes and integers -/

theorem local_take_bytes (n : ℕ) : Local (take_bytes n) := by
  intro bs a rest h
  unfold take_bytes at h
  by_cases hn : n ≤ bs.length
  · rw [if_pos hn] at h
    obtain ⟨rfl, rfl⟩ := Prod.mk.inj (Except.ok.inj h)
    have hlen : (bs.take n).length = n := by
      rw [List.length_take, Nat.min_eq_left hn]
    refine ⟨bs.take n, (List.take_append_drop n bs).symm, ?_⟩
    intro after
    have htake := take_bytes_append (bs.take n) after
    rwa [hlen] at htake
  · rw [if_neg hn] at h
    exact absurd h (by simp)

theorem local_varint_tail (width w : ℕ) : Local (varint_tail width w) :=
  local_ite (local_error _) ((local_take_bytes w).bind fun a => local_pure (from_le_bytes a))

theorem local_varint_decode (width : ℕ) : Local (varint_decode width) := by
  refine local_byte rfl (fun _ _ => rfl) fun b => ?_
  refine local_ite (local_pure _) <| local_ite (local_varint_tail _ _) <|
    local_ite (local_varint_tail _ _) <| local_ite (local_varint_tail _ _) (local_error _)

end Reader

namespace Codec

open Reader

variable {α β : Type}

/-- A codec that reads values one after the other off a stream: its reader is
local. -/
class Streams (c : Codec α) : Prop where
  reads : Local c.decode

/-! ## The combinators -/

instance : Streams unit := ⟨local_pure ()⟩

instance (c : Codec α) (d : Codec β) [hc : Streams c] [hd : Streams d] : Streams (c.seq d) :=
  ⟨hc.reads.bind fun a => hd.reads.bind fun b => local_pure (a, b)⟩

instance (c : Codec β) (make : β → α) (fields : α → β) (h : ∀ a, make (fields a) = a)
    [hc : Streams c] : Streams (c.map make fields h) :=
  ⟨hc.reads.bind fun b => local_pure (make b)⟩

instance (c : Codec β) (make : β → Except DecodeError α) (fields : α → β)
    (h : ∀ a, make (fields a) = .ok a) [hc : Streams c] : Streams (c.checked make fields h) :=
  ⟨hc.reads.bind fun b => local_check (make b)⟩

instance : Streams u8 := ⟨local_byte rfl (fun _ _ => rfl) local_pure⟩

/-- A number of a bounded width, once read, is checked against its bound. -/
theorem local_bounded (n bound : ℕ) :
    @Local {n : ℕ // n < bound} fun bs =>
      if h : n < bound then .ok (⟨n, h⟩, bs) else .error .InvalidIntegerType :=
  local_dite (fun h => local_pure (⟨n, h⟩ : {n : ℕ // n < bound}))
    fun _ => local_error .InvalidIntegerType

instance (width : ℕ) (hwidth : width = 2 ∨ width = 4 ∨ width = 8) :
    Streams (varint width hwidth) :=
  ⟨(local_varint_decode width).bind fun n => local_bounded n (256 ^ width)⟩

instance (w : ℕ) : Streams (fixed w) :=
  ⟨(local_take_bytes w).bind fun a => local_bounded (from_le_bytes a) (256 ^ w)⟩

instance : Streams u16 := inferInstanceAs (Streams (map ..))
instance : Streams u32 := inferInstanceAs (Streams (map ..))
instance : Streams u64 := inferInstanceAs (Streams (map ..))
instance : Streams i32 := inferInstanceAs (Streams (map ..))
instance : Streams f32 := inferInstanceAs (Streams (map ..))
instance : Streams f64 := inferInstanceAs (Streams (map ..))
instance : Streams nonzero := inferInstanceAs (Streams (checked ..))
instance : Streams bool := inferInstanceAs (Streams (checked ..))

instance (c : Codec α) [hc : Streams c] : Streams c.option :=
  ⟨local_byte rfl (fun _ _ => rfl) fun b =>
    local_ite (local_pure none) <|
      local_ite (hc.reads.bind fun a => local_pure (some a)) (local_error (.UnexpectedVariant b.toNat))⟩

instance : Streams len := ⟨local_varint_decode 8⟩

/-- `n` elements, one after the other. -/
theorem local_decode_all (c : Codec α) [hc : Streams c] (n : ℕ) : Local (decode_all c n) := by
  induction n with
  | zero => exact local_pure []
  | succ n ih => exact hc.reads.bind fun a => ih.bind fun as => local_pure (a :: as)

instance (c : Codec α) [Streams c] : Streams c.list :=
  ⟨(local_varint_decode 8).bind fun n => local_decode_all c n⟩

instance : Streams bytes := ⟨(local_varint_decode 8).bind fun n => local_take_bytes n⟩

instance : Streams string := inferInstanceAs (Streams (checked ..))

/-! ## Enums -/

/-- The fields of each variant stream. -/
class VariantsStream (vs : List (Variant α)) : Prop where
  fields : ∀ v ∈ vs, Streams v.fields

instance : VariantsStream ([] : List (Variant α)) := ⟨fun _ h => absurd h (by simp)⟩

instance (v : Variant α) (vs : List (Variant α)) [hv : Streams v.fields] [hvs : VariantsStream vs] :
    VariantsStream (v :: vs) where
  fields := by
    intro w hw
    rcases List.mem_cons.mp hw with rfl | hw
    · exact hv
    · exact hvs.fields w hw

/-- The index, then the fields of the variant it names. -/
theorem local_decode_variant (vs : List (Variant α)) [hvs : VariantsStream vs] :
    Local (decode_variant vs) := by
  intro bs a rest h
  obtain ⟨⟨i, mid⟩, hi, hread⟩ := bind_eq_ok.mp h
  obtain ⟨used, rfl, hused⟩ := local_varint_decode 4 bs i mid hi
  cases hv : vs[i]? with
  | none =>
      simp only [hv] at hread
      exact absurd hread (by simp)
  | some v =>
      simp only [hv] at hread
      have hfields := (hvs.fields v (List.mem_of_getElem? hv)).reads
      obtain ⟨used', rfl, hused'⟩ := (hfields.bind fun f => local_pure (v.make f)) mid a rest hread
      refine ⟨used ++ used', by rw [List.append_assoc], ?_⟩
      intro after
      rw [List.append_assoc]
      refine bind_eq_ok.mpr ⟨(i, used' ++ after), hused _, ?_⟩
      simp only [hv]
      exact hused' after

instance (vs : List (Variant α)) (hlen : vs.length < 256 ^ 4) [VariantsStream vs] :
    Streams (variants vs hlen) := ⟨local_decode_variant vs⟩

/-! ## What is accepted -/

/-- Behind the bytes of one value, anything is left as it is. -/
theorem decode_append {c : Codec α} [hc : Streams c] {used : Bytes} {a : α}
    (h : c.decode used = .ok (a, [])) (left : Bytes) : c.decode (used ++ left) = .ok (a, left) := by
  obtain ⟨used', heq, hused⟩ := hc.reads used a [] h
  rw [List.append_nil] at heq
  rw [heq]
  exact hused left

/-- A value is read exactly if its input starts with bytes it uses entirely. -/
theorem decode_ok_iff {c : Codec α} [hc : Streams c] {bs left : Bytes} {a : α} :
    c.decode bs = .ok (a, left) ↔ ∃ used, bs = used ++ left ∧ c.decode used = .ok (a, []) := by
  constructor
  · intro h
    obtain ⟨used, rfl, hused⟩ := hc.reads bs a left h
    have hnil := hused []
    rw [List.append_nil] at hnil
    exact ⟨used, rfl, hnil⟩
  · rintro ⟨used, rfl, h⟩
    exact decode_append h left

end Codec

end Bincode
