/-
What a reader accepts, its writer can write.

The round-trip law of a `Codec` starts from a value. This one starts from bytes,
whoever made them: the value they are read as is written again, in no more room
than was used for it. It need not be the same bytes, since an integer may come in a
longer form than necessary; but there is then a shortest way to write what was
read, the writer's, and it is read back as the same value.

`Codec.Rewrites` is a class, and the combinators are in it. A `map` is if its two
functions are inverse both ways, a check if it changes nothing, and an enum if its
variants can be told apart (`VariantsTagged`).
-/
import WgpuRemote.Lib.Bincode

set_option autoImplicit false

namespace Bincode

/-! ## Integers -/

theorem from_le_bytes_lt (bs : Bytes) : from_le_bytes bs < 256 ^ bs.length := by
  induction bs with
  | nil => exact Nat.one_pos
  | cons b bs ih =>
      have hb := b.toNat_lt
      rw [from_le_bytes, List.length_cons, Nat.pow_succ]
      omega

theorem take_bytes_ok {n : ℕ} {bs a rest : Bytes} (h : take_bytes n bs = .ok (a, rest)) :
    a.length = n ∧ bs.length = n + rest.length := by
  unfold take_bytes at h
  by_cases hn : n ≤ bs.length
  · rw [if_pos hn] at h
    obtain ⟨rfl, rfl⟩ := Prod.mk.inj (Except.ok.inj h)
    rw [List.length_take, List.length_drop]
    omega
  · rw [if_neg hn] at h
    cases h

/-- A number that fits `w` bytes takes no more than these and a marker. -/
theorem varint_encode_le {n w : ℕ} (hw : w = 2 ∨ w = 4 ∨ w = 8) (hn : n < 256 ^ w) :
    (varint_encode n).length ≤ w + 1 := by
  unfold varint_encode
  -- the integer is its own byte, or comes after a marker
  by_cases h1 : n < 251
  · rw [if_pos h1, List.length_singleton]
    omega
  · rw [if_neg h1]
    by_cases h2 : n < 2 ^ 16
    · rw [if_pos h2, List.length_cons, to_le_bytes_length]
      omega
    · rw [if_neg h2]
      by_cases h3 : n < 2 ^ 32
      · rw [if_pos h3, List.length_cons, to_le_bytes_length]
        rcases hw with rfl | rfl | rfl
        · omega
        · omega
        · omega
      · rw [if_neg h3, List.length_cons, to_le_bytes_length]
        rcases hw with rfl | rfl | rfl
        · omega
        · omega
        · omega

/-- A number read in a long form is written in one that is no longer. -/
theorem varint_tail_rewrites {width w n : ℕ} {bs rest : Bytes} (hw : w = 2 ∨ w = 4 ∨ w = 8)
    (h : varint_tail width w bs = .ok (n, rest)) :
    n < 256 ^ 8 ∧ (varint_encode n).length + rest.length ≤ bs.length + 1 := by
  unfold varint_tail at h
  by_cases hwidth : width < w
  · rw [if_pos hwidth] at h
    cases h
  · rw [if_neg hwidth] at h
    obtain ⟨⟨a, left⟩, htake, heq⟩ := bind_eq_ok.mp h
    obtain ⟨rfl, rfl⟩ := Prod.mk.inj (Except.ok.inj heq)
    obtain ⟨hlen, hbs⟩ := take_bytes_ok htake
    have hlt := from_le_bytes_lt a
    rw [hlen] at hlt
    have hle := varint_encode_le hw hlt
    refine ⟨Nat.lt_of_lt_of_le hlt (Nat.pow_le_pow_right (by omega) (by omega)), ?_⟩
    omega

/-- So is every number that was read. -/
theorem varint_decode_rewrites {width n : ℕ} {bs rest : Bytes}
    (h : varint_decode width bs = .ok (n, rest)) :
    n < 256 ^ 8 ∧ (varint_encode n).length + rest.length ≤ bs.length := by
  rcases bs with _ | ⟨b, bs⟩
  · cases h
  · rw [varint_decode] at h
    rw [List.length_cons]
    -- a byte of an integer below 251, or a marker with its bytes
    by_cases hb : b.toNat < 251
    · rw [if_pos hb] at h
      obtain ⟨rfl, rfl⟩ := Prod.mk.inj (Except.ok.inj h)
      refine ⟨by omega, ?_⟩
      rw [varint_encode, if_pos hb, List.length_singleton]
      omega
    · rw [if_neg hb] at h
      by_cases h1 : b = 251
      · rw [if_pos h1] at h
        exact varint_tail_rewrites (by omega) h
      · rw [if_neg h1] at h
        by_cases h2 : b = 252
        · rw [if_pos h2] at h
          exact varint_tail_rewrites (by omega) h
        · rw [if_neg h2] at h
          by_cases h3 : b = 253
          · rw [if_pos h3] at h
            exact varint_tail_rewrites (by omega) h
          -- 254 and 255 mark integers that no field of the wire has
          · rw [if_neg h3] at h
            cases h

namespace Codec

variable {α β : Type}

/-- What was read is written, in no more bytes. -/
class Rewrites (c : Codec α) : Prop where
  rewrites : ∀ {bs a rest}, c.decode bs = .ok (a, rest) →
    ∃ x, c.encode a = .ok x ∧ x.length + rest.length ≤ bs.length

/-! ## The combinators -/

instance : Rewrites unit where
  rewrites h := by
    obtain ⟨-, rfl⟩ := Prod.mk.inj (Except.ok.inj h)
    exact ⟨[], rfl, by simp⟩

instance (c : Codec α) (d : Codec β) [hc : Rewrites c] [hd : Rewrites d] :
    Rewrites (c.seq d) where
  rewrites h := by
    obtain ⟨⟨a, mid⟩, ha, h⟩ := bind_eq_ok.mp h
    obtain ⟨⟨b, left⟩, hb, h⟩ := bind_eq_ok.mp h
    obtain ⟨rfl, rfl⟩ := Prod.mk.inj (Except.ok.inj h)
    obtain ⟨x, hx, hxlen⟩ := hc.rewrites ha
    obtain ⟨y, hy, hylen⟩ := hd.rewrites hb
    refine ⟨x ++ y, seq_encode_ok.mpr ⟨x, y, hx, hy, rfl⟩, ?_⟩
    rw [List.length_append]
    omega

/-- A type presented by its fields, if it is no more than these. -/
theorem rewrites_map {c : Codec β} [hc : Rewrites c] {make : β → α} {fields : α → β}
    {h : ∀ a, make (fields a) = a} (hback : ∀ b, fields (make b) = b) :
    Rewrites (c.map make fields h) where
  rewrites hdec := by
    obtain ⟨⟨b, left⟩, hb, heq⟩ := bind_eq_ok.mp hdec
    obtain ⟨rfl, rfl⟩ := Prod.mk.inj (Except.ok.inj heq)
    obtain ⟨x, hx, hlen⟩ := hc.rewrites hb
    refine ⟨x, ?_, hlen⟩
    show c.encode (fields (make b)) = .ok x
    rw [hback, hx]

/-- A check that changes nothing. -/
theorem rewrites_checked {c : Codec β} [hc : Rewrites c] {make : β → Except DecodeError α}
    {fields : α → β} {h : ∀ a, make (fields a) = .ok a}
    (hback : ∀ b a, make b = .ok a → fields a = b) : Rewrites (c.checked make fields h) where
  rewrites hdec := by
    obtain ⟨⟨b, left⟩, hb, hdec⟩ := bind_eq_ok.mp hdec
    obtain ⟨a, ha, heq⟩ := bind_eq_ok.mp hdec
    obtain ⟨rfl, rfl⟩ := Prod.mk.inj (Except.ok.inj heq)
    obtain ⟨x, hx, hlen⟩ := hc.rewrites hb
    refine ⟨x, ?_, hlen⟩
    show c.encode (fields a) = .ok x
    rw [hback b a ha, hx]

instance : Rewrites u8 where
  rewrites {bs a rest} h := by
    rcases bs with _ | ⟨b, bs⟩
    · cases h
    · obtain ⟨rfl, rfl⟩ := Prod.mk.inj (Except.ok.inj h)
      refine ⟨[b], rfl, ?_⟩
      rw [List.length_singleton, List.length_cons]
      omega

instance (width : ℕ) (hwidth : width = 2 ∨ width = 4 ∨ width = 8) :
    Rewrites (varint width hwidth) where
  rewrites h := by
    obtain ⟨⟨n, left⟩, hn, h⟩ := bind_eq_ok.mp h
    obtain ⟨-, hlen⟩ := varint_decode_rewrites hn
    dsimp only at h
    by_cases hlt : n < 256 ^ width
    · rw [dif_pos hlt] at h
      obtain ⟨rfl, rfl⟩ := Prod.mk.inj (Except.ok.inj h)
      exact ⟨_, rfl, hlen⟩
    · rw [dif_neg hlt] at h
      cases h

instance (w : ℕ) : Rewrites (fixed w) where
  rewrites h := by
    obtain ⟨⟨a, left⟩, ha, h⟩ := bind_eq_ok.mp h
    obtain ⟨-, hlen⟩ := take_bytes_ok ha
    dsimp only at h
    by_cases hlt : from_le_bytes a < 256 ^ w
    · rw [dif_pos hlt] at h
      obtain ⟨rfl, rfl⟩ := Prod.mk.inj (Except.ok.inj h)
      refine ⟨_, rfl, ?_⟩
      rw [to_le_bytes_length]
      omega
    · rw [dif_neg hlt] at h
      cases h

instance : Rewrites u16 := rewrites_map fun b =>
  Subtype.ext (UInt16.toNat_ofNat_of_lt' b.property)

instance : Rewrites u32 := rewrites_map fun b =>
  Subtype.ext (UInt32.toNat_ofNat_of_lt' b.property)

instance : Rewrites u64 := rewrites_map fun b =>
  Subtype.ext (UInt64.toNat_ofNat_of_lt' b.property)

instance : Rewrites f32 := rewrites_map fun b =>
  Subtype.ext (UInt32.toNat_ofNat_of_lt' b.property)

instance : Rewrites f64 := rewrites_map fun b =>
  Subtype.ext (UInt64.toNat_ofNat_of_lt' b.property)

theorem zigzag_unzigzag (n : ℕ) : zigzag (unzigzag n) = n := by
  unfold unzigzag
  by_cases h : n % 2 = 0
  · rw [if_pos h, zigzag, if_pos (by omega)]
    omega
  · rw [if_neg h, zigzag, if_neg (by omega)]
    omega

instance : Rewrites i32 := rewrites_map fun b => by
  refine Subtype.ext ?_
  have hlt : b.val < 4294967296 := b.property
  have hfit : (Int32.ofInt (unzigzag b.val)).toInt = unzigzag b.val := by
    apply Int32.toInt_ofInt_of_le
    · unfold unzigzag
      split <;> omega
    · unfold unzigzag
      split <;> omega
  show zigzag (Int32.ofInt (unzigzag b.val)).toInt = b.val
  rw [hfit, zigzag_unzigzag]

instance : Rewrites nonzero := rewrites_checked fun b a h => by
  by_cases hb : b ≠ 0
  · rw [dif_pos hb] at h
    rw [← Except.ok.inj h]
  · rw [dif_neg hb] at h
    cases h

instance : Rewrites bool := rewrites_checked fun b a h => by
  by_cases h0 : b = 0
  · rw [if_pos h0] at h
    rw [← Except.ok.inj h, h0]
    rfl
  · rw [if_neg h0] at h
    by_cases h1 : b = 1
    · rw [if_pos h1] at h
      rw [← Except.ok.inj h, h1]
      rfl
    · rw [if_neg h1] at h
      cases h

/-! ## Options, sequences, strings -/

instance (c : Codec α) [hc : Rewrites c] : Rewrites c.option where
  rewrites {bs a rest} h := by
    rcases bs with _ | ⟨b, bs⟩
    · cases h
    · change (if b = 0 then _ else if b = 1 then _ else _) = _ at h
      rw [List.length_cons]
      by_cases h0 : b = 0
      · rw [if_pos h0] at h
        obtain ⟨rfl, rfl⟩ := Prod.mk.inj (Except.ok.inj h)
        refine ⟨[0], rfl, ?_⟩
        rw [List.length_singleton]
        omega
      · rw [if_neg h0] at h
        by_cases h1 : b = 1
        · rw [if_pos h1] at h
          obtain ⟨⟨v, left⟩, hv, h⟩ := bind_eq_ok.mp h
          obtain ⟨rfl, rfl⟩ := Prod.mk.inj (Except.ok.inj h)
          obtain ⟨x, hx, hlen⟩ := hc.rewrites hv
          refine ⟨1 :: x, bind_eq_ok.mpr ⟨x, hx, rfl⟩, ?_⟩
          rw [List.length_cons]
          omega
        · rw [if_neg h1] at h
          cases h

/-- The length of a sequence that was read is written. -/
theorem len_rewrites {n : ℕ} {bs rest : Bytes} (h : len.decode bs = .ok (n, rest)) :
    ∃ x, len.encode n = .ok x ∧ x.length + rest.length ≤ bs.length := by
  obtain ⟨hlt, hle⟩ := varint_decode_rewrites h
  exact ⟨_, len_encode_ok.mpr ⟨hlt, rfl⟩, hle⟩

theorem decode_all_rewrites (c : Codec α) [hc : Rewrites c] {n : ℕ} {bs rest : Bytes}
    {as : List α} (h : decode_all c n bs = .ok (as, rest)) :
    as.length = n ∧ ∃ x, encode_all c as = .ok x ∧ x.length + rest.length ≤ bs.length := by
  induction n generalizing bs as with
  | zero =>
      obtain ⟨rfl, rfl⟩ := Prod.mk.inj (Except.ok.inj h)
      exact ⟨rfl, [], rfl, by simp⟩
  | succ n ih =>
      obtain ⟨⟨a, mid⟩, ha, h⟩ := bind_eq_ok.mp h
      obtain ⟨⟨as', left⟩, has, h⟩ := bind_eq_ok.mp h
      obtain ⟨rfl, rfl⟩ := Prod.mk.inj (Except.ok.inj h)
      obtain ⟨x, hx, hxlen⟩ := hc.rewrites ha
      obtain ⟨hlen, y, hy, hylen⟩ := ih has
      refine ⟨by rw [List.length_cons, hlen], x ++ y, ?_, ?_⟩
      · exact bind_eq_ok.mpr ⟨x, hx, bind_eq_ok.mpr ⟨y, hy, rfl⟩⟩
      · rw [List.length_append]
        omega

instance (c : Codec α) [Rewrites c] : Rewrites c.list where
  rewrites h := by
    obtain ⟨⟨n, mid⟩, hn, h⟩ := bind_eq_ok.mp h
    obtain ⟨hcount, y, hy, hylen⟩ := decode_all_rewrites c h
    obtain ⟨x, hx, hxlen⟩ := len_rewrites hn
    refine ⟨x ++ y, bind_eq_ok.mpr ⟨x, ?_, bind_eq_ok.mpr ⟨y, hy, rfl⟩⟩, ?_⟩
    · rw [hcount]
      exact hx
    · rw [List.length_append]
      omega

instance : Rewrites bytes where
  rewrites {bs a rest} h := by
    obtain ⟨⟨n, mid⟩, hn, h⟩ := bind_eq_ok.mp h
    obtain ⟨hcount, hlen⟩ := take_bytes_ok h
    obtain ⟨x, hx, hxlen⟩ := len_rewrites hn
    refine ⟨x ++ a, bind_eq_ok.mpr ⟨x, ?_, rfl⟩, ?_⟩
    · rw [hcount]
      exact hx
    · rw [List.length_append]
      omega

instance : Rewrites string := rewrites_checked fun b a h => by
  by_cases hvalid : ByteArray.IsValidUTF8 ⟨b.toArray⟩
  · rw [dif_pos hvalid] at h
    rw [← Except.ok.inj h]
  · rw [dif_neg hvalid] at h
    cases h

/-! ## Enums -/

/-- The variants can be told apart by a number: each is seen to be what it makes,
and what it makes is tagged with its place. -/
def VariantsTagged (tag : α → ℕ) : ℕ → List (Variant α) → Prop
  | _, [] => True
  | n, v :: vs =>
      (∀ f, v.view (v.make f) = some f ∧ tag (v.make f) = n) ∧ VariantsTagged tag (n + 1) vs

/-- The tag of what a variant makes is its place. -/
theorem VariantsTagged.place {tag : α → ℕ} {vs : List (Variant α)} {n : ℕ}
    (htag : VariantsTagged tag n vs) {i : ℕ} {v : Variant α} (hv : vs[i]? = some v)
    (f : v.Fields) : tag (v.make f) = n + i := by
  induction vs generalizing i n with
  | nil => cases hv
  | cons w vs ih =>
      rcases i with _ | i
      · obtain rfl := Option.some.inj hv
        exact (htag.1 f).2
      · have hget : vs[i]? = some v := hv
        rw [ih htag.2 hget]
        omega

/-- Every variant's fields are rewritten. -/
class VariantsRewrite (vs : List (Variant α)) : Prop where
  fields : ∀ v ∈ vs, Rewrites v.fields

instance : VariantsRewrite ([] : List (Variant α)) := ⟨fun _ h => absurd h (by simp)⟩

instance (v : Variant α) (vs : List (Variant α)) [hv : Rewrites v.fields]
    [hvs : VariantsRewrite vs] : VariantsRewrite (v :: vs) where
  fields := by
    intro w hw
    rcases List.mem_cons.mp hw with rfl | hw
    · exact hv
    · exact hvs.fields w hw

/-- A variant is written under its own index. -/
theorem encode_variant_made {tag : α → ℕ} {vs : List (Variant α)} {n : ℕ}
    (htag : VariantsTagged tag n vs) {i : ℕ} {v : Variant α} (hv : vs[i]? = some v)
    {f : v.Fields} {x : Bytes} (hx : v.fields.encode f = .ok x) :
    encode_variant (v.make f) n vs = .ok (varint_encode (n + i) ++ x) := by
  induction vs generalizing i n with
  | nil => cases hv
  | cons w vs ih =>
      have hplace := htag.place hv f
      rw [encode_variant]
      rcases i with _ | i
      · obtain rfl := Option.some.inj hv
        rw [(htag.1 f).1]
        exact bind_eq_ok.mpr ⟨x, hx, rfl⟩
      · -- an earlier variant does not match, or it would have made it
        have hearlier : w.view (v.make f) = none := by
          rcases hw : w.view (v.make f) with _ | g
          · rfl
          · have hmade := (htag.1 g).2
            rw [w.make_view _ g hw] at hmade
            omega
        have hget : vs[i]? = some v := hv
        rw [hearlier]
        show encode_variant (v.make f) (n + 1) vs = _
        rw [ih htag.2 hget, Nat.add_assoc, Nat.add_comm 1]

theorem rewrites_variants (tag : α → ℕ) {vs : List (Variant α)} {hlen : vs.length < 256 ^ 4}
    [hvs : VariantsRewrite vs] (htag : VariantsTagged tag 0 vs) : Rewrites (variants vs hlen) where
  rewrites h := by
    obtain ⟨⟨i, mid⟩, hi, hread⟩ := bind_eq_ok.mp h
    obtain ⟨-, hilen⟩ := varint_decode_rewrites hi
    rcases hv : vs[i]? with _ | v
    · simp only [hv] at hread
      cases hread
    · simp only [hv] at hread
      obtain ⟨⟨f, left⟩, hf, heq⟩ := bind_eq_ok.mp hread
      obtain ⟨rfl, rfl⟩ := Prod.mk.inj (Except.ok.inj heq)
      obtain ⟨x, hx, hxlen⟩ := (hvs.fields v (List.mem_of_getElem? hv)).rewrites hf
      refine ⟨_, encode_variant_made htag hv hx, ?_⟩
      rw [Nat.zero_add, List.length_append]
      dsimp only at hilen hxlen ⊢
      omega

end Codec

end Bincode
