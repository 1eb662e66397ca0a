/-
Bincode 2, standard configuration (little endian, variable-length integers, no
limit), as a library of codecs that carry their round-trip law.

A `Codec α` is a writer, a reader that consumes its own bytes from the head of
a buffer and hands back the rest, and the proof that the reader undoes the
writer in front of any suffix. Every serde shape bincode can produce is one
combinator: fields in declaration order are `seq`, a newtype or a struct is
`map` of its fields, an enum is `variants` (a `u32` variant index followed by
the variant's fields), `Option` is a tag byte, `Vec` and `String` are a length
followed by the contents. A codec assembled from them carries its law by
construction.

Writing may fail (`EncodeError`) because a serializer's `Result` is part of the
format's interface; none of the combinators below introduces a failure except
`len`, whose value must fit a `u64`.
-/
import Mathlib.Algebra.GroupWithZero.Nat
import Mathlib.Tactic.Common
import Mathlib.Data.Int.Notation

set_option autoImplicit false

namespace Bincode

/-- A byte string. -/
abbrev Bytes := List UInt8

/-- Why a serializer refused a value. -/
structure EncodeError where
  message : String

/-- Why a reader refused its input. -/
inductive DecodeError where
  /-- The input ended inside a value. -/
  | UnexpectedEnd (additional : ℕ)
  /-- The varint marker announces a wider integer than the field has. -/
  | InvalidIntegerType
  /-- The tag of an `Option` other than 0 and 1. -/
  | UnexpectedVariant (found : ℕ)
  /-- A `bool` byte other than 0 and 1. -/
  | InvalidBooleanValue (found : UInt8)
  /-- The bytes of a string are not UTF-8. -/
  | Utf8
  /-- Raised by a `Deserialize`, derived or hand-written. -/
  | OtherString (message : String)

/-- The error of a `Deserialize` that got an integer it has no use for. -/
def DecodeError.invalid_value (found : ℕ) (expected : String) : DecodeError :=
  .OtherString ("invalid value: integer `" ++ toString found ++ "`, expected " ++ expected)

/-- A self-delimiting binary format for `α` with its round-trip law. -/
structure Codec (α : Type) where
  encode : α → Except EncodeError Bytes
  decode : Bytes → Except DecodeError (α × Bytes)
  decode_encode : ∀ a bs rest, encode a = .ok bs → decode (bs ++ rest) = .ok (a, rest)

/-- A successful bind of `Except` computations, taken apart. -/
theorem bind_eq_ok {ε α β : Type} {x : Except ε α} {f : α → Except ε β} {b : β} :
    (x >>= f) = .ok b ↔ ∃ a, x = .ok a ∧ f a = .ok b := by
  cases x with
  | error e =>
      constructor
      · intro h
        cases h
      · rintro ⟨a, h, -⟩
        cases h
  | ok a =>
      constructor
      · intro h
        exact ⟨a, rfl, h⟩
      · rintro ⟨a', h, hf⟩
        cases h
        exact hf

/-- A successful `Except.map`, taken apart. -/
theorem map_eq_ok {ε α β : Type} {x : Except ε α} {f : α → β} {b : β} :
    x.map f = .ok b ↔ ∃ a, x = .ok a ∧ f a = b := by
  rcases x with e | a
  · constructor
    · intro h
      exact absurd h (by simp [Except.map])
    · rintro ⟨a, h, -⟩
      exact absurd h (by simp)
  · constructor
    · intro h
      exact ⟨a, rfl, Except.ok.inj h⟩
    · rintro ⟨a', h, rfl⟩
      rw [Except.ok.inj h]
      rfl

/-! ## Reading a fixed number of bytes -/

/-- The first `n` bytes and what follows them. -/
def take_bytes (n : ℕ) (bs : Bytes) : Except DecodeError (Bytes × Bytes) :=
  if n ≤ bs.length then .ok (bs.take n, bs.drop n)
  else .error (.UnexpectedEnd (n - bs.length))

theorem take_bytes_append (a rest : Bytes) :
    take_bytes a.length (a ++ rest) = .ok (a, rest) := by
  rw [take_bytes, if_pos (by rw [List.length_append]; omega), List.take_left, List.drop_left]

/-! ## Fixed-width little-endian integers -/

/-- The `w` low bytes of `n`, least significant first. -/
def to_le_bytes : ℕ → ℕ → Bytes
  | 0, _ => []
  | w + 1, n => UInt8.ofNat n :: to_le_bytes w (n / 256)

/-- The number whose bytes these are, least significant first. -/
def from_le_bytes : Bytes → ℕ
  | [] => 0
  | b :: bs => b.toNat + 256 * from_le_bytes bs

@[simp] theorem to_le_bytes_length (w n : ℕ) : (to_le_bytes w n).length = w := by
  induction w generalizing n with
  | zero => rfl
  | succ w ih => rw [to_le_bytes, List.length_cons, ih]

theorem from_le_bytes_to_le_bytes (w n : ℕ) (h : n < 256 ^ w) :
    from_le_bytes (to_le_bytes w n) = n := by
  induction w generalizing n with
  | zero =>
      have hn : n = 0 := by simpa using h
      rw [hn, to_le_bytes, from_le_bytes]
  | succ w ih =>
      have hdiv : n / 256 < 256 ^ w := by
        rw [Nat.div_lt_iff_lt_mul (by omega), ← Nat.pow_succ]
        exact h
      have hbyte : (UInt8.ofNat n).toNat = n % 256 := rfl
      rw [to_le_bytes, from_le_bytes, ih _ hdiv, hbyte]
      exact Nat.mod_add_div n 256

/-! ## Variable-length integers

One byte up to 250; above that a marker byte (251, 252 or 253) and the integer
in 2, 4 or 8 little-endian bytes. Marker 254 announces a `u128`, 255 is
reserved. -/

/-- The shortest form of `n`. -/
def varint_encode (n : ℕ) : Bytes :=
  if n < 251 then [UInt8.ofNat n]
  else if n < 2 ^ 16 then 251 :: to_le_bytes 2 n
  else if n < 2 ^ 32 then 252 :: to_le_bytes 4 n
  else 253 :: to_le_bytes 8 n

/-- The bytes after a marker: refused when the field is narrower than the
integer the marker announces. -/
def varint_tail (width w : ℕ) (bs : Bytes) : Except DecodeError (ℕ × Bytes) :=
  if width < w then .error .InvalidIntegerType
  else do
    let (a, rest) ← take_bytes w bs
    return (from_le_bytes a, rest)

/-- Read an integer into a field of `width` bytes (2, 4 or 8). Longer forms
than necessary are accepted, as bincode accepts them. -/
def varint_decode (width : ℕ) : Bytes → Except DecodeError (ℕ × Bytes)
  | [] => .error (.UnexpectedEnd 1)
  | b :: bs =>
      if b.toNat < 251 then .ok (b.toNat, bs)
      else if b = 251 then varint_tail width 2 bs
      else if b = 252 then varint_tail width 4 bs
      else if b = 253 then varint_tail width 8 bs
      else .error .InvalidIntegerType

theorem varint_tail_append (width w n : ℕ) (rest : Bytes) (hw : w ≤ width) (hn : n < 256 ^ w) :
    varint_tail width w (to_le_bytes w n ++ rest) = .ok (n, rest) := by
  have htake := take_bytes_append (to_le_bytes w n) rest
  rw [to_le_bytes_length] at htake
  rw [varint_tail, if_neg (by omega), htake]
  change Except.ok (from_le_bytes (to_le_bytes w n), rest) = _
  rw [from_le_bytes_to_le_bytes w n hn]

/-- Every integer of the field's width is read back from its shortest form. -/
theorem varint_decode_encode (width n : ℕ) (rest : Bytes)
    (hwidth : width = 2 ∨ width = 4 ∨ width = 8) (hn : n < 256 ^ width) :
    varint_decode width (varint_encode n ++ rest) = .ok (n, rest) := by
  unfold varint_encode
  by_cases h1 : n < 251
  · -- the byte is the integer itself
    have hb : (UInt8.ofNat n).toNat = n := by
      rw [UInt8.toNat_ofNat']
      omega
    rw [if_pos h1, List.cons_append, List.nil_append, varint_decode, if_pos (by omega), hb]
  · rw [if_neg h1]
    by_cases h2 : n < 2 ^ 16
    · -- a marker and two bytes, which fit every width
      rw [if_pos h2, List.cons_append, varint_decode, if_neg (by decide), if_pos rfl]
      exact varint_tail_append width 2 n rest (by omega) (by omega)
    · rw [if_neg h2]
      by_cases h3 : n < 2 ^ 32
      · -- four bytes are only written when the field has them
        have hw : 4 ≤ width := by
          rcases hwidth with rfl | rfl | rfl
          · exact absurd hn (by omega)
          · omega
          · omega
        rw [if_pos h3, List.cons_append, varint_decode, if_neg (by decide), if_neg (by decide),
          if_pos rfl]
        exact varint_tail_append width 4 n rest hw (by omega)
      -- what needs eight bytes is in a field of eight
      · have hw : width = 8 := by
          rcases hwidth with rfl | rfl | rfl
          · exact absurd hn (by omega)
          · exact absurd hn (by omega)
          · rfl
        subst hw
        rw [if_neg h3, List.cons_append, varint_decode, if_neg (by decide), if_neg (by decide),
          if_neg (by decide), if_pos rfl]
        exact varint_tail_append 8 8 n rest (Nat.le_refl _) hn

namespace Codec

variable {α β γ : Type}

/-! ## Combinators -/

/-- No bytes: a unit struct, or a variant without fields. -/
def unit : Codec Unit where
  encode _ := .ok []
  decode bs := .ok ((), bs)
  decode_encode := by
    intro a bs rest h
    cases h
    rfl

/-- Two fields, in declaration order. -/
def seq (c : Codec α) (d : Codec β) : Codec (α × β) where
  encode p := do
    let x ← c.encode p.1
    let y ← d.encode p.2
    return x ++ y
  decode bs := do
    let (a, bs) ← c.decode bs
    let (b, bs) ← d.decode bs
    return ((a, b), bs)
  decode_encode := by
    rintro ⟨a, b⟩ bs rest h
    obtain ⟨x, hx, h⟩ := bind_eq_ok.mp h
    obtain ⟨y, hy, h⟩ := bind_eq_ok.mp h
    cases h
    have hc := c.decode_encode a x (y ++ rest) hx
    have hd := d.decode_encode b y rest hy
    rw [List.append_assoc]
    refine bind_eq_ok.mpr ⟨(a, y ++ rest), hc, ?_⟩
    exact bind_eq_ok.mpr ⟨(b, rest), hd, rfl⟩

/-- Two fields are written one after the other. -/
theorem seq_encode_ok {c : Codec α} {d : Codec β} {p : α × β} {z : Bytes} :
    (c.seq d).encode p = .ok z ↔
      ∃ x y, c.encode p.1 = .ok x ∧ d.encode p.2 = .ok y ∧ z = x ++ y := by
  constructor
  · intro h
    obtain ⟨x, hx, h⟩ := bind_eq_ok.mp h
    obtain ⟨y, hy, h⟩ := bind_eq_ok.mp h
    exact ⟨x, y, hx, hy, (Except.ok.inj h).symm⟩
  · rintro ⟨x, y, hx, hy, rfl⟩
    exact bind_eq_ok.mpr ⟨x, hx, bind_eq_ok.mpr ⟨y, hy, rfl⟩⟩

/-- The first field is read, the second is not. -/
theorem seq_decode_error {c : Codec α} {d : Codec β} {a : α} {x rest : Bytes} {e : DecodeError}
    (ha : c.encode a = .ok x) (hd : d.decode rest = .error e) :
    (c.seq d).decode (x ++ rest) = .error e := by
  unfold seq
  dsimp only
  rw [c.decode_encode a x rest ha]
  show (d.decode rest >>= _) = _
  rw [hd]
  rfl

/-- A type presented by its fields: `fields` takes the value apart, `make`
puts it together again. -/
def map (c : Codec β) (make : β → α) (fields : α → β) (h : ∀ a, make (fields a) = a) :
    Codec α where
  encode a := c.encode (fields a)
  decode bs := do
    let (b, bs) ← c.decode bs
    return (make b, bs)
  decode_encode := by
    intro a bs rest hb
    refine bind_eq_ok.mpr ⟨(fields a, rest), c.decode_encode _ bs rest hb, ?_⟩
    change Except.ok (make (fields a), rest) = _
    rw [h]

/-- A type whose reader checks what it has read (`NonZero`, UTF-8). -/
def checked (c : Codec β) (make : β → Except DecodeError α) (fields : α → β)
    (h : ∀ a, make (fields a) = .ok a) : Codec α where
  encode a := c.encode (fields a)
  decode bs := do
    let (b, bs) ← c.decode bs
    let a ← make b
    return (a, bs)
  decode_encode := by
    intro a bs rest hb
    refine bind_eq_ok.mpr ⟨(fields a, rest), c.decode_encode _ bs rest hb, ?_⟩
    exact bind_eq_ok.mpr ⟨a, h a, rfl⟩

/-! ## Integers -/

/-- One raw byte. -/
def u8 : Codec UInt8 where
  encode b := .ok [b]
  decode
    | [] => .error (.UnexpectedEnd 1)
    | b :: bs => .ok (b, bs)
  decode_encode := by
    intro a bs rest h
    cases h
    rfl

/-- A natural number written as a varint of a field of `width` bytes. -/
def varint (width : ℕ) (hwidth : width = 2 ∨ width = 4 ∨ width = 8) :
    Codec {n : ℕ // n < 256 ^ width} where
  encode n := .ok (varint_encode n)
  decode bs := do
    let (n, bs) ← varint_decode width bs
    if h : n < 256 ^ width then return (⟨n, h⟩, bs) else .error .InvalidIntegerType
  decode_encode := by
    rintro ⟨n, hn⟩ bs rest h
    cases h
    refine bind_eq_ok.mpr ⟨(n, rest), varint_decode_encode width n rest hwidth hn, ?_⟩
    exact dif_pos hn

def u16 : Codec UInt16 :=
  (varint 2 (by omega)).map (fun n => UInt16.ofNat n) (fun x => ⟨x.toNat, x.toNat_lt⟩)
    (fun _ => UInt16.ofNat_toNat)

def u32 : Codec UInt32 :=
  (varint 4 (by omega)).map (fun n => UInt32.ofNat n) (fun x => ⟨x.toNat, x.toNat_lt⟩)
    (fun _ => UInt32.ofNat_toNat)

def u64 : Codec UInt64 :=
  (varint 8 (by omega)).map (fun n => UInt64.ofNat n) (fun x => ⟨x.toNat, x.toNat_lt⟩)
    (fun _ => UInt64.ofNat_toNat)

/-- Signed integers interleave the two signs: `0, -1, 1, -2, …` become
`0, 1, 2, 3, …`. -/
def zigzag (i : ℤ) : ℕ := if 0 ≤ i then 2 * i.toNat else 2 * (-i).toNat - 1

/-- The signed integer a zigzag number stands for. -/
def unzigzag (n : ℕ) : ℤ := if n % 2 = 0 then ((n / 2 : ℕ) : ℤ) else -(((n + 1) / 2 : ℕ) : ℤ)

theorem unzigzag_zigzag (i : ℤ) : unzigzag (zigzag i) = i := by
  unfold zigzag
  by_cases h : 0 ≤ i
  · rw [if_pos h, unzigzag, if_pos (by omega)]
    omega
  · rw [if_neg h, unzigzag, if_neg (by omega)]
    omega

theorem zigzag_lt (x : Int32) : zigzag x.toInt < 256 ^ 4 := by
  have hlo := x.le_toInt
  have hhi := x.toInt_lt
  unfold zigzag
  split <;> omega

def i32 : Codec Int32 :=
  (varint 4 (by omega)).map (fun n => Int32.ofInt (unzigzag n))
    (fun x => ⟨zigzag x.toInt, zigzag_lt x⟩)
    (fun x => by rw [unzigzag_zigzag, Int32.ofInt_toInt])

/-- A fixed-width little-endian field of `w` bytes (the bits of a float). -/
def fixed (w : ℕ) : Codec {n : ℕ // n < 256 ^ w} where
  encode n := .ok (to_le_bytes w n)
  decode bs := do
    let (a, rest) ← take_bytes w bs
    if h : from_le_bytes a < 256 ^ w then return (⟨from_le_bytes a, h⟩, rest)
    else .error .InvalidIntegerType
  decode_encode := by
    rintro ⟨n, hn⟩ bs rest h
    cases h
    have htake := take_bytes_append (to_le_bytes w n) rest
    rw [to_le_bytes_length] at htake
    refine bind_eq_ok.mpr ⟨(to_le_bytes w n, rest), htake, ?_⟩
    have hval := from_le_bytes_to_le_bytes w n hn
    change (if h : from_le_bytes (to_le_bytes w n) < 256 ^ w then _ else _) = _
    rw [dif_pos (by rw [hval]; exact hn)]
    simp only [hval]
    rfl

/-- An `f32`, by its bits. -/
def f32 : Codec UInt32 :=
  (fixed 4).map (fun n => UInt32.ofNat n) (fun x => ⟨x.toNat, x.toNat_lt⟩)
    (fun _ => UInt32.ofNat_toNat)

/-- An `f64`, by its bits. -/
def f64 : Codec UInt64 :=
  (fixed 8).map (fun n => UInt64.ofNat n) (fun x => ⟨x.toNat, x.toNat_lt⟩)
    (fun _ => UInt64.ofNat_toNat)

/-- `NonZeroU64`, and any other integer refined by a decidable check. -/
def nonzero : Codec {x : UInt64 // x ≠ 0} :=
  u64.checked
    (fun x => if h : x ≠ 0 then .ok ⟨x, h⟩ else .error (.invalid_value 0 "a nonzero u64"))
    (fun x => x.val) (fun x => dif_pos x.property)

def bool : Codec Bool :=
  u8.checked (fun b => if b = 0 then .ok false else if b = 1 then .ok true
      else .error (.InvalidBooleanValue b))
    (fun b => if b then 1 else 0) (fun b => by cases b <;> rfl)

/-! ## Options, sequences, strings -/

/-- A tag byte, 0 or 1, then the value if there is one. -/
def option (c : Codec α) : Codec (Option α) where
  encode
    | none => .ok [0]
    | some a => do
        let x ← c.encode a
        return 1 :: x
  decode
    | [] => .error (.UnexpectedEnd 1)
    | b :: bs =>
        if b = 0 then .ok (none, bs)
        else if b = 1 then do
          let (a, bs) ← c.decode bs
          return (some a, bs)
        else .error (.UnexpectedVariant b.toNat)
  decode_encode := by
    rintro (_ | a) bs rest h
    · cases h
      rfl
    · obtain ⟨x, hx, h⟩ := bind_eq_ok.mp h
      cases h
      exact bind_eq_ok.mpr ⟨(a, rest), c.decode_encode a x rest hx, rfl⟩

/-- A collection's length, as a `u64`. -/
def len : Codec ℕ where
  encode n := if n < 256 ^ 8 then .ok (varint_encode n) else .error ⟨"length overflows u64"⟩
  decode := varint_decode 8
  decode_encode := by
    intro n bs rest h
    by_cases hn : n < 256 ^ 8
    · rw [if_pos hn] at h
      cases h
      exact varint_decode_encode 8 n rest (by omega) hn
    · rw [if_neg hn] at h
      cases h

/-- The elements of a sequence, one after the other. -/
def encode_all (c : Codec α) : List α → Except EncodeError Bytes
  | [] => .ok []
  | a :: as => do
      let x ← c.encode a
      let y ← encode_all c as
      return x ++ y

/-- `n` elements, one after the other. -/
def decode_all (c : Codec α) : ℕ → Bytes → Except DecodeError (List α × Bytes)
  | 0, bs => .ok ([], bs)
  | n + 1, bs => do
      let (a, bs) ← c.decode bs
      let (as, bs) ← decode_all c n bs
      return (a :: as, bs)

theorem decode_all_encode_all (c : Codec α) (as : List α) (bs rest : Bytes)
    (h : encode_all c as = .ok bs) : decode_all c as.length (bs ++ rest) = .ok (as, rest) := by
  induction as generalizing bs with
  | nil =>
      cases h
      rfl
  | cons a as ih =>
      obtain ⟨x, hx, h⟩ := bind_eq_ok.mp h
      obtain ⟨y, hy, h⟩ := bind_eq_ok.mp h
      cases h
      rw [List.append_assoc]
      refine bind_eq_ok.mpr ⟨(a, y ++ rest), c.decode_encode a x _ hx, ?_⟩
      exact bind_eq_ok.mpr ⟨(as, rest), ih y hy, rfl⟩

/-- `Vec<T>`: the length, then the elements. -/
def list (c : Codec α) : Codec (List α) where
  encode as := do
    let n ← len.encode as.length
    let x ← encode_all c as
    return n ++ x
  decode bs := do
    let (n, bs) ← len.decode bs
    decode_all c n bs
  decode_encode := by
    intro as bs rest h
    obtain ⟨n, hn, h⟩ := bind_eq_ok.mp h
    obtain ⟨x, hx, h⟩ := bind_eq_ok.mp h
    cases h
    rw [List.append_assoc]
    refine bind_eq_ok.mpr ⟨(as.length, x ++ rest), len.decode_encode _ n _ hn, ?_⟩
    exact decode_all_encode_all c as x rest hx

/-- A byte buffer: the length, then the bytes as they are. -/
def bytes : Codec Bytes where
  encode b := do
    let n ← len.encode b.length
    return n ++ b
  decode bs := do
    let (n, bs) ← len.decode bs
    take_bytes n bs
  decode_encode := by
    intro b bs rest h
    obtain ⟨n, hn, h⟩ := bind_eq_ok.mp h
    cases h
    rw [List.append_assoc]
    refine bind_eq_ok.mpr ⟨(b.length, b ++ rest), len.decode_encode _ n _ hn, ?_⟩
    exact take_bytes_append b rest

theorem varint_encode_length (n : ℕ) : 0 < (varint_encode n).length := by
  unfold varint_encode
  split_ifs
  all_goals simp

/-- A length is written exactly if it fits a `u64`. -/
theorem len_encode_ok {n : ℕ} {x : Bytes} :
    len.encode n = .ok x ↔ n < 256 ^ 8 ∧ x = varint_encode n := by
  unfold len
  dsimp only
  by_cases hn : n < 256 ^ 8
  · rw [if_pos hn]
    exact ⟨fun h => ⟨hn, (Except.ok.inj h).symm⟩, fun h => by rw [h.2]⟩
  · rw [if_neg hn]
    exact ⟨fun h => absurd h (by simp), fun h => absurd h.1 hn⟩

theorem bytes_encode_ok {b x : Bytes} :
    bytes.encode b = .ok x ↔ b.length < 256 ^ 8 ∧ x = varint_encode b.length ++ b := by
  constructor
  · intro h
    obtain ⟨n, hn, h⟩ := bind_eq_ok.mp h
    obtain ⟨hlt, rfl⟩ := len_encode_ok.mp hn
    exact ⟨hlt, (Except.ok.inj h).symm⟩
  · rintro ⟨hlt, rfl⟩
    exact bind_eq_ok.mpr ⟨_, len_encode_ok.mpr ⟨hlt, rfl⟩, rfl⟩

/-- A byte buffer takes more room than its bytes: its length is there too. -/
theorem bytes_length {b bs : Bytes} (h : bytes.encode b = .ok bs) : b.length < bs.length := by
  obtain ⟨-, rfl⟩ := bytes_encode_ok.mp h
  have := varint_encode_length b.length
  rw [List.length_append]
  omega

/-- The room a byte buffer takes. -/
def bytes_size (b : Bytes) : ℕ := (varint_encode b.length).length + b.length

/-- Byte buffers one after the other take the room of each. -/
theorem encode_all_bytes_ok {bs : List Bytes} {x : Bytes} (h : encode_all bytes bs = .ok x) :
    x.length = (bs.map bytes_size).sum := by
  induction bs generalizing x with
  | nil =>
      rw [← Except.ok.inj h]
      rfl
  | cons b bs ih =>
      obtain ⟨y, hy, h⟩ := bind_eq_ok.mp h
      obtain ⟨z, hz, h⟩ := bind_eq_ok.mp h
      obtain ⟨-, rfl⟩ := bytes_encode_ok.mp hy
      rw [← Except.ok.inj h, List.map_cons, List.sum_cons, ← ih hz, bytes_size]
      simp only [List.length_append]

/-- They are written if their room is less than a `u64` can say. -/
theorem encode_all_bytes {bs : List Bytes} (h : (bs.map bytes_size).sum < 256 ^ 8) :
    ∃ x, encode_all bytes bs = .ok x ∧ bs.length ≤ x.length := by
  induction bs with
  | nil => exact ⟨[], rfl, by simp⟩
  | cons b bs ih =>
      rw [List.map_cons, List.sum_cons, bytes_size] at h
      have hlen := varint_encode_length b.length
      obtain ⟨x, hx, hle⟩ := ih (by omega)
      have hb := bytes_encode_ok.mpr ⟨(by omega : b.length < 256 ^ 8), rfl⟩
      refine ⟨_, bind_eq_ok.mpr ⟨_, hb, bind_eq_ok.mpr ⟨x, hx, rfl⟩⟩, ?_⟩
      simp only [List.length_cons, List.length_append]
      omega

/-- The room a sequence of byte buffers takes. -/
def bytes_list_size (bs : List Bytes) : ℕ :=
  (varint_encode bs.length).length + (bs.map bytes_size).sum

theorem bytes_list_length {bs : List Bytes} {x : Bytes} (h : bytes.list.encode bs = .ok x) :
    x.length = bytes_list_size bs := by
  obtain ⟨n, hn, h⟩ := bind_eq_ok.mp h
  obtain ⟨y, hy, h⟩ := bind_eq_ok.mp h
  obtain ⟨-, rfl⟩ := len_encode_ok.mp hn
  rw [← Except.ok.inj h, List.length_append, encode_all_bytes_ok hy, bytes_list_size]

theorem bytes_list_encodes {bs : List Bytes} (h : bytes_list_size bs < 256 ^ 8) :
    ∃ x, bytes.list.encode bs = .ok x := by
  unfold bytes_list_size at h
  obtain ⟨x, hx, hle⟩ := encode_all_bytes (by omega : (bs.map bytes_size).sum < 256 ^ 8)
  have hcount : bs.length < 256 ^ 8 := by
    rw [encode_all_bytes_ok hx] at hle
    omega
  exact ⟨_, bind_eq_ok.mpr ⟨_, len_encode_ok.mpr ⟨hcount, rfl⟩, bind_eq_ok.mpr ⟨x, hx, rfl⟩⟩⟩

/-- Equal elements take room in proportion to their number. -/
theorem encode_all_replicate {c : Codec α} {a : α} {x : Bytes} (h : c.encode a = .ok x) (n : ℕ) :
    ∃ y, encode_all c (List.replicate n a) = .ok y ∧ y.length = n * x.length := by
  induction n with
  | zero => exact ⟨[], rfl, by simp⟩
  | succ n ih =>
      obtain ⟨y, hy, hlen⟩ := ih
      refine ⟨x ++ y, bind_eq_ok.mpr ⟨x, h, bind_eq_ok.mpr ⟨y, hy, rfl⟩⟩, ?_⟩
      rw [List.length_append, hlen, Nat.succ_mul]
      omega

/-- `String`: its UTF-8 bytes as a byte buffer, checked when read. -/
def string : Codec String :=
  bytes.checked
    (fun b => if h : ByteArray.IsValidUTF8 ⟨b.toArray⟩ then .ok (String.ofByteArray ⟨b.toArray⟩ h)
      else .error .Utf8)
    (fun s => s.toByteArray.data.toList)
    (fun s => dif_pos s.isValidUTF8)

/-! ## Enums -/

/-- One variant of an enum: the codec of its fields, its constructor and the
match on it. -/
structure Variant (α : Type) where
  {Fields : Type}
  fields : Codec Fields
  make : Fields → α
  view : α → Option Fields
  make_view : ∀ a f, view a = some f → make f = a := by
    intro a f h
    cases a <;> cases h
    rfl

/-- The bytes of `a` under the first variant that matches it, with that
variant's index. -/
def encode_variant (a : α) : ℕ → List (Variant α) → Except EncodeError Bytes
  | _, [] => .error ⟨"no such variant"⟩
  | i, v :: vs =>
      match v.view a with
      | some f => do
          let x ← v.fields.encode f
          return varint_encode i ++ x
      | none => encode_variant a (i + 1) vs

/-- The variant index as a `u32`, then that variant's fields. -/
def decode_variant (vs : List (Variant α)) (bs : Bytes) : Except DecodeError (α × Bytes) := do
  let (i, bs) ← varint_decode 4 bs
  match vs[i]? with
  | some v => do
      let (f, bs) ← v.fields.decode bs
      return (v.make f, bs)
  | none => .error (.invalid_value i ("variant index 0 <= i < " ++ toString vs.length))

theorem decode_encode_variant (pre vs : List (Variant α)) (a : α) (bs rest : Bytes)
    (hlen : (pre ++ vs).length < 256 ^ 4) (h : encode_variant a pre.length vs = .ok bs) :
    decode_variant (pre ++ vs) (bs ++ rest) = .ok (a, rest) := by
  induction vs generalizing pre with
  | nil => cases h
  | cons v vs ih =>
      rw [encode_variant] at h
      cases hv : v.view a with
      | none =>
          -- not this variant: it moves to those already passed
          rw [hv] at h
          have := ih (pre ++ [v]) (by simpa using hlen) (by simpa using h)
          simpa using this
      | some f =>
          rw [hv] at h
          obtain ⟨x, hx, h⟩ := bind_eq_ok.mp h
          cases h
          have hi : pre.length < 256 ^ 4 := by
            rw [List.length_append, List.length_cons] at hlen
            omega
          rw [List.append_assoc]
          refine bind_eq_ok.mpr ⟨(pre.length, x ++ rest),
            varint_decode_encode 4 _ _ (by omega) hi, ?_⟩
          -- the index read back is that of this variant
          have hget : (pre ++ v :: vs)[pre.length]? = some v := by simp
          simp only [hget]
          refine bind_eq_ok.mpr ⟨(f, rest), v.fields.decode_encode f x rest hx, ?_⟩
          change Except.ok (v.make f, rest) = _
          rw [v.make_view a f hv]

/-- The variant is found, its fields are not read. -/
theorem decode_variant_error {vs : List (Variant α)} {i : ℕ} {v : Variant α} {rest : Bytes}
    {e : DecodeError} (hi : i < 256 ^ 4) (hv : vs[i]? = some v)
    (h : v.fields.decode rest = .error e) :
    decode_variant vs (varint_encode i ++ rest) = .error e := by
  unfold decode_variant
  rw [varint_decode_encode 4 i rest (by omega) hi]
  show (match vs[i]? with | some v => _ | none => _) = _
  rw [hv]
  show (v.fields.decode rest >>= _) = _
  rw [h]
  rfl

/-- An enum, its variants in declaration order. -/
def variants (vs : List (Variant α)) (hlen : vs.length < 256 ^ 4) : Codec α where
  encode a := encode_variant a 0 vs
  decode := decode_variant vs
  decode_encode := fun a bs rest h => decode_encode_variant [] vs a bs rest hlen h

end Codec

end Bincode
