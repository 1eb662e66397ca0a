/-
`client::ids`, `client::resources` and the drop-in's handles.

A facade handle holds the id its `IdMinter` gave it; a buffer's also holds the
buffer's size. The drop-in wraps a facade handle in a wgpu handle, and wgpu
lets an application pass a handle of some other backend where one of this
backend is expected: `as_custom` then finds nothing.
-/
import WgpuRemote.Protocol.Ids

set_option autoImplicit false

namespace WgpuRemote.Client

/-! ## Minting -/

/-- `IdMinter`: how many ids of each kind it has minted. -/
abbrev IdMinter := Kind → ℕ

/-- `IdMinter::new()`. -/
def IdMinter.new : IdMinter := fun _ => 0

/-- The `n`-th id a minter mints, counted from 0: `fetch_add(1) + 1` on an
`AtomicU64`. -/
def nth_id (k : Kind) (n : ℕ) : Id k := ⟨UInt64.ofNat n + 1⟩

/-- `mint_*`: the id, and the minter afterwards. -/
def IdMinter.mint (ids : IdMinter) (k : Kind) : Id k × IdMinter :=
  (nth_id k (ids k), fun k' => if k' = k then ids k + 1 else ids k')

/-- Ids repeat only when a counter wraps. -/
theorem nth_id_inj {k : Kind} {m n : ℕ} (hm : m < 2 ^ 64) (hn : n < 2 ^ 64)
    (h : nth_id k m = nth_id k n) : m = n := by
  have hraw : UInt64.ofNat m + 1 = UInt64.ofNat n + 1 := congrArg Id.raw h
  have heq : UInt64.ofNat m = UInt64.ofNat n := by
    have hsub := congrArg (fun x => x - 1) hraw
    simpa using hsub
  have hnat := congrArg UInt64.toNat heq
  rw [UInt64.toNat_ofNat_of_lt' hm, UInt64.toNat_ofNat_of_lt' hn] at hnat
  exact hnat

/-! ## Handles -/

/-- `u64::saturating_sub`. -/
def saturating_sub (a b : UInt64) : UInt64 := if b ≤ a then a - b else 0

/-- A facade handle. The size is a buffer's. -/
structure Handle (k : Kind) where
  id : Id k
  size : UInt64
deriving DecidableEq

/-- A wgpu handle as the drop-in sees it: its own, or a foreign one. -/
structure Wrapped (k : Kind) where
  as_custom : Option (Handle k)
deriving DecidableEq

end WgpuRemote.Client
