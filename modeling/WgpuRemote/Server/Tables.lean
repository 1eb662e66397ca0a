/-
`server::tables`: ID to wgpu-handle storage.

The source keeps one `HashMap` per resource kind. A `Ref` is a kind with an id
of that kind, so the ten maps are one map on references: the map of a kind is
what it holds at the references of that kind, and `get`, `insert` and `remove`
at a typed id reach exactly one of them. A wgpu object is known by the call
that made it, hence the values.
-/
import WgpuRemote.Lib.Store
import WgpuRemote.Wgpu.Api

set_option autoImplicit false

namespace WgpuRemote.Server

open Wgpu (Occ Obj)

/-- `ResourceTables`. -/
abbrev ResourceTables := Ref → Option Occ

namespace ResourceTables

/-- `ResourceTables::default()`. -/
def empty : ResourceTables := fun _ => none

/-- `tables.<kind>.get(&id)`. -/
def get (t : ResourceTables) {k : Kind} (id : Id k) : Option (Obj k) :=
  (t id.ref).map Obj.mk

/-- `tables.<kind>.insert(id, object)`. -/
def insert (t : ResourceTables) {k : Kind} (id : Id k) (o : Obj k) : ResourceTables :=
  Store.insert t id.ref o.made

/-- `tables.<kind>.remove(&id)`. -/
def remove (t : ResourceTables) {k : Kind} (id : Id k) : ResourceTables :=
  Store.remove t id.ref

/-- An object is held under its own name. -/
theorem get_eq_some {t : ResourceTables} {k : Kind} {id : Id k} {o : Obj k} :
    t.get id = some o ↔ t id.ref = some o.made := by
  rw [get, Option.map_eq_some_iff]
  constructor
  · rintro ⟨m, h, rfl⟩
    exact h
  · intro h
    exact ⟨o.made, h, rfl⟩

/-- An id that holds nothing is an empty entry. -/
theorem get_eq_none {t : ResourceTables} {k : Kind} {id : Id k} :
    t.get id = none ↔ t id.ref = none := by
  rw [get, Option.map_eq_none_iff]

end ResourceTables

end WgpuRemote.Server
