import Reconcile.Entry

/-! # Inventories: the entries of one side by their paths -/

namespace Reconcile

/-- A finite map from relative paths to entries that keeps the order in which the
paths came. -/
structure Inventory where
  entries : List (Text × Entry)
  nodup : (Keyed.keys entries).Nodup

namespace Inventory

/-- The inventory without entries. -/
def empty : Inventory := ⟨[], List.nodup_nil⟩

instance : Inhabited Inventory := ⟨empty⟩

/-- The inventory of the pairs; of two with the same path, the later counts. -/
def ofPairs (pairs : List (Text × Entry)) : Inventory :=
  ⟨Keyed.ofPairs pairs, Keyed.nodup_ofPairs pairs⟩

/-- The paths in order. -/
def paths (i : Inventory) : List Text := Keyed.keys i.entries

/-- The entry of a path. -/
def get? (i : Inventory) (path : Text) : Option Entry := Keyed.get? i.entries path

/-- Whether there is an entry for a path. -/
def contains (i : Inventory) (path : Text) : Bool := (i.get? path).isSome

/-- The number of entries. -/
def size (i : Inventory) : Nat := i.entries.length

/-- The inventory with `entry` for `path`. -/
def put (path : Text) (entry : Entry) (i : Inventory) : Inventory :=
  ⟨Keyed.put path entry i.entries, Keyed.nodup_put i.nodup⟩

/-- The inventory without an entry for `path`. -/
def erase (path : Text) (i : Inventory) : Inventory :=
  ⟨Keyed.erase path i.entries, Keyed.nodup_erase i.nodup⟩

theorem get?_put (path : Text) (entry : Entry) (i : Inventory) (path' : Text) :
    (i.put path entry).get? path' = if path' = path then some entry else i.get? path' :=
  Keyed.get?_put path entry i.entries path'

theorem get?_erase (path : Text) (i : Inventory) (path' : Text) :
    (i.erase path).get? path' = if path' = path then none else i.get? path' :=
  Keyed.get?_erase path i.entries path'

theorem mem_paths_iff {i : Inventory} {path : Text} :
    path ∈ i.paths ↔ (i.get? path).isSome = true := Keyed.mem_keys_iff

end Inventory

end Reconcile
