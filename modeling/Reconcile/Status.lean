import Reconcile.Text

/-! # The status of a path: how its two sides compare -/

namespace Reconcile

/-- How the local and the remote side of a path compare. -/
inductive Status
  | identical
  | localNewer
  | remoteNewer
  | localOnly
  | remoteOnly
  /-- Changed on both sides since the last checkpoint; only a journal tells. -/
  | conflict
  | sizeMismatch
deriving DecidableEq, Inhabited

namespace Status

/-- Every status. -/
def all : List Status :=
  [.identical, .localNewer, .remoteNewer, .localOnly, .remoteOnly, .conflict, .sizeMismatch]

/-- The name of a status in documents. -/
def name : Status → String
  | .identical => "identical"
  | .localNewer => "local_newer"
  | .remoteNewer => "remote_newer"
  | .localOnly => "local_only"
  | .remoteOnly => "remote_only"
  | .conflict => "conflict"
  | .sizeMismatch => "size_mismatch"

/-- The status of a name. -/
def ofName? (t : Text) : Option Status := all.find? (·.name = t)

/-- The status of the same path with the two sides exchanged. -/
def swap : Status → Status
  | .localNewer => .remoteNewer
  | .remoteNewer => .localNewer
  | .localOnly => .remoteOnly
  | .remoteOnly => .localOnly
  | s => s

theorem mem_all (s : Status) : s ∈ all := by cases s <;> decide

@[simp] theorem ofName?_name (s : Status) : ofName? s.name = some s := by cases s <;> decide

@[simp] theorem swap_swap (s : Status) : s.swap.swap = s := by cases s <;> rfl

end Status

end Reconcile
