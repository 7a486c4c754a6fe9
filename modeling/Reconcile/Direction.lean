import Reconcile.Text

/-! # The direction of a synchronisation -/

namespace Reconcile

/-- Where changes flow. A one-way direction makes its destination like its
source. -/
inductive Direction
  | localToRemote
  | remoteToLocal
  | bidirectional
deriving DecidableEq, Inhabited

namespace Direction

/-- Every direction. -/
def all : List Direction := [.localToRemote, .remoteToLocal, .bidirectional]

/-- The name of a direction in documents and on the command line. -/
def name : Direction → String
  | .localToRemote => "local_to_remote"
  | .remoteToLocal => "remote_to_local"
  | .bidirectional => "bidirectional"

/-- The direction of a name. -/
def ofName? (t : Text) : Option Direction := all.find? (·.name = t)

/-- The direction with the two sides exchanged. -/
def swap : Direction → Direction
  | .localToRemote => .remoteToLocal
  | .remoteToLocal => .localToRemote
  | .bidirectional => .bidirectional

theorem mem_all (d : Direction) : d ∈ all := by cases d <;> decide

@[simp] theorem ofName?_name (d : Direction) : ofName? d.name = some d := by cases d <;> decide

@[simp] theorem swap_swap (d : Direction) : d.swap.swap = d := by cases d <;> rfl

end Direction

end Reconcile
