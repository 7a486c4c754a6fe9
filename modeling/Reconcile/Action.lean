import Reconcile.Direction
import Reconcile.Status

/-! # Actions: what a plan does about a path -/

namespace Reconcile

/-- What to do about a path. -/
inductive Action
  | upload
  | download
  | deleteLocal
  | deleteRemote
  | skip
  | askUser
deriving DecidableEq, Inhabited

namespace Action

/-- Every action. -/
def all : List Action := [.upload, .download, .deleteLocal, .deleteRemote, .skip, .askUser]

/-- The name of an action in documents. -/
def name : Action → String
  | .upload => "upload"
  | .download => "download"
  | .deleteLocal => "delete_local"
  | .deleteRemote => "delete_remote"
  | .skip => "skip"
  | .askUser => "ask_user"

/-- The action of a name. -/
def ofName? (t : Text) : Option Action := all.find? (·.name = t)

/-- The action with the two sides exchanged. -/
def swap : Action → Action
  | .upload => .download
  | .download => .upload
  | .deleteLocal => .deleteRemote
  | .deleteRemote => .deleteLocal
  | a => a

/-- Whether an action changes a side. -/
def changesFiles : Action → Bool
  | .upload | .download | .deleteLocal | .deleteRemote => true
  | .skip | .askUser => false

/-- The action recommended for a path. A one-way direction removes what only its
destination has; what needs review is left to the user in every direction. -/
def recommended : Status → Direction → Action
  | .localNewer, .remoteToLocal => .skip
  | .localNewer, _ => .upload
  | .remoteNewer, .localToRemote => .skip
  | .remoteNewer, _ => .download
  | .localOnly, .remoteToLocal => .deleteLocal
  | .localOnly, _ => .upload
  | .remoteOnly, .localToRemote => .deleteRemote
  | .remoteOnly, _ => .download
  | .conflict, _ => .askUser
  | .sizeMismatch, _ => .askUser
  | .identical, _ => .skip

theorem mem_all (a : Action) : a ∈ all := by cases a <;> decide

@[simp] theorem ofName?_name (a : Action) : ofName? a.name = some a := by cases a <;> decide

@[simp] theorem swap_swap (a : Action) : a.swap.swap = a := by cases a <;> rfl

end Action

end Reconcile
