import Reconcile.Comparison
import Reconcile.Exclusion
import Reconcile.Inventory
import Reconcile.Options
import Reconcile.Text.Utf8
import Reconcile.Time.Clock

/-!
# Merging two inventories

Every path of either side is excluded, found identical, or reported as a
comparison. The reported ones come in the order of the bytes of their paths. A
directory is reported even if its sides are identical, so that the shape of the
tree stays visible.
-/

namespace Reconcile

/-- The status of a path that both sides have. The clock decides first; sizes
decide where it does not, if they count. -/
def Status.ofEntries (o : Options) (here there : Entry) : Status :=
  let settled := if o.compareSize && here.size != there.size then .sizeMismatch else .identical
  if o.compareTimestamp then
    match Time.clockOrder Time.defaultTolerance here.modified there.modified with
    | .localAfter => .localNewer
    | .remoteAfter => .remoteNewer
    | _ => settled
  else settled

/-- The status of a path, either side of which may be absent. -/
def Status.ofSides (o : Options) : (here there : Option Entry) → Status
  | some here, some there => .ofEntries o here there
  | some _, none => .localOnly
  | none, some _ => .remoteOnly
  | none, none => .identical

namespace Comparison

/-- The comparison of a path in two inventories. -/
def ofPath (o : Options) (here there : Inventory) (path : Text) : Comparison where
  path := path
  status := .ofSides o (here.get? path) (there.get? path)
  here := here.get? path
  there := there.get? path
  isDir := (here.get? path).any Entry.isDir || (there.get? path).any Entry.isDir

/-- Whether a comparison is worth a report. -/
def isReported (c : Comparison) : Bool := c.status ≠ .identical || c.isDir

/-- Whether the path of `c` comes no later than that of `d`. -/
def pathLe (c d : Comparison) : Bool := Utf8.bytesLe c.path d.path

end Comparison

/-- What becomes of a path in a merge. -/
inductive Finding
  | excluded
  | identical
  | reported (c : Comparison)

/-- What becomes of a path of either inventory. -/
def Finding.ofPath (o : Options) (here there : Inventory) (path : Text) : Finding :=
  if Exclusion.excludes o.excludePatterns path then .excluded
  else
    let c := Comparison.ofPath o here there path
    if c.isReported then .reported c else .identical

/-- The comparison that is reported, if one is. -/
def Finding.comparison? : Finding → Option Comparison
  | .reported c => some c
  | _ => none

/-- Whether the path is excluded. -/
def Finding.isExcluded : Finding → Bool
  | .excluded => true
  | _ => false

/-- Whether the path is the same on both sides. -/
def Finding.isIdentical : Finding → Bool
  | .identical => true
  | _ => false

/-- The paths of either inventory, each once. -/
def Inventory.unionPaths (here there : Inventory) : List Text :=
  here.paths ++ there.paths.filter (!here.contains ·)

/-- The outcome of a merge: the comparisons reported, and how many entries and
paths it dealt with. -/
structure Merge where
  comparisons : List Comparison
  localEntries : Nat
  remoteEntries : Nat
  excluded : Nat
  identical : Nat

/-- Merges two inventories. -/
def Inventory.merge (o : Options) (here there : Inventory) : Merge :=
  let findings := (here.unionPaths there).map (Finding.ofPath o here there)
  { comparisons := (findings.filterMap Finding.comparison?).mergeSort Comparison.pathLe
    localEntries := here.size
    remoteEntries := there.size
    excluded := findings.countP Finding.isExcluded
    identical := findings.countP Finding.isIdentical }

/-- The comparisons of two inventories. -/
def Inventory.compare (o : Options) (here there : Inventory) : List Comparison :=
  (here.merge o there).comparisons

/-- The line that accounts for every path of a merge. -/
def Merge.logLine (m : Merge) : String :=
  s!"Compared {m.localEntries} local / {m.remoteEntries} remote entries: " ++
    s!"{m.comparisons.length} reported, {m.excluded} excluded, {m.identical} identical"

end Reconcile
