import Reconcile.Binary64
import Reconcile.Time.Timestamp

/-!
# Comparing clocks

Which of two files was modified later. Times that differ by no more than a
tolerance count as equal, because clocks drift and some file systems keep coarse
times. The difference in seconds is taken as a binary floating-point number and
its fraction is dropped.
-/

namespace Reconcile.Time

/-- What two clocks say. -/
inductive ClockOrder
  | withinTolerance
  | localAfter
  | remoteAfter
  /-- A side has no time. -/
  | indeterminate
deriving DecidableEq, Inhabited

/-- The name of an order. -/
def ClockOrder.name : ClockOrder → String
  | .withinTolerance => "equal_within_tolerance"
  | .localAfter => "local_after"
  | .remoteAfter => "remote_after"
  | .indeterminate => "indeterminate"

/-- The tolerance in whole seconds. -/
def defaultTolerance : Int := 2

/-- The whole seconds in a number of microseconds. -/
def wholeSeconds (microseconds : Int) : Int := (Binary64.ofRatio microseconds secondLength).truncate

/-- The order of two time stamps under a tolerance. -/
def Timestamp.order (tolerance : Int) (here there : Timestamp) : ClockOrder :=
  let difference := wholeSeconds (here.instant - there.instant)
  if difference.natAbs ≤ tolerance then .withinTolerance
  else if 0 < difference then .localAfter
  else .remoteAfter

/-- The order of two times, of which either may be unknown. -/
def clockOrder (tolerance : Int) : (here there : Option Timestamp) → ClockOrder
  | some here, some there => here.order tolerance there
  | _, _ => .indeterminate

/-- Whether two times are both known and the same within the tolerance. -/
def clocksAgree (tolerance : Int) (here there : Option Timestamp) : Bool :=
  clockOrder tolerance here there = .withinTolerance

end Reconcile.Time
