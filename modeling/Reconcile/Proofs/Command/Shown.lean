import Reconcile.Command
import Reconcile.Proofs.Sequence

/-!
# What a run has to show

A run of `plan` first loads its options and inventories and works out the operations; only
then does it look at how they are to be printed. This module takes the two apart. Main
statements: how a run ends depends on its command line through what it has to show
(`run_eq`), and what that is (`shown_eq_ok_iff`).
-/

namespace Reconcile.Command

/-- What a run of `plan` has loaded and is going to print. -/
structure Shown where
  json : Bool
  options : Options
  here : Inventory
  there : Inventory
  operations : List Operation

/-- How a run ends that has something to show. -/
def Shown.print (console : Console) (s : Shown) : Outcome :=
  if s.json then printJson s.options s.operations
  else printTable console s.options s.here s.there s.operations

/-- What a request has to show, or how it ends without. -/
def shownBy (host : Host) (p : PlanRequest) : Except Outcome Shown := do
  let o ← (effectiveOptions host p).mapError (failOptions host.console)
  let (here, there) ← (loadBoth host p).mapError (failInventory host.console)
  return ⟨p.json, o, here, there, operations o p.onlyDirection here there⟩

/-- What a run has to show, or how it ends without. -/
def shown (host : Host) (arguments : List String) : Except Outcome Shown :=
  match readArguments arguments with
  | .ok (.plan p) => shownBy host p
  | _ => .error (run host arguments)

/-- How a run ends, in terms of what it has to show. -/
def ending (console : Console) : Except Outcome Shown → Outcome
  | .ok s => s.print console
  | .error outcome => outcome

variable {host : Host} {arguments : List String} {p : PlanRequest} {s : Shown}

theorem shown_of_plan (host : Host) (hp : readArguments arguments = .ok (.plan p)) :
    shown host arguments = shownBy host p := by
  rw [shown, hp]

theorem runPlan_eq (host : Host) (p : PlanRequest) :
    runPlan host p = ending host.console (shownBy host p) := by
  rw [runPlan, shownBy]
  cases effectiveOptions host p with
  | error e => rfl
  | ok o =>
    cases loadBoth host p with
    | error e => rfl
    | ok both => rfl

/-- **How a run ends** depends on its command line through what it has to show. -/
theorem run_eq (host : Host) (arguments : List String) :
    run host arguments = ending host.console (shown host arguments) := by
  rw [shown]
  split
  · rename_i p hp
    rw [← runPlan_eq, run, hp]
    rfl
  · rfl

theorem shownBy_eq_ok_iff :
    shownBy host p = .ok s ↔ ∃ o here there, effectiveOptions host p = .ok o ∧
      loadInventory host p.here = .ok here ∧ loadInventory host p.there = .ok there ∧
      s = ⟨p.json, o, here, there, operations o p.onlyDirection here there⟩ := by
  simp only [shownBy, loadBoth, Sequence.bind_eq_ok_iff, Sequence.mapError_eq_ok_iff,
    Sequence.pure_eq_ok_iff]
  constructor
  · rintro ⟨o, ho, _, ⟨here, hhere, there, hthere, rfl⟩, rfl⟩
    exact ⟨o, here, there, ho, hhere, hthere, rfl⟩
  · rintro ⟨o, here, there, ho, hhere, hthere, rfl⟩
    exact ⟨o, ho, (here, there), ⟨here, hhere, there, hthere, rfl⟩, rfl⟩

/-- **What a run has to show**: under the options in effect, the operations for the two
inventories that are asked for. -/
theorem shown_eq_ok_iff :
    shown host arguments = .ok s ↔ ∃ p o here there,
      readArguments arguments = .ok (.plan p) ∧ effectiveOptions host p = .ok o ∧
      loadInventory host p.here = .ok here ∧ loadInventory host p.there = .ok there ∧
      s = ⟨p.json, o, here, there, operations o p.onlyDirection here there⟩ := by
  rw [shown]
  split
  · rename_i p hp
    rw [shownBy_eq_ok_iff]
    constructor
    · rintro ⟨o, here, there, h⟩
      exact ⟨p, o, here, there, hp, h⟩
    · rintro ⟨p', o, here, there, hp', h⟩
      obtain rfl : p = p' := Request.plan.inj (Except.ok.inj (hp.symm.trans hp'))
      exact ⟨o, here, there, h⟩
  · rename_i hno
    constructor
    · rintro ⟨⟩
    · rintro ⟨p, o, here, there, hp, -⟩
      exact absurd hp (hno p)

end Reconcile.Command
