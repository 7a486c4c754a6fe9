import Reconcile.Execution
import Reconcile.Main
import Reconcile.Proofs.Command.Layers
import Reconcile.Proofs.Command.Message
import Reconcile.Proofs.Command.Table
import Reconcile.Proofs.Comparison.Evidence
import Reconcile.Proofs.Comparison.Journals
import Reconcile.Proofs.Comparison.PathOrder
import Reconcile.Proofs.Exclusion
import Reconcile.Proofs.Exclusion.Case
import Reconcile.Proofs.Execution.Fixpoint
import Reconcile.Proofs.Inventory.Accepted
import Reconcile.Proofs.Inventory.Canonical
import Reconcile.Proofs.Inventory.Failure
import Reconcile.Proofs.Options.Agreement
import Reconcile.Proofs.Options.Failure
import Reconcile.Proofs.Plan.Contested
import Reconcile.Proofs.Plan.Direction
import Reconcile.Proofs.Plan.Document
import Reconcile.Proofs.Plan.Hiding
import Reconcile.Proofs.Plan.Safety
import Reconcile.Proofs.Plan.Selection
import Reconcile.Proofs.Session
import Reconcile.Proofs.Settings.Composition
import Reconcile.Proofs.Status.Precedence
import Reconcile.Proofs.Symmetry
import Reconcile.Proofs.Tally
import Reconcile.Proofs.Time.Normal
import Reconcile.Proofs.Time.Tolerance
