import Reconcile.Console
import Reconcile.Runtime
import Reconcile.Storage

/-! # What the program finds where it runs -/

namespace Reconcile

/-- Stored files, the readers of documents, and a console to print on. -/
structure Host extends Storage where
  runtime : Runtime
  console : Console

end Reconcile
