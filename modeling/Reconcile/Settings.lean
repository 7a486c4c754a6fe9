import Reconcile.Document.Loose
import Reconcile.Options.Document

/-!
# Settings: options as they were given

An override may give a value of any kind for a truth value and for a pattern.
Settings keep what was given and show it as it is; what it counts as is settled
when a merge looks at it. Main statement: settings made of options are those
options.
-/

namespace Reconcile

/-- Options as they were given. -/
structure Settings where
  compareTimestamp : Value
  compareSize : Value
  compareChecksum : Value
  excludePatterns : List Value
  direction : Direction
deriving Inhabited

namespace Settings

/-- Options as settings. -/
def ofOptions (o : Options) : Settings where
  compareTimestamp := .bool o.compareTimestamp
  compareSize := .bool o.compareSize
  compareChecksum := .bool o.compareChecksum
  excludePatterns := o.excludePatterns.map .text
  direction := o.direction

/-- The patterns before the first that is no text. No path is matched against
what comes after them. -/
def leadingTexts : List Value → List Text
  | .text t :: rest => t :: leadingTexts rest
  | _ => []

/-- The options that settings come to. -/
def options (s : Settings) : Options where
  compareTimestamp := s.compareTimestamp.counts
  compareSize := s.compareSize.counts
  compareChecksum := s.compareChecksum.counts
  excludePatterns := leadingTexts s.excludePatterns
  direction := s.direction

/-- Settings as a table. -/
def toValue (s : Settings) : Value :=
  .table
    [("compare_timestamp", s.compareTimestamp), ("compare_size", s.compareSize),
     ("compare_checksum", s.compareChecksum), ("exclude_patterns", .list s.excludePatterns),
     ("direction", .text s.direction.name)]

theorem leadingTexts_map_text (patterns : List Text) :
    leadingTexts (patterns.map .text) = patterns := by
  induction patterns with
  | nil => rfl
  | cons p rest ih => simp [leadingTexts, ih]

@[simp] theorem options_ofOptions (o : Options) : (ofOptions o).options = o := by
  simp [options, ofOptions, leadingTexts_map_text]

@[simp] theorem toValue_ofOptions (o : Options) : (ofOptions o).toValue = o.toValue := rfl

end Settings

end Reconcile
