import Reconcile.Settings

/-!
# Overriding settings

A table of new values for some settings. A null value leaves its setting alone,
under any name. An override that fails changes nothing.
-/

namespace Reconcile.Settings

/-- Why settings cannot be overridden. -/
inductive OverrideError
  /-- The patterns are no collection, or the direction is none. -/
  | malformed (fault : Malformed)
  | unknownOption (name : Text)
  /-- The name is taken by what is overridden. -/
  | reservedName (function name : String)

/-- The wording of an override error; names stand in it as they are. -/
def OverrideError.message : OverrideError → Text
  | .malformed fault => fault.message
  | .unknownOption name =>
    "CompareOptions.__init__() got an unexpected keyword argument '" ++ name ++ "'"
  | .reservedName function name => s!"{function}() got multiple values for argument '{name}'"

/-- What `read` makes of a field, or `default` if it is not there. -/
def changed {α : Type} (changes : Fields) (name : String) (default : α)
    (read : Value → Except Malformed α) : Except OverrideError α :=
  match Keyed.get? changes name with
  | none => .ok default
  | some v => (read v).mapError .malformed

/-- The first field that names no option. -/
def unknownField (changes : Fields) : Except OverrideError Unit :=
  match changes.find? (·.1 ∉ Options.fieldNames) with
  | none => .ok ()
  | some (name, _) =>
    if name = "self" then .error (.reservedName "CompareOptions.__init__" "self")
    else .error (.unknownOption name)

/-- The settings with the values of a table put in. Patterns are looked at before
the direction, and both before unknown names. -/
def override (s : Settings) (overrides : Fields) : Except OverrideError Settings := do
  if (Keyed.get? overrides "options").isSome then
    throw (.reservedName "options_with_overrides" "options")
  let changes := overrides.filter (!·.2.isNull)
  let excludePatterns ← changed changes "exclude_patterns" s.excludePatterns Value.members
  let direction ← changed changes "direction" s.direction Value.toDirection
  unknownField changes
  return {
    compareTimestamp := (Keyed.get? changes "compare_timestamp").getD s.compareTimestamp
    compareSize := (Keyed.get? changes "compare_size").getD s.compareSize
    compareChecksum := (Keyed.get? changes "compare_checksum").getD s.compareChecksum
    excludePatterns
    direction }

end Reconcile.Settings
