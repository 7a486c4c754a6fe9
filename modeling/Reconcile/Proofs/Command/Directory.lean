import Reconcile.Command
import Reconcile.Console.Terminal
import Reconcile.Proofs.Location

/-!
# A directory of named files

What the program loads where it runs in a directory with files that are known by their names,
for a user whose home directory has no options.
-/

namespace Reconcile

/-- A terminal in a directory of files. -/
def Host.inDirectory (columns : Nat) (files : String → FileState) : Host where
  homes user := if user = "" then some ⟨"/", ["home"]⟩ else none
  state l :=
    match l.segments with
    | [name] => if l.root = "" then files name else .absent
    | _ => .absent
  runtime := .usual
  console := .terminal columns

namespace Command

/-- A path that is the name of a file in the directory where the program runs. -/
structure IsName (path : String) : Prop where
  noSlash : '/' ∉ path.toList
  ne_empty : path ≠ ""
  ne_dot : path ≠ "."
  noTilde : path.toList.head? ≠ some '~'

variable {columns : Nat} {files : String → FileState} {name : String}

theorem loadOptions_name (h : IsName name) :
    loadOptions (.inDirectory columns files) (.ofPath name) =
      Options.load .usual name (files name) := by
  rw [loadOptions, Location.ofPath_of_notMem h.noSlash h.ne_empty h.ne_dot,
    Location.expandHome?_name h.noTilde]
  simp only [Location.path_name]
  rfl

theorem loadInventory_name (h : IsName name) :
    loadInventory (.inDirectory columns files) name =
      Inventory.load .usual name (files name) := by
  rw [loadInventory, Location.ofPath_of_notMem h.noSlash h.ne_empty h.ne_dot,
    Location.expandHome?_name h.noTilde]
  simp only [Location.path_name]
  rfl

theorem effectiveOptions_name {p : PlanRequest} (hconfig : p.config = some name)
    (h : IsName name) :
    effectiveOptions (.inDirectory columns files) p =
      p.apply <$> Options.load .usual name (files name) := by
  rw [effectiveOptions, hconfig, ← loadOptions_name h]
  rfl

end Command

end Reconcile
