import Reconcile.Proofs.Command.Directory
import Reconcile.Proofs.Command.Shown
import Reconcile.Proofs.Comparison.Merge
import Reconcile.Proofs.Inventory.File

/-!
# The plan of a single new file

A local file that the remote side lacks is the whole plan of the two sides, unless a
pattern matches its path. Main statement: a run on the files of two such inventories has
this one operation to show (`shown_single`).
-/

namespace Reconcile

/-- The entry of a file. -/
def Entry.ofFile (path : Text) (size : Int) : Entry := { name := path, path, size }

/-- The comparison of an entry that only the local side has. -/
def Comparison.ofLocal (path : Text) (e : Entry) : Comparison where
  path := path
  status := .localOnly
  here := some e
  there := none
  isDir := e.isDir

theorem compare_single {o : Options} {path : Text} (e : Entry)
    (h : Exclusion.excludes o.excludePatterns path = false) :
    Inventory.compare o (.ofPairs [(path, e)]) .empty = [.ofLocal path e] := by
  have hget : (Inventory.ofPairs [(path, e)]).get? path = some e := by
    show Keyed.get? [(path, e)] path = some e
    rw [Keyed.get?_cons, if_pos rfl]
  have hcomparison :
      Comparison.ofPath o (.ofPairs [(path, e)]) .empty path = .ofLocal path e := by
    have hempty : Inventory.empty.get? path = none := rfl
    rw [Comparison.ofPath, hget, hempty]
    simp [Status.ofSides, Comparison.ofLocal]
  have hfinding : Finding.ofPath o (.ofPairs [(path, e)]) .empty path =
      .reported (.ofLocal path e) := by
    rw [Finding.ofPath, h, hcomparison]
    rfl
  show ([Finding.ofPath o (.ofPairs [(path, e)]) .empty path].filterMap
    Finding.comparison?).mergeSort Comparison.pathLe = [.ofLocal path e]
  rw [hfinding]
  exact List.mergeSort_singleton _

namespace Command

/-- The document of an inventory with a single file. -/
def singleDocument (path : Text) (size : Int) : Value :=
  .table [(path, .table [("name", .text path), ("path", .text path), ("size", .int size)])]

/-- A file with a document as its text. -/
def documentFile (v : Value) : FileState := .file (Utf8.encode (Json.written 0 v ++ ['\n']))

/-- A directory with two inventories, that of a single file as `l` and that of none as `r`. -/
def singleHost (path : Text) (size : Int) : Host :=
  .inDirectory 80 fun name =>
    if name = "l" then documentFile (singleDocument path size)
    else if name = "r" then documentFile (.table [])
    else .absent

variable {path : Text} {size : Int}

theorem loadInventory_single_here (hsize : 0 ≤ size)
    (hdigits : (Nat.toDigits 10 size.natAbs).length ≤ maxIntegerDigits) :
    loadInventory (singleHost path size) "l" = .ok (.ofPairs [(path, .ofFile path size)]) := by
  have hkept : Json.IsKept Runtime.usual.jsonDepth (singleDocument path size) := by
    refine .table (List.pairwise_singleton _ path) (List.forall_mem_singleton.2 ?_)
    refine .table (show (["name", "path", "size"] : List Text).Nodup by decide) ?_
    simp only [List.forall_mem_cons]
    exact ⟨.text _, .text _, .int hdigits, List.forall_mem_nil _⟩
  have hvalue : Inventory.ofValue (singleDocument path size) =
      .ok (.ofPairs [(path, .ofFile path size)]) := by
    have hentry : Inventory.entryOfValue path (.table [("name", .text path), ("path", .text path),
        ("size", .int size)]) = .ok (.ofFile path size) := by
      show (do
        if size < 0 then throw (Inventory.Fault.negativeSize path)
        return Entry.ofFile path size) = _
      rw [if_neg (by omega)]
      rfl
    simp only [singleDocument, Inventory.ofValue, Inventory.ofFields, List.mapM_cons, hentry]
    rfl
  rw [singleHost, loadInventory_name ⟨by decide, by decide, by decide, by decide⟩, if_pos rfl]
  refine (Inventory.load_written hkept "l").trans ?_
  rw [hvalue]
  rfl

theorem loadInventory_single_there : loadInventory (singleHost path size) "r" = .ok .empty := by
  rw [singleHost, loadInventory_name ⟨by decide, by decide, by decide, by decide⟩,
    if_neg (by decide), if_pos rfl]
  have hkept : Json.IsKept Runtime.usual.jsonDepth (.table []) :=
    .table List.nodup_nil (List.forall_mem_nil _)
  exact Inventory.load_written hkept "r"

/-- **A single new file** is all that a run on its inventory has to show. -/
theorem shown_single {arguments : List String} {p : PlanRequest} {o : Options} (hsize : 0 ≤ size)
    (hdigits : (Nat.toDigits 10 size.natAbs).length ≤ maxIntegerDigits)
    (hp : readArguments arguments = .ok (.plan p)) (hhere : p.here = "l") (hthere : p.there = "r")
    (ho : effectiveOptions (singleHost path size) p = .ok o) (honly : p.onlyDirection = false)
    (hkept : Exclusion.excludes o.excludePatterns path = false) :
    shown (singleHost path size) arguments = .ok
      { json := p.json
        options := o
        here := .ofPairs [(path, .ofFile path size)]
        there := .empty
        operations :=
          [⟨.ofLocal path (.ofFile path size), .recommended .localOnly o.direction⟩] } := by
  refine shown_eq_ok_iff.2 ⟨p, o, _, _, hp, ho, hhere ▸ loadInventory_single_here hsize hdigits,
    hthere ▸ loadInventory_single_there, ?_⟩
  rw [operations, honly, compare_single _ hkept]
  rfl

end Command

end Reconcile
