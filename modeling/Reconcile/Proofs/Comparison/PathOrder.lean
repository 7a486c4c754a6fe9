import Mathlib.Data.List.Sort
import Reconcile.Proofs.Comparison.Merge
import Reconcile.Proofs.Inventory.Document

/-!
# Comparisons and tables list paths in one order

A merge lists its comparisons by the bytes of their paths (`increasing_compare`), and an
inventory is written by the code points of its paths (`Inventory.pairwise_sortedEntries`). By code
points the paths of the comparisons increase as well (`pairwise_paths_compare`), and two
lists that increase in one order have what they share in the same places relative to each
other (`filter_mem_comm`). Main statement: `path_orders_agree`.
-/

namespace Reconcile

/-- The comparisons of a merge, too, come in the order of the code points of their paths. -/
theorem pairwise_paths_compare (o : Options) (here there : Inventory) :
    ((here.compare o there).map Comparison.path).Pairwise (· < ·) :=
  List.pairwise_map.2 ((increasing_compare o here there).imp Utf8.bytesLt_iff_lt.1)

/-- What two increasing lists share comes in the same order in both. -/
theorem filter_mem_comm {l m : List Text} (hl : l.Pairwise (· < ·)) (hm : m.Pairwise (· < ·)) :
    l.filter (· ∈ m) = m.filter (· ∈ l) := by
  refine (hl.filter _).eq_of_mem_iff (hm.filter _) fun path => ?_
  simp only [List.mem_filter, decide_eq_true_iff]
  exact and_comm

/-- **The two orders of paths are one.** The bytes of a text come before those of another
exactly when its code points do, texts with the same bytes are the same, and what sorts the
paths of a merge decides like what sorts those of a table. So the comparisons of a merge and
the table of an inventory, which it has exactly when its times are within the calendar, list
the paths that both have in the same order. -/
theorem path_orders_agree (o : Options) (here there i : Inventory) :
    (∀ a b : Text,
      (Utf8.bytes a < Utf8.bytes b ↔ a.points.map Point.code < b.points.map Point.code) ∧
      (Utf8.bytes a = Utf8.bytes b → a = b) ∧
      (Utf8.bytesLe a b = true ↔ a ≤ b)) ∧
    ((∃ v, i.toValue = .ok v) ↔ ∀ pair ∈ i.entries, pair.2.IsDated) ∧
    ∀ v, i.toValue = .ok v → ∃ fields, v = .table fields ∧
      let reported := (here.compare o there).map Comparison.path
      reported.filter (· ∈ Keyed.keys fields) = (Keyed.keys fields).filter (· ∈ reported) := by
  refine ⟨fun a b => ⟨Utf8.bytes_lt_iff, Utf8.bytes_injective, Utf8.bytesLe_iff_le⟩,
    Inventory.exists_toValue_iff, fun v hv => ?_⟩
  obtain ⟨fields, rfl, -⟩ := Inventory.toValue_eq_ok_iff.1 hv
  refine ⟨fields, rfl, filter_mem_comm (pairwise_paths_compare o here there) ?_⟩
  rw [Inventory.keys_of_toValue hv]
  exact Inventory.pairwise_sortedEntries i

/-- Paths of characters of one, three and four bytes, put in from the last to the first. -/
theorem path_orders_of_wide_characters :
    let file (name : Text) (size : Int) : Entry := { name, path := name, size }
    let here := Inventory.ofPairs [("😀", file "😀" 1), ("a", file "a" 2)]
    let there := Inventory.ofPairs [("～", file "～" 3)]
    let i := Inventory.ofPairs [("😀", file "😀" 1), ("～", file "～" 3), ("ab", file "ab" 4)]
    let reported := (here.compare {} there).map Comparison.path
    ∃ fields, i.toValue = .ok (.table fields) ∧ Keyed.keys fields = (["ab", "～", "😀"] : List Text) ∧
      reported.filter (· ∈ Keyed.keys fields) = (["～", "😀"] : List Text) := by
  intro file here there i reported
  have hentries : i.entries =
      ([("😀", file "😀" 1), ("～", file "～" 3), ("ab", file "ab" 4)] : List (Text × Entry)) := rfl
  have hdated : ∀ pair ∈ i.entries, pair.2.IsDated := by
    rw [hentries]
    decide
  obtain ⟨-, htable, hshared⟩ := path_orders_agree {} here there i
  obtain ⟨_, hv⟩ := htable.2 hdated
  obtain ⟨fields, rfl, hsame⟩ := hshared _ hv
  have hkeys : Keyed.keys fields = (["ab", "～", "😀"] : List Text) := by
    have hperm : (Keyed.keys i.sortedEntries).Perm (["😀", "～", "ab"] : List Text) :=
      (Inventory.sortedEntries_perm i).map _
    rw [Inventory.keys_of_toValue hv]
    exact (Inventory.pairwise_sortedEntries i).eq_of_mem_iff (by decide) fun _ =>
      (hperm.trans (List.reverse_perm (["ab", "～", "😀"] : List Text))).mem_iff
  have hcovers := (isReport_compare {} here there).covers
  have hface : ("😀" : Text) ∈ reported :=
    List.mem_map.2 ((hcovers "😀").2 ⟨.inl (by decide), by decide, .inl (by decide)⟩)
  have hwave : ("～" : Text) ∈ reported :=
    List.mem_map.2 ((hcovers "～").2 ⟨.inr (by decide), by decide, .inl (by decide)⟩)
  have hother : ("ab" : Text) ∉ reported := by
    intro hmem
    exact absurd ((hcovers "ab").1 (List.mem_map.1 hmem)).1 (by decide)
  refine ⟨fields, hv, hkeys, hsame.trans ?_⟩
  rw [hkeys]
  show (["ab", "～", "😀"] : List Text).filter (· ∈ reported) = _
  simp [hface, hwave, hother]

end Reconcile
