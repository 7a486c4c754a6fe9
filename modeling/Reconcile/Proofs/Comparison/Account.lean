import Mathlib.Data.Finset.Card
import Mathlib.Data.Finset.Lattice.Basic
import Reconcile.Proofs.Comparison.Merge

/-!
# The account of a merge

Each path that a merge visits is excluded, found identical or reported, and is counted as the
one thing it is. So the numbers of a tour are those of the set of paths it has been to: one
visit to a new path keeps them so (`Tour.Accounts.visit`), and with it a whole tour
(`Tour.accounts_through`). Main statement: `merge_accounts_for_paths`.
-/

namespace Reconcile

variable {o : Options} {here there : Inventory} {path : Text}

/-- A path that is left out as identical: it is not excluded, it is the same on both sides, and
none of them has a directory there. -/
def IsUnchanged (o : Options) (here there : Inventory) (path : Text) : Prop :=
  Exclusion.excludes o.excludePatterns path = false ∧
    Status.ofSides o (here.get? path) (there.get? path) = .identical ∧
    (∀ e ∈ here.get? path, e.isDir = false) ∧ ∀ e ∈ there.get? path, e.isDir = false

instance : DecidablePred (IsUnchanged o here there) := fun _ => inferInstanceAs (Decidable (_ ∧ _))

/-! ## One path -/

theorem isExcluded_ofPath :
    (Finding.ofPath o here there path).isExcluded =
      Exclusion.excludes o.excludePatterns path := by
  rw [Finding.ofPath]
  cases Exclusion.excludes o.excludePatterns path with
  | true => rfl
  | false =>
    simp only [Bool.false_eq_true, if_false]
    split <;> rfl

/-- A path is left out as identical if no pattern matches it and its comparison is not worth a
report. -/
theorem isUnchanged_iff :
    IsUnchanged o here there path ↔ Exclusion.excludes o.excludePatterns path = false ∧
      (Comparison.ofPath o here there path).isReported = false := by
  rw [← Bool.not_eq_true (Comparison.isReported _), isReported_ofPath_iff]
  simp only [IsUnchanged, not_or, not_exists, not_and, or_imp, forall_and, Bool.not_eq_true,
    not_not, Option.mem_def]

theorem isIdentical_ofPath_iff :
    (Finding.ofPath o here there path).isIdentical = true ↔ IsUnchanged o here there path := by
  rw [isUnchanged_iff, Finding.ofPath]
  cases Exclusion.excludes o.excludePatterns path with
  | true => simp [Finding.isIdentical]
  | false =>
    cases hrep : (Comparison.ofPath o here there path).isReported <;>
      simp [Finding.isIdentical, hrep]

/-- A path is counted as one thing. -/
theorem Finding.counted_once (f : Finding) :
    f.comparison?.toList.length + (if f.isExcluded then 1 else 0) +
      (if f.isIdentical then 1 else 0) = 1 := by
  cases f <;> rfl

/-! ## A tour -/

namespace Tour

/-- The numbers of a tour are those of the set of paths it has been to. -/
structure Accounts (o : Options) (here there : Inventory) (visited : Finset Text) (t : Tour) :
    Prop where
  excluded : t.excluded =
    (visited.filter fun path => Exclusion.excludes o.excludePatterns path = true).card
  identical : t.identical = (visited.filter (IsUnchanged o here there)).card
  total : t.found.length + t.excluded + t.identical = visited.card

variable {visited : Finset Text} {t : Tour} {order : List Text}

theorem accounts_empty (o : Options) (here there : Inventory) : Accounts o here there ∅ {} :=
  ⟨rfl, rfl, rfl⟩

/-- **One visit** to a path where the tour has not been adds it to the account. -/
theorem Accounts.visit (h : t.Accounts o here there visited) (hnew : path ∉ visited) :
    (t.visit o here there path).Accounts o here there (insert path visited) := by
  have hcard : ∀ (p : Text → Prop) [DecidablePred p],
      ((insert path visited).filter p).card =
        (visited.filter p).card + if p path then 1 else 0 := by
    intro p _
    rw [Finset.filter_insert]
    split
    · exact Finset.card_insert_of_notMem fun hmem => hnew (Finset.mem_of_mem_filter path hmem)
    · rfl
  have hvisit : t.visit o here there path = _ := visit_eq t
  refine ⟨?_, ?_, ?_⟩
  · rw [hvisit, hcard, ← h.excluded, isExcluded_ofPath]
  · simp only [hvisit, hcard, ← h.identical, isIdentical_ofPath_iff]
  · have honce := (Finding.ofPath o here there path).counted_once
    simp only [hvisit, Finset.card_insert_of_notMem hnew, ← h.total, List.length_append]
    omega

/-- **A whole tour**, from any account on, through paths where it has not been. -/
theorem Accounts.foldl_visit (h : t.Accounts o here there visited) (hnodup : order.Nodup)
    (hnew : ∀ path ∈ order, path ∉ visited) :
    (order.foldl (Tour.visit o here there) t).Accounts o here there
      (visited ∪ order.toFinset) := by
  induction order generalizing t visited with
  | nil => simpa using h
  | cons path rest ih =>
    obtain ⟨hpath, hrest⟩ := List.nodup_cons.1 hnodup
    have hvisit := h.visit (hnew path List.mem_cons_self)
    have hset : visited ∪ (path :: rest).toFinset = insert path visited ∪ rest.toFinset := by
      rw [List.toFinset_cons, Finset.union_insert, Finset.insert_union]
    rw [List.foldl_cons, hset]
    refine ih hvisit hrest fun path' hpath' hvisited => ?_
    rcases Finset.mem_insert.1 hvisited with rfl | hvisited
    · exact hpath hpath'
    · exact hnew path' (List.mem_cons_of_mem _ hpath') hvisited

theorem accounts_through (o : Options) (here there : Inventory) (hnodup : order.Nodup) :
    (through o here there order).Accounts o here there order.toFinset := by
  have h := (accounts_empty o here there).foldl_visit hnodup fun _ _ => Finset.notMem_empty _
  rwa [Finset.empty_union] at h

end Tour

/-! ## The merge -/

/-- An inventory has as many entries as paths. -/
theorem Inventory.card_paths (i : Inventory) : i.paths.toFinset.card = i.size :=
  (List.toFinset_card_of_nodup i.nodup).trans (List.length_map _)

/-- The paths of either inventory as a set, in which one that both have stands once. -/
def Inventory.pathSet (here there : Inventory) : Finset Text :=
  here.paths.toFinset ∪ there.paths.toFinset

theorem mem_pathSet : path ∈ here.pathSet there ↔ path ∈ here.paths ∨ path ∈ there.paths := by
  rw [Inventory.pathSet, Finset.mem_union, List.mem_toFinset, List.mem_toFinset]

/-- A tour that comes to each path of either side once is what the merge is made of. -/
theorem merge_eq_of_order (o : Options) {order : List Text} (hnodup : order.Nodup)
    (horder : ∀ path, path ∈ order ↔ path ∈ here.paths ∨ path ∈ there.paths) :
    let t := Tour.through o here there order
    here.merge o there = ⟨t.report, here.size, there.size, t.excluded, t.identical⟩ ∧
      t.Accounts o here there (here.pathSet there) := by
  have hset : ∀ {l : List Text}, (∀ path, path ∈ l ↔ path ∈ here.paths ∨ path ∈ there.paths) →
      l.toFinset = here.pathSet there := by
    intro l hl
    ext path
    rw [List.mem_toFinset, hl, mem_pathSet]
  have hunion := Tour.accounts_through o here there (nodup_unionPaths here there)
  have haccounts := Tour.accounts_through o here there hnodup
  rw [hset fun _ => mem_unionPaths] at hunion
  rw [hset horder] at haccounts
  refine ⟨?_, haccounts⟩
  -- the numbers of both tours are those of the same set, and so are their reports
  have hreport : (Tour.through o here there (here.unionPaths there)).report =
      (Tour.through o here there order).report := by
    rw [report_through_eq_compare hnodup horder,
      report_through_eq_compare (nodup_unionPaths here there) fun _ => mem_unionPaths]
  rw [merge_eq_through, hreport, hunion.excluded, hunion.identical, haccounts.excluded,
    haccounts.identical]

theorem merge_accounts (o : Options) (here there : Inventory) :
    (here.merge o there).excluded = ((here.pathSet there).filter fun path =>
      Exclusion.excludes o.excludePatterns path = true).card ∧
    (here.merge o there).identical = ((here.pathSet there).filter
      (IsUnchanged o here there)).card ∧
    (here.merge o there).comparisons.length + (here.merge o there).excluded +
      (here.merge o there).identical = (here.pathSet there).card := by
  obtain ⟨hmerge, haccounts⟩ := merge_eq_of_order o (nodup_unionPaths here there)
    fun _ => mem_unionPaths
  rw [hmerge, Tour.report, List.length_mergeSort]
  exact ⟨haccounts.excluded, haccounts.identical, haccounts.total⟩

/-- **The log line accounts for every path**: its numbers are those of the entries on either
side, of the comparisons reported, of the paths of either side that a pattern matches, and of
the others that are the same on both sides and no directories. A path that both sides have is
one path, and each path is reported, excluded or identical. The merge is the same in whatever
order the paths are visited. -/
theorem merge_accounts_for_paths (o : Options) (here there : Inventory) :
    let m := here.merge o there
    let paths := here.pathSet there
    let excluded := paths.filter fun path => Exclusion.excludes o.excludePatterns path = true
    let identical := paths.filter (IsUnchanged o here there)
    (m.localEntries = here.paths.toFinset.card ∧ m.remoteEntries = there.paths.toFinset.card ∧
      m.comparisons = here.compare o there ∧ m.excluded = excluded.card ∧
      m.identical = identical.card) ∧
    m.logLine =
      s!"Compared {here.paths.toFinset.card} local / " ++
        s!"{there.paths.toFinset.card} remote entries: " ++
        s!"{(here.compare o there).length} reported, " ++
        s!"{excluded.card} excluded, {identical.card} identical" ∧
    (here.compare o there).length + excluded.card + identical.card = paths.card ∧
    ∀ order : List Text, order.Nodup →
      (∀ path, path ∈ order ↔ path ∈ here.paths ∨ path ∈ there.paths) →
      let t := Tour.through o here there order
      m = ⟨t.report, here.size, there.size, t.excluded, t.identical⟩ := by
  intro m paths excluded identical
  obtain ⟨hexcluded, hidentical, htotal⟩ := merge_accounts o here there
  refine ⟨⟨here.card_paths.symm, there.card_paths.symm, rfl, hexcluded, hidentical⟩, ?_, ?_, ?_⟩
  · rw [Inventory.card_paths, Inventory.card_paths, Merge.logLine, hexcluded, hidentical]
    simp only [toString, String.append_assoc]
    rfl
  · rwa [hexcluded, hidentical] at htotal
  · exact fun order hnodup horder => (merge_eq_of_order o hnodup horder).1

/-- Paths of one side and of both, of which one is excluded, one is the same and one is a
directory, visited from the last to the first. -/
theorem accounts_of_reversed_order :
    let file (name : Text) (size : Int) : Entry := { name, path := name, size }
    let directory (name : Text) : Entry := { name, path := name, size := 0, isDir := true }
    let here := Inventory.ofPairs
      [("b", file "b" 1), (".git/x", file "x" 2), ("a", file "a" 1), ("d", directory "d")]
    let there := Inventory.ofPairs [("a", file "a" 1), ("c", file "c" 3), ("d", directory "d")]
    let order : List Text := ["d", "c", "b", "a", ".git/x"]
    let t := Tour.through {} here there order
    order.Nodup ∧ (∀ path, path ∈ order ↔ path ∈ here.paths ∨ path ∈ there.paths) ∧
      here.merge {} there = ⟨t.report, 4, 3, t.excluded, t.identical⟩ ∧
      t.excluded = 1 ∧ t.identical = 1 := by
  intro file directory here there order t
  have hnodup : order.Nodup := by decide
  have horder : ∀ path, path ∈ order ↔ path ∈ here.paths ∨ path ∈ there.paths := by
    have hhere : here.paths = (["b", ".git/x", "a", "d"] : List Text) := rfl
    have hthere : there.paths = (["a", "c", "d"] : List Text) := rfl
    intro path
    simp only [hhere, hthere, order, List.mem_cons, List.not_mem_nil, or_false]
    tauto
  obtain ⟨-, -, -, horders⟩ := merge_accounts_for_paths {} here there
  exact ⟨hnodup, horder, horders order hnodup horder, by decide, by decide⟩

end Reconcile
