import Reconcile.Comparison.Merge
import Reconcile.Proofs.Text.ByteOrder

/-!
# What a merge reports

A merge visits the paths of either inventory, in an order that nobody fixes, and
sorts what it found. This module says which comparisons it ends with: first for a
single path (`comparison?_ofPath`), then for a tour through any paths
(`mem_report`, `increasing_report`), then for the merge itself (`mem_compare`,
`increasing_compare`). Main statement: the comparisons of a merge are the one
list that meets `IsReport`, whatever the order of the visits and however the
inventories came about.
-/

namespace Reconcile

variable {o : Options} {here there : Inventory} {path : Text} {c : Comparison}

/-! ## One path -/

theorem isDir_ofPath_iff :
    (Comparison.ofPath o here there path).isDir = true ↔
      ∃ e, (here.get? path = some e ∨ there.get? path = some e) ∧ e.isDir = true := by
  simp only [Comparison.ofPath, Bool.or_eq_true, Option.any_eq_true]
  constructor
  · rintro (⟨e, he, hdir⟩ | ⟨e, he, hdir⟩)
    · exact ⟨e, .inl he, hdir⟩
    · exact ⟨e, .inr he, hdir⟩
  · rintro ⟨e, he | he, hdir⟩
    · exact .inl ⟨e, he, hdir⟩
    · exact .inr ⟨e, he, hdir⟩

/-- A path is reported unless it is excluded or not worth a report, and then with
its own comparison. -/
theorem comparison?_ofPath :
    (Finding.ofPath o here there path).comparison? = some c ↔
      Exclusion.excludes o.excludePatterns path = false ∧
        (Comparison.ofPath o here there path).isReported = true ∧
        c = Comparison.ofPath o here there path := by
  simp only [Finding.ofPath]
  cases hex : Exclusion.excludes o.excludePatterns path with
  | true => simp [Finding.comparison?]
  | false =>
    cases hrep : (Comparison.ofPath o here there path).isReported with
    | true => simp [Finding.comparison?, eq_comm]
    | false => simp [Finding.comparison?]

theorem pathLe_trans (c d e : Comparison) (h : c.pathLe d = true) (h' : d.pathLe e = true) :
    c.pathLe e = true := Utf8.bytesLe_trans h h'

theorem pathLe_total (c d : Comparison) : (c.pathLe d || d.pathLe c) = true :=
  Utf8.bytesLe_total c.path d.path

/-! ## A tour through some paths -/

/-- What has been found on the way: the comparisons in the order of the visits,
and how many paths were left out. -/
structure Tour where
  found : List Comparison := []
  excluded : Nat := 0
  identical : Nat := 0

namespace Tour

/-- The tour after one more visit. -/
def visit (o : Options) (here there : Inventory) (t : Tour) (path : Text) : Tour :=
  match Finding.ofPath o here there path with
  | .excluded => { t with excluded := t.excluded + 1 }
  | .identical => { t with identical := t.identical + 1 }
  | .reported c => { t with found := t.found ++ [c] }

/-- The tour that visits the paths in the order given. -/
def through (o : Options) (here there : Inventory) (order : List Text) : Tour :=
  order.foldl (visit o here there) {}

/-- The comparisons of a tour in the order of the bytes of their paths. -/
def report (t : Tour) : List Comparison := t.found.mergeSort Comparison.pathLe

/-- One visit adds what it finds to the tour. -/
theorem visit_eq (t : Tour) :
    let finding := Finding.ofPath o here there path
    t.visit o here there path =
      { found := t.found ++ finding.comparison?.toList
        excluded := t.excluded + if finding.isExcluded then 1 else 0
        identical := t.identical + if finding.isIdentical then 1 else 0 } := by
  cases h : Finding.ofPath o here there path <;>
    simp [visit, h, Finding.comparison?, Finding.isExcluded, Finding.isIdentical]

/-- **The loop invariant**: after some visits a tour holds what it held before and
the findings of those visits, in their order. -/
theorem foldl_visit (order : List Text) (t : Tour) :
    let findings := order.map (Finding.ofPath o here there)
    order.foldl (visit o here there) t =
      { found := t.found ++ findings.filterMap Finding.comparison?
        excluded := t.excluded + findings.countP Finding.isExcluded
        identical := t.identical + findings.countP Finding.isIdentical } := by
  induction order generalizing t with
  | nil => simp
  | cons path rest ih =>
    simp only [List.foldl_cons, ih, visit_eq, List.map_cons, List.filterMap_cons,
      List.countP_cons, Tour.mk.injEq]
    refine ⟨?_, by omega, by omega⟩
    cases (Finding.ofPath o here there path).comparison? <;> simp

theorem found_through (order : List Text) :
    (through o here there order).found =
      order.filterMap fun path => (Finding.ofPath o here there path).comparison? := by
  simp only [through, foldl_visit, List.nil_append, List.filterMap_map]
  rfl

theorem mem_report {order : List Text} :
    c ∈ (through o here there order).report ↔
      c.path ∈ order ∧ Exclusion.excludes o.excludePatterns c.path = false ∧
        c.isReported = true ∧ c = Comparison.ofPath o here there c.path := by
  simp only [report, List.mem_mergeSort, found_through, List.mem_filterMap, comparison?_ofPath]
  constructor
  · rintro ⟨path, hmem, hex, hrep, rfl⟩
    exact ⟨hmem, hex, hrep, rfl⟩
  · rintro ⟨hmem, hex, hrep, heq⟩
    exact ⟨c.path, hmem, hex, heq ▸ hrep, heq⟩

/-- A tour that comes to no path twice reports in strictly increasing order. -/
theorem increasing_report {order : List Text} (hnodup : order.Nodup) :
    Utf8.Increasing Comparison.path (through o here there order).report := by
  have hle : (through o here there order).report.Pairwise (fun c d => c.pathLe d = true) :=
    List.pairwise_mergeSort pathLe_trans pathLe_total _
  have hpaths : (through o here there order).report.Pairwise (fun c d => c.path ≠ d.path) := by
    -- sorting moves the comparisons only, and each visit had its own path
    refine (List.Perm.pairwise_iff (fun h => h.symm) (List.mergeSort_perm _ _)).2 ?_
    rw [found_through, List.pairwise_filterMap]
    refine hnodup.imp ?_
    intro path path' hne c hc d hd
    obtain ⟨_, _, rfl⟩ := comparison?_ofPath.1 hc
    obtain ⟨_, _, rfl⟩ := comparison?_ofPath.1 hd
    exact hne
  refine (hle.and hpaths).imp ?_
  intro c d h
  exact Utf8.bytesLt_of_bytesLe h.1 h.2

end Tour

/-! ## The merge -/

theorem mem_unionPaths : path ∈ here.unionPaths there ↔ path ∈ here.paths ∨ path ∈ there.paths := by
  simp only [Inventory.unionPaths, List.mem_append, List.mem_filter, Bool.not_eq_true',
    Inventory.contains, Inventory.mem_paths_iff]
  cases (here.get? path).isSome <;> simp

theorem nodup_unionPaths (here there : Inventory) : (here.unionPaths there).Nodup := by
  refine List.nodup_append.2 ⟨here.nodup, there.nodup.filter _, ?_⟩
  rintro path hhere path' hthere rfl
  rw [List.mem_filter, Inventory.contains, Inventory.mem_paths_iff.1 hhere] at hthere
  exact Bool.noConfusion hthere.2

theorem merge_eq_through (o : Options) (here there : Inventory) :
    let t := Tour.through o here there (here.unionPaths there)
    here.merge o there = ⟨t.report, here.size, there.size, t.excluded, t.identical⟩ := by
  simp [Inventory.merge, Tour.through, Tour.foldl_visit, Tour.report]

theorem mem_compare :
    c ∈ here.compare o there ↔
      (c.path ∈ here.paths ∨ c.path ∈ there.paths) ∧
        Exclusion.excludes o.excludePatterns c.path = false ∧
        c.isReported = true ∧ c = Comparison.ofPath o here there c.path := by
  rw [Inventory.compare, merge_eq_through, Tour.mem_report, mem_unionPaths]

theorem increasing_compare (o : Options) (here there : Inventory) :
    Utf8.Increasing Comparison.path (here.compare o there) := by
  rw [Inventory.compare, merge_eq_through]
  exact Tour.increasing_report (nodup_unionPaths here there)

/-- What a list of comparisons has to be to report on two inventories. -/
structure IsReport (o : Options) (here there : Inventory) (cs : List Comparison) : Prop where
  covers : ∀ path, (∃ c ∈ cs, c.path = path) ↔
    (path ∈ here.paths ∨ path ∈ there.paths) ∧
      Exclusion.excludes o.excludePatterns path = false ∧
      (Status.ofSides o (here.get? path) (there.get? path) ≠ .identical ∨
        ∃ e, (here.get? path = some e ∨ there.get? path = some e) ∧ e.isDir = true)
  here_eq : ∀ c ∈ cs, c.here = here.get? c.path
  there_eq : ∀ c ∈ cs, c.there = there.get? c.path
  status_eq : ∀ c ∈ cs, c.status = .ofSides o (here.get? c.path) (there.get? c.path)
  isDir_iff : ∀ c ∈ cs, c.isDir = true ↔
    ∃ e, (here.get? c.path = some e ∨ there.get? c.path = some e) ∧ e.isDir = true
  increasing : Utf8.Increasing Comparison.path cs

theorem isReported_ofPath_iff :
    (Comparison.ofPath o here there path).isReported = true ↔
      Status.ofSides o (here.get? path) (there.get? path) ≠ .identical ∨
        ∃ e, (here.get? path = some e ∨ there.get? path = some e) ∧ e.isDir = true := by
  rw [Comparison.isReported, Bool.or_eq_true, isDir_ofPath_iff, decide_eq_true_iff]
  rfl

/-- A report holds of each path what a merge makes of it. -/
theorem IsReport.mem_iff {cs : List Comparison} (h : IsReport o here there cs) :
    c ∈ cs ↔
      (c.path ∈ here.paths ∨ c.path ∈ there.paths) ∧
        Exclusion.excludes o.excludePatterns c.path = false ∧
        c.isReported = true ∧ c = Comparison.ofPath o here there c.path := by
  have hofPath : ∀ d ∈ cs, d = Comparison.ofPath o here there d.path := by
    intro d hd
    have hdir : d.isDir = (Comparison.ofPath o here there d.path).isDir := by
      rw [Bool.eq_iff_iff, isDir_ofPath_iff]
      exact h.isDir_iff d hd
    obtain ⟨path, status, entry, entry', isDir⟩ := d
    simp only [Comparison.ofPath, Comparison.mk.injEq, true_and]
    exact ⟨h.status_eq _ hd, h.here_eq _ hd, h.there_eq _ hd, hdir⟩
  constructor
  · intro hc
    obtain ⟨hpath, hex, hrep⟩ := (h.covers c.path).1 ⟨c, hc, rfl⟩
    refine ⟨hpath, hex, ?_, hofPath c hc⟩
    rw [hofPath c hc]
    exact isReported_ofPath_iff.2 hrep
  · rintro ⟨hpath, hex, hrep, heq⟩
    have hrep' : (Comparison.ofPath o here there c.path).isReported = true := heq ▸ hrep
    obtain ⟨d, hd, hdpath⟩ := (h.covers c.path).2 ⟨hpath, hex, isReported_ofPath_iff.1 hrep'⟩
    have hdc : d = c := by rw [hofPath d hd, hdpath, ← heq]
    exact hdc ▸ hd

theorem isReport_compare (o : Options) (here there : Inventory) :
    IsReport o here there (here.compare o there) where
  covers path := by
    constructor
    · rintro ⟨c, hc, rfl⟩
      obtain ⟨hpath, hex, hrep, heq⟩ := mem_compare.1 hc
      exact ⟨hpath, hex, isReported_ofPath_iff.1 (heq ▸ hrep)⟩
    · rintro ⟨hpath, hex, hrep⟩
      exact ⟨Comparison.ofPath o here there path,
        mem_compare.2 ⟨hpath, hex, isReported_ofPath_iff.2 hrep, rfl⟩, rfl⟩
  here_eq c hc := by rw [(mem_compare.1 hc).2.2.2]; rfl
  there_eq c hc := by rw [(mem_compare.1 hc).2.2.2]; rfl
  status_eq c hc := by rw [(mem_compare.1 hc).2.2.2]; rfl
  isDir_iff c hc := by
    rw [(mem_compare.1 hc).2.2.2]
    exact isDir_ofPath_iff
  increasing := increasing_compare o here there

theorem IsReport.eq {cs cs' : List Comparison} (h : IsReport o here there cs)
    (h' : IsReport o here there cs') : cs = cs' :=
  h.increasing.eq_of_mem_iff h'.increasing fun _ => h.mem_iff.trans h'.mem_iff.symm

/-- A tour that comes to each path of either side once reports what the merge does. -/
theorem report_through_eq_compare {order : List Text} (hnodup : order.Nodup)
    (horder : ∀ path, path ∈ order ↔ path ∈ here.paths ∨ path ∈ there.paths) :
    (Tour.through o here there order).report = here.compare o there := by
  refine (Tour.increasing_report hnodup).eq_of_mem_iff (increasing_compare o here there) ?_
  intro c
  rw [Tour.mem_report, mem_compare, horder]

/-- For the comparison of a path only what the inventories answer for it counts. -/
theorem mem_compare_congr {here' there' : Inventory} (hhere : here'.get? c.path = here.get? c.path)
    (hthere : there'.get? c.path = there.get? c.path) :
    c ∈ here'.compare o there' ↔ c ∈ here.compare o there := by
  rw [mem_compare, mem_compare]
  simp only [Comparison.ofPath, Inventory.mem_paths_iff, hhere, hthere]

/-- Only what the inventories answer counts, not how they came about. -/
theorem compare_congr {here' there' : Inventory} (hhere : ∀ path, here'.get? path = here.get? path)
    (hthere : ∀ path, there'.get? path = there.get? path) :
    here'.compare o there' = here.compare o there := by
  refine (increasing_compare o here' there').eq_of_mem_iff (increasing_compare o here there) ?_
  intro c
  exact mem_compare_congr (hhere c.path) (hthere c.path)

/-- **What a merge reports**: exactly one list of comparisons is a report on two
inventories, and the merge returns it, in whatever order the paths of the two
sides are visited and in whatever order the entries of a side were put in. -/
theorem compare_eq_iff_isReport (o : Options) (here there : Inventory) :
    (∀ cs, here.compare o there = cs ↔ IsReport o here there cs) ∧
    (∀ order : List Text, order.Nodup →
      (∀ path, path ∈ order ↔ path ∈ here.paths ∨ path ∈ there.paths) →
      (Tour.through o here there order).report = here.compare o there) ∧
    ∀ here' there' : Inventory, (∀ path, here'.get? path = here.get? path) →
      (∀ path, there'.get? path = there.get? path) →
      here'.compare o there' = here.compare o there := by
  refine ⟨fun cs => ⟨?_, (isReport_compare o here there).eq⟩, ?_, ?_⟩
  · rintro rfl
    exact isReport_compare o here there
  · exact fun _ => report_through_eq_compare
  · exact fun _ _ => compare_congr

/-- Two paths on one side and one of them on the other, visited and put in the other
way round. -/
theorem report_of_reversed_order :
    let file (name : Text) (size : Int) : Entry := { name, path := name, size }
    let here := Inventory.ofPairs [("b", file "b" 2), ("a", file "a" 1)]
    let there := Inventory.ofPairs [("b", file "b" 3)]
    let here' := Inventory.ofPairs [("a", file "a" 1), ("b", file "b" 2)]
    (Tour.through {} here there ["a", "b"]).report = here.compare {} there ∧
      here'.compare {} there = here.compare {} there := by
  intro file here there here'
  refine ⟨(compare_eq_iff_isReport {} here there).2.1 ["a", "b"] (by decide) ?_,
    (compare_eq_iff_isReport {} here there).2.2 here' there ?_ (fun _ => rfl)⟩
  · intro path
    have hhere : here.paths = (["b", "a"] : List Text) := rfl
    have hthere : there.paths = (["b"] : List Text) := rfl
    simp only [hhere, hthere, List.mem_cons, List.not_mem_nil, or_false]
    constructor
    · rintro (rfl | rfl)
      · exact .inl (.inr rfl)
      · exact .inr rfl
    · rintro ((rfl | rfl) | rfl)
      · exact .inr rfl
      · exact .inl rfl
      · exact .inr rfl
  · intro path
    have hhere : here.entries =
        ([("b", file "b" 2), ("a", file "a" 1)] : List (Text × Entry)) := rfl
    have hhere' : here'.entries =
        ([("a", file "a" 1), ("b", file "b" 2)] : List (Text × Entry)) := rfl
    simp only [Inventory.get?, hhere, hhere', Keyed.get?_cons, Keyed.get?_nil]
    by_cases ha : path = ("a" : Text)
    · simp [ha]
    · simp [ha]

end Reconcile
