import Reconcile.Proofs.Comparison.Account

/-!
# What a merge looks at

Of an entry a merge looks at its size, at the instant of its time and at whether it is a
directory; of the options, at the patterns and at whether times and sizes count. Two runs that
agree on these agree on every status (`Status.ofSides_congr`), so on what becomes of each path
(`outline_ofPath_congr`, `isUnchanged_congr`), and with it on the whole merge: their lists have
the same paths in the same order, and their numbers are those of the same sets. Main
statement: `merge_of_resembling`.
-/

namespace Reconcile

open Time (Timestamp)

/-! ## What is looked at -/

/-- Two times stand for the same instant, or both are unknown. -/
def SameInstant : Option Timestamp → Option Timestamp → Prop :=
  Option.Rel fun t u => t.instant = u.instant

/-- Two entries look the same to a merge. -/
structure Entry.Resembles (e f : Entry) : Prop where
  size : e.size = f.size
  modified : SameInstant e.modified f.modified
  isDir : e.isDir = f.isDir

/-- Two inventories have the same paths, and under each of them entries that look the same to
a merge. -/
def Inventory.Resembles (i j : Inventory) : Prop :=
  ∀ path, Option.Rel Entry.Resembles (i.get? path) (j.get? path)

/-- Two options are the same to a merge. -/
structure Options.Resembles (o o' : Options) : Prop where
  compareTimestamp : o.compareTimestamp = o'.compareTimestamp
  compareSize : o.compareSize = o'.compareSize
  excludePatterns : o.excludePatterns = o'.excludePatterns

/-- A comparison without the entries of its two sides. -/
def Comparison.outline (c : Comparison) : Text × Status × Bool := (c.path, c.status, c.isDir)

variable {o o' : Options} {here here' there there' : Inventory} {path : Text}

/-! ## One path -/

section Sides

variable {e e' f f' : Option Entry}

/-- Clocks are compared by their instants. -/
theorem Time.clockOrder_congr {t t' u u' : Option Timestamp} (ht : SameInstant t t')
    (hu : SameInstant u u') (tolerance : Int) :
    clockOrder tolerance t u = clockOrder tolerance t' u' := by
  cases ht with
  | none => rfl
  | some ht =>
    cases hu with
    | none => rfl
    | some hu => rw [clockOrder, clockOrder, Timestamp.order, Timestamp.order, ht, hu]

theorem Status.ofSides_congr (ho : o.Resembles o') (he : Option.Rel Entry.Resembles e e')
    (hf : Option.Rel Entry.Resembles f f') : ofSides o e f = ofSides o' e' f' := by
  cases he with
  | none => cases hf <;> rfl
  | some he =>
    cases hf with
    | none => rfl
    | some hf =>
      simp only [ofSides, ofEntries, ho.compareTimestamp, ho.compareSize, he.size, hf.size,
        Time.clockOrder_congr he.modified hf.modified]

theorem isSome_congr (he : Option.Rel Entry.Resembles e e') : e.isSome = e'.isSome := by
  cases he <;> rfl

theorem any_isDir_congr (he : Option.Rel Entry.Resembles e e') :
    e.any Entry.isDir = e'.any Entry.isDir := by
  cases he with
  | none => rfl
  | some he => exact he.isDir

end Sides

/-- **What becomes of a path**, apart from the entries themselves, depends on what a merge
looks at. -/
theorem outline_ofPath_congr (ho : o.Resembles o') (hhere : here.Resembles here')
    (hthere : there.Resembles there') (path : Text) :
    (Comparison.ofPath o here there path).outline =
      (Comparison.ofPath o' here' there' path).outline := by
  simp only [Comparison.outline, Comparison.ofPath, any_isDir_congr (hhere path),
    any_isDir_congr (hthere path), Status.ofSides_congr ho (hhere path) (hthere path)]

theorem isReported_congr {c d : Comparison} (h : c.outline = d.outline) :
    c.isReported = d.isReported := by
  have hstatus : c.status = d.status := congrArg (·.2.1) h
  have hdir : c.isDir = d.isDir := congrArg (·.2.2) h
  rw [Comparison.isReported, Comparison.isReported, hstatus, hdir]

theorem isUnchanged_congr (ho : o.Resembles o') (hhere : here.Resembles here')
    (hthere : there.Resembles there') :
    IsUnchanged o here there path ↔ IsUnchanged o' here' there' path := by
  rw [isUnchanged_iff, isUnchanged_iff, ho.excludePatterns,
    isReported_congr (outline_ofPath_congr ho hhere hthere path)]

theorem Inventory.Resembles.mem_paths_iff {i j : Inventory} (h : i.Resembles j) :
    path ∈ i.paths ↔ path ∈ j.paths := by
  rw [Inventory.mem_paths_iff, Inventory.mem_paths_iff, isSome_congr (h path)]

/-! ## The merge -/

theorem mem_map_outline_compare {x : Text × Status × Bool} :
    x ∈ (here.compare o there).map Comparison.outline ↔
      (x.1 ∈ here.paths ∨ x.1 ∈ there.paths) ∧
        Exclusion.excludes o.excludePatterns x.1 = false ∧
        (Comparison.ofPath o here there x.1).isReported = true ∧
        x = (Comparison.ofPath o here there x.1).outline := by
  simp only [List.mem_map, mem_compare]
  constructor
  · rintro ⟨c, ⟨hpath, hkept, hreported, heq⟩, rfl⟩
    exact ⟨hpath, hkept, heq ▸ hreported, congrArg Comparison.outline heq⟩
  · rintro ⟨hpath, hkept, hreported, heq⟩
    exact ⟨Comparison.ofPath o here there x.1, ⟨hpath, hkept, hreported, rfl⟩, heq.symm⟩

theorem map_outline_compare_congr (ho : o.Resembles o') (hhere : here.Resembles here')
    (hthere : there.Resembles there') :
    (here.compare o there).map Comparison.outline =
      (here'.compare o' there').map Comparison.outline := by
  have hincreasing : ∀ (o : Options) (here there : Inventory), Utf8.Increasing Prod.fst
      ((here.compare o there).map Comparison.outline) := by
    intro o here there
    rw [Utf8.increasing_map]
    exact increasing_compare o here there
  refine (hincreasing o here there).eq_of_mem_iff (hincreasing o' here' there') fun x => ?_
  have houtline := outline_ofPath_congr ho hhere hthere x.1
  rw [mem_map_outline_compare, mem_map_outline_compare, hhere.mem_paths_iff,
    hthere.mem_paths_iff, ho.excludePatterns, isReported_congr houtline, houtline]

theorem pathSet_congr (hhere : here.Resembles here') (hthere : there.Resembles there') :
    here.pathSet there = here'.pathSet there' := by
  ext path
  rw [mem_pathSet, mem_pathSet, hhere.mem_paths_iff, hthere.mem_paths_iff]

theorem Inventory.Resembles.size_eq {i j : Inventory} (h : i.Resembles j) : i.size = j.size := by
  have hset : i.paths.toFinset = j.paths.toFinset := by
    ext path
    rw [List.mem_toFinset, List.mem_toFinset, h.mem_paths_iff]
  rw [← i.card_paths, hset, j.card_paths]

/-- **The status depends on sizes, instants and presence only.** Two merges of inventories with
the same paths on each side, whose entries agree on the size, on the instant of their time and
on whether they are directories, under options that agree on their patterns and on whether
times and sizes count, report the same paths with the same status in the same order, and their
log lines have the same numbers. Names, checksums, offsets, directions and the order of the
entries have no part in it. -/
theorem merge_of_resembling (ho : o.Resembles o') (hhere : here.Resembles here')
    (hthere : there.Resembles there') :
    let m := here.merge o there
    let m' := here'.merge o' there'
    m.comparisons.map Comparison.outline = m'.comparisons.map Comparison.outline ∧
      m.localEntries = m'.localEntries ∧ m.remoteEntries = m'.remoteEntries ∧
      m.excluded = m'.excluded ∧ m.identical = m'.identical ∧ m.logLine = m'.logLine := by
  intro m m'
  have houtlines : m.comparisons.map Comparison.outline =
      m'.comparisons.map Comparison.outline := map_outline_compare_congr ho hhere hthere
  have hlocal : m.localEntries = m'.localEntries := hhere.size_eq
  have hremote : m.remoteEntries = m'.remoteEntries := hthere.size_eq
  have hreported : m.comparisons.length = m'.comparisons.length := by
    simpa using congrArg List.length houtlines
  obtain ⟨hexcluded, hidentical, -⟩ := merge_accounts o here there
  obtain ⟨hexcluded', hidentical', -⟩ := merge_accounts o' here' there'
  have hexcluded'' : m.excluded = m'.excluded := by
    rw [hexcluded, hexcluded', pathSet_congr hhere hthere, ho.excludePatterns]
  have hidentical'' : m.identical = m'.identical := by
    rw [hidentical, hidentical', pathSet_congr hhere hthere]
    exact congrArg Finset.card (Finset.filter_congr fun _ _ => isUnchanged_congr ho hhere hthere)
  refine ⟨houtlines, hlocal, hremote, hexcluded'', hidentical'', ?_⟩
  rw [Merge.logLine, Merge.logLine, hlocal, hremote, hreported, hexcluded'', hidentical'']

/-- A file and a directory with other names, checksums and offsets, put in the other way round
and merged towards one side. -/
theorem merge_of_renamed_entries :
    let east : Time.Offset := ⟨3600000000, by decide, by decide⟩
    let file : Entry :=
      { name := "a", path := "a", size := 1, modified := some ⟨1, by decide, none⟩ }
    let file' : Entry :=
      { name := "", path := "../b", size := 1, checksum := some "0"
        modified := some ⟨3600000001, by decide, some east⟩ }
    let directory : Entry := { name := "d", path := "d", size := 0, isDir := true }
    let directory' : Entry := { name := "e", path := "d", size := 0, isDir := true }
    let here := Inventory.ofPairs [("a", file), ("d", directory)]
    let here' := Inventory.ofPairs [("d", directory'), ("a", file')]
    let there := Inventory.ofPairs [("a", { file with size := 2, modified := none })]
    let there' := Inventory.ofPairs [("a", { file' with size := 2, modified := none })]
    let o' : Options := { compareChecksum := true, direction := .localToRemote }
    Options.Resembles {} o' ∧ here.Resembles here' ∧ there.Resembles there' ∧
      (here.merge {} there).comparisons.map Comparison.outline =
        (here'.merge o' there').comparisons.map Comparison.outline ∧
      (here.merge {} there).logLine = (here'.merge o' there').logLine := by
  intro east file file' directory directory' here here' there there' o'
  have ho : Options.Resembles {} o' := ⟨rfl, rfl, rfl⟩
  have hfile : file.Resembles file' := ⟨rfl, .some (by decide), rfl⟩
  have hdirectory : directory.Resembles directory' := ⟨rfl, .none, rfl⟩
  have hhere : here.Resembles here' := by
    intro path
    have hentries : here.entries =
        ([("a", file), ("d", directory)] : List (Text × Entry)) := rfl
    have hentries' : here'.entries =
        ([("d", directory'), ("a", file')] : List (Text × Entry)) := rfl
    simp only [Inventory.get?, hentries, hentries', Keyed.get?_cons, Keyed.get?_nil]
    by_cases ha : path = ("a" : Text)
    · subst ha
      exact .some hfile
    · by_cases hd : path = ("d" : Text)
      · subst hd
        exact .some hdirectory
      · simp only [ha, hd, if_false]
        exact .none
  have hthere : there.Resembles there' := by
    intro path
    have hentries : there.entries =
        ([("a", { file with size := 2, modified := none })] : List (Text × Entry)) := rfl
    have hentries' : there'.entries =
        ([("a", { file' with size := 2, modified := none })] : List (Text × Entry)) := rfl
    simp only [Inventory.get?, hentries, hentries', Keyed.get?_cons, Keyed.get?_nil]
    by_cases ha : path = ("a" : Text)
    · subst ha
      exact .some ⟨rfl, .none, rfl⟩
    · simp only [ha, if_false]
      exact .none
  obtain ⟨houtlines, -, -, -, -, hline⟩ := merge_of_resembling ho hhere hthere
  exact ⟨ho, hhere, hthere, houtlines, hline⟩

end Reconcile
