import Reconcile.Proofs.Comparison.Refinement
import Reconcile.Proofs.Status

/-!
# What a list of comparisons stands for

From the merge on, and through any steps after it, a list of comparisons has one
record for a path at most, in the order of the bytes of the paths, and each record
shows what the two inventories hold for its path (`Comparison.Represents`). Its status
tells which sides those are. A merge starts with such a list
(`represents_compare`), and one step keeps it that way (`Represents.apply`). Main
statement: `represents_refine`.
-/

namespace Reconcile

/-- What a comparison has to be after some steps from a merge of two inventories. -/
structure Comparison.Represents (here there : Inventory) (steps : List Refinement)
    (c : Comparison) : Prop where
  here_eq : c.here = here.get? c.path
  there_eq : c.there = there.get? c.path
  present : c.here.isSome = true ∨ c.there.isSome = true
  isDir_eq : c.isDir = (c.here.any Entry.isDir || c.there.any Entry.isDir)
  localOnly_iff : c.status = .localOnly ↔ c.there = none
  remoteOnly_iff : c.status = .remoteOnly ↔ c.here = none
  identical : c.status = .identical → c.isDir = true
  conflict : c.status = .conflict → c.onBothSides = true ∧
    ∃ j, Refinement.journal j ∈ steps ∧ c.path ∈ j.localChanged ∧ c.path ∈ j.remoteChanged

/-- What a list of comparisons has to be after some steps from a merge. -/
structure Represents (here there : Inventory) (steps : List Refinement) (cs : List Comparison) :
    Prop where
  increasing : Utf8.Increasing Comparison.path cs
  each : ∀ c ∈ cs, c.Represents here there steps

variable {o : Options} {here there : Inventory} {steps steps' : List Refinement}
  {cs : List Comparison} {c c' : Comparison}

theorem Comparison.onBothSides_iff :
    c.onBothSides = true ↔ c.here.isSome = true ∧ c.there.isSome = true := by
  rw [onBothSides, Bool.and_eq_true]

theorem Journal.bothChanged_iff {j : Journal} {path : Text} :
    j.bothChanged path = true ↔ path ∈ j.localChanged ∧ path ∈ j.remoteChanged := by
  rw [bothChanged, Bool.and_eq_true, List.contains_iff_mem, List.contains_iff_mem]

theorem Journal.path_mark (j : Journal) (c : Comparison) : (j.mark c).path = c.path := by
  rw [mark]
  split <;> rfl

/-! ## The merge -/

namespace Status

variable {here there : Option Entry}

/-- A side is missing exactly when the status says that the other is alone. -/
theorem ofSides_eq_localOnly_iff_of_present (h : here.isSome = true ∨ there.isSome = true) :
    ofSides o here there = .localOnly ↔ there = none := by
  rw [ofSides_eq_localOnly_iff, and_iff_right_iff_imp]
  rintro rfl
  exact h.resolve_right (by decide)

theorem ofSides_eq_remoteOnly_iff_of_present (h : here.isSome = true ∨ there.isSome = true) :
    ofSides o here there = .remoteOnly ↔ here = none := by
  rw [ofSides_swap o there here, swap_eq_iff]
  exact ofSides_eq_localOnly_iff_of_present h.symm

end Status

/-- The comparison of a path that is reported. -/
theorem Comparison.represents_ofPath {path : Text}
    (hknown : path ∈ here.paths ∨ path ∈ there.paths)
    (hreported : (ofPath o here there path).isReported = true) :
    (ofPath o here there path).Represents here there [] := by
  rw [Inventory.mem_paths_iff, Inventory.mem_paths_iff] at hknown
  constructor
  case here_eq => rfl
  case there_eq => rfl
  case present => exact hknown
  case isDir_eq => rfl
  case localOnly_iff => exact Status.ofSides_eq_localOnly_iff_of_present hknown
  case remoteOnly_iff => exact Status.ofSides_eq_remoteOnly_iff_of_present hknown
  case identical =>
    intro hstatus
    rw [isReported, hstatus] at hreported
    exact hreported
  case conflict =>
    intro hstatus
    exact absurd hstatus (Status.ofSides_ne_conflict o _ _)

theorem represents_compare (o : Options) (here there : Inventory) :
    Represents here there [] (here.compare o there) where
  increasing := increasing_compare o here there
  each c hc := by
    obtain ⟨hknown, -, hreported, heq⟩ := mem_compare.1 hc
    rw [heq] at hreported ⊢
    exact Comparison.represents_ofPath hknown hreported

/-! ## The steps after it -/

/-- A journal changes no path, and a direction only leaves comparisons out. -/
theorem increasing_apply (h : Utf8.Increasing Comparison.path cs) (step : Refinement) :
    Utf8.Increasing Comparison.path (step.apply cs) := by
  cases step with
  | journal j =>
    have hpath : Comparison.path ∘ j.mark = Comparison.path := funext j.path_mark
    rw [← hpath] at h
    exact Utf8.increasing_map.2 h
  | towards d => exact h.sublist List.filter_sublist

/-- What is left of a comparison stands for the same path. -/
theorem Comparison.Represents.leftBy (h : c.Represents here there steps)
    (hleft : c.LeftBy steps' c') : c'.Represents here there (steps ++ steps') := by
  constructor
  case here_eq => rw [hleft.here, hleft.path, h.here_eq]
  case there_eq => rw [hleft.there, hleft.path, h.there_eq]
  case present =>
    rw [hleft.here, hleft.there]
    exact h.present
  case isDir_eq => rw [hleft.isDir, hleft.here, hleft.there, h.isDir_eq]
  case localOnly_iff =>
    rw [hleft.there]
    rcases hleft.status with heq | ⟨hconflict, hboth, -⟩
    · rw [heq]
      exact h.localOnly_iff
    · -- what became a conflict has both sides
      have hthere := Option.isSome_iff_ne_none.1 (onBothSides_iff.1 hboth).2
      simp [hconflict, hthere]
  case remoteOnly_iff =>
    rw [hleft.here]
    rcases hleft.status with heq | ⟨hconflict, hboth, -⟩
    · rw [heq]
      exact h.remoteOnly_iff
    · have hhere := Option.isSome_iff_ne_none.1 (onBothSides_iff.1 hboth).1
      simp [hconflict, hhere]
  case identical =>
    intro hidentical
    rw [hleft.isDir]
    rcases hleft.status with heq | ⟨hconflict, -⟩
    · exact h.identical (heq ▸ hidentical)
    · rw [hconflict] at hidentical
      cases hidentical
  case conflict =>
    intro hconflict
    rw [hleft.onBothSides_eq, hleft.path]
    rcases hleft.status with heq | ⟨-, hboth, j, hj, hchanged⟩
    · obtain ⟨hboth, j, hj, hchanged⟩ := h.conflict (heq ▸ hconflict)
      exact ⟨hboth, j, List.mem_append_left _ hj, hchanged⟩
    · exact ⟨hboth, j, List.mem_append_right _ hj, Journal.bothChanged_iff.1 hchanged⟩

/-- **One step** keeps the list as it has to be. -/
theorem Represents.apply (h : Represents here there steps cs) (step : Refinement) :
    Represents here there (steps ++ [step]) (step.apply cs) where
  increasing := increasing_apply h.increasing step
  each c' hc' := by
    obtain ⟨c, hc, hleft⟩ := mem_apply hc'
    exact (h.each c hc).leftBy hleft

/-- **Any number of steps**, in any order. -/
theorem Represents.refine (h : Represents here there steps cs) (steps' : List Refinement) :
    Represents here there (steps ++ steps') (refine steps' cs) := by
  induction steps' generalizing steps cs with
  | nil => rwa [List.append_nil]
  | cons step rest ih =>
    rw [refine_cons, ← List.singleton_append, ← List.append_assoc]
    exact ih (h.apply step)

/-- **The representation invariant**: whatever journals and directions a merge goes
through, the list that is left stands for the two inventories, and no path occurs in it
twice. -/
theorem represents_refine (o : Options) (here there : Inventory) (steps : List Refinement) :
    Represents here there steps (refine steps (here.compare o there)) ∧
      ((refine steps (here.compare o there)).map Comparison.path).Nodup := by
  have h : Represents here there steps (refine steps (here.compare o there)) :=
    (represents_compare o here there).refine steps
  exact ⟨h, h.increasing.nodup_map⟩

end Reconcile
