import Reconcile.Comparison.Refinement
import Reconcile.Proofs.Comparison.Merge

/-!
# What refinements leave of a comparison

A step between a merge and its plan drops comparisons or turns some into
conflicts, and does nothing else. So each comparison that is left comes from one of
the merge, with at most its status changed (`mem_refine`).
-/

namespace Reconcile

/-- `c'` is what some steps have left of `c`: it differs at most in being a
conflict, and then both sides have the path and a journal among the steps knows it
changed on both. -/
structure Comparison.LeftBy (steps : List Refinement) (c c' : Comparison) : Prop where
  path : c'.path = c.path
  here : c'.here = c.here
  there : c'.there = c.there
  isDir : c'.isDir = c.isDir
  status : c'.status = c.status ∨
    c'.status = .conflict ∧ c.onBothSides = true ∧
      ∃ j, Refinement.journal j ∈ steps ∧ j.bothChanged c.path = true

variable {steps steps' : List Refinement} {cs : List Comparison} {c c' c'' : Comparison}

namespace Comparison.LeftBy

theorem refl (steps : List Refinement) (c : Comparison) : LeftBy steps c c :=
  ⟨rfl, rfl, rfl, rfl, .inl rfl⟩

theorem onBothSides_eq (h : LeftBy steps c c') : c'.onBothSides = c.onBothSides := by
  rw [Comparison.onBothSides, Comparison.onBothSides, h.here, h.there]

theorem trans (h : LeftBy steps c c') (h' : LeftBy steps' c' c'') :
    LeftBy (steps ++ steps') c c'' where
  path := h'.path.trans h.path
  here := h'.here.trans h.here
  there := h'.there.trans h.there
  isDir := h'.isDir.trans h.isDir
  status := by
    -- the last journal that marked the comparison is the one to name
    rcases h'.status with heq | ⟨hconflict, hboth, j, hj, hchanged⟩
    · rcases h.status with heq' | ⟨hconflict, hboth, j, hj, hchanged⟩
      · exact .inl (heq.trans heq')
      · exact .inr ⟨heq.trans hconflict, hboth, j, List.mem_append_left _ hj, hchanged⟩
    · rw [h.onBothSides_eq] at hboth
      rw [h.path] at hchanged
      exact .inr ⟨hconflict, hboth, j, List.mem_append_right _ hj, hchanged⟩

end Comparison.LeftBy

/-- **One step**: a journal marks and a direction drops. -/
theorem mem_apply {step : Refinement} (h : c' ∈ step.apply cs) :
    ∃ c ∈ cs, c.LeftBy [step] c' := by
  cases step with
  | journal j =>
    obtain ⟨c, hc, rfl⟩ := List.mem_map.1 h
    refine ⟨c, hc, ?_⟩
    rw [Journal.mark]
    split
    · rename_i hmark
      rw [Bool.and_eq_true] at hmark
      exact ⟨rfl, rfl, rfl, rfl, .inr ⟨rfl, hmark.1, j, List.mem_singleton.2 rfl, hmark.2⟩⟩
    · exact .refl _ c
  | towards d => exact ⟨c', (List.mem_filter.1 h).1, .refl _ c'⟩

/-- **Any number of steps**, in any order. -/
theorem mem_refine (h : c' ∈ refine steps cs) : ∃ c ∈ cs, c.LeftBy steps c' := by
  induction steps generalizing cs with
  | nil => exact ⟨c', h, .refl _ c'⟩
  | cons step rest ih =>
    obtain ⟨c₁, hc₁, hrest⟩ := ih h
    obtain ⟨c, hc, hstep⟩ := mem_apply hc₁
    exact ⟨c, hc, hstep.trans hrest⟩

/-! ## After a merge -/

variable {o : Options} {here there : Inventory}

/-- What is left of a merge comes from the comparison of its own path. -/
theorem mem_refine_compare (h : c ∈ refine steps (here.compare o there)) :
    (c.path ∈ here.paths ∨ c.path ∈ there.paths) ∧
      Exclusion.excludes o.excludePatterns c.path = false ∧
      (Comparison.ofPath o here there c.path).isReported = true ∧
      (Comparison.ofPath o here there c.path).LeftBy steps c := by
  obtain ⟨c₀, hc₀, hleft⟩ := mem_refine h
  obtain ⟨hpath, hkept, hreported, heq⟩ := mem_compare.1 hc₀
  rw [← hleft.path] at hpath hkept heq
  rw [heq] at hreported hleft
  exact ⟨hpath, hkept, hreported, hleft⟩

/-- Apart from conflicts, the status is still that of the two entries. -/
theorem Comparison.LeftBy.status_eq_ofSides {path : Text}
    (h : (Comparison.ofPath o here there path).LeftBy steps c) (hne : c.status ≠ .conflict) :
    c.status = .ofSides o (here.get? path) (there.get? path) := by
  rcases h.status with heq | ⟨hconflict, _⟩
  · exact heq
  · exact absurd hconflict hne

end Reconcile
