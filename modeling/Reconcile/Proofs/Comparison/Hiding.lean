import Reconcile.Proofs.Comparison.Merge

/-!
# Patterns only hide

The patterns decide which paths are compared and have no part in how. So of two lists of
patterns one after the other, the second hides from what the first leaves
(`compare_append_patterns`), and the patterns count as a set (`compare_withPatterns_congr`).
-/

namespace Reconcile

/-- The options with other patterns. -/
def Options.withPatterns (o : Options) (patterns : List Text) : Options :=
  { o with excludePatterns := patterns }

variable {o : Options} {here there : Inventory} {path : Text} {c : Comparison}
  {patterns patterns' more : List Text}

namespace Exclusion

/-- The patterns count as a set. -/
theorem excludes_congr (h : ∀ p, p ∈ patterns ↔ p ∈ patterns') (path : Text) :
    excludes patterns path = excludes patterns' path := by
  rw [Bool.eq_iff_iff, excludes_iff, excludes_iff]
  simp only [h]

end Exclusion

theorem Comparison.ofPath_withPatterns (o : Options) (patterns : List Text)
    (here there : Inventory) (path : Text) :
    ofPath (o.withPatterns patterns) here there path = ofPath o here there path := rfl

/-- A comparison is reported under more patterns if it is without them and none of them
matches its path. -/
theorem mem_compare_append_patterns :
    c ∈ here.compare (o.withPatterns (o.excludePatterns ++ more)) there ↔
      c ∈ here.compare o there ∧ Exclusion.excludes more c.path = false := by
  have hpatterns : (o.withPatterns (o.excludePatterns ++ more)).excludePatterns =
      o.excludePatterns ++ more := rfl
  rw [mem_compare, mem_compare, Comparison.ofPath_withPatterns, hpatterns,
    Exclusion.excludes_append, Bool.or_eq_false_iff]
  constructor
  · rintro ⟨hpath, ⟨hkept, hmore⟩, hreported, heq⟩
    exact ⟨⟨hpath, hkept, hreported, heq⟩, hmore⟩
  · rintro ⟨⟨hpath, hkept, hreported, heq⟩, hmore⟩
    exact ⟨hpath, ⟨hkept, hmore⟩, hreported, heq⟩

/-- **More patterns hide**, from the comparisons that there are without them, those whose
paths they match. -/
theorem compare_append_patterns (o : Options) (here there : Inventory) (more : List Text) :
    here.compare (o.withPatterns (o.excludePatterns ++ more)) there =
      (here.compare o there).filter fun c => !Exclusion.excludes more c.path := by
  refine (increasing_compare _ here there).eq_of_mem_iff
    ((increasing_compare o here there).sublist List.filter_sublist) ?_
  intro c
  rw [mem_compare_append_patterns, List.mem_filter, Bool.not_eq_true']

/-- **The patterns count as a set**: neither their order nor how often one is given
matters. -/
theorem compare_withPatterns_congr (o : Options) (here there : Inventory)
    (h : ∀ p, p ∈ patterns ↔ p ∈ patterns') :
    here.compare (o.withPatterns patterns) there =
      here.compare (o.withPatterns patterns') there := by
  refine (increasing_compare _ here there).eq_of_mem_iff (increasing_compare _ here there) ?_
  intro c
  have hexcludes : Exclusion.excludes (o.withPatterns patterns).excludePatterns c.path =
      Exclusion.excludes (o.withPatterns patterns').excludePatterns c.path :=
    Exclusion.excludes_congr h c.path
  rw [mem_compare, mem_compare, hexcludes, Comparison.ofPath_withPatterns,
    Comparison.ofPath_withPatterns]

end Reconcile
