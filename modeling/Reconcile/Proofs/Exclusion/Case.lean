import Reconcile.Exclusion
import Reconcile.Proofs.Text.Lowered

/-!
# Exclusion ignores letter case

A path and a pattern are looked at in lower case only, and a text has the same lower-case
form however its letters of ASCII are written, and if it is in lower case already. So the
path and each of the patterns may be written anew, apart from one another. Main statement:
`excludes_recased`.
-/

namespace Reconcile

namespace Text

/-- The second text is the first one but for letter case. -/
inductive Recased : Text → Text → Prop
  /-- Some letters of ASCII are in another case; other characters are not touched by
  `Char.toLower`. -/
  | ascii {s t : Text} (h : s.points.map Point.toLower = t.points.map Point.toLower) : Recased s t
  /-- All of it is in lower case. -/
  | lowered (t : Text) : Recased t t.lowered

theorem Recased.lower_eq {s t : Text} (h : Recased s t) : lower t.points = lower s.points := by
  cases h with
  | ascii h => rw [← lower_map_toLower, ← h, lower_map_toLower]
  | lowered => exact lower_lower s.points

end Text

namespace Exclusion

open Text (Recased)

variable {path path' pattern pattern' : Text} {patterns patterns' : List Text}

theorem isMatch_recased (hpattern : Recased pattern pattern') (hpath : Recased path path') :
    isMatch pattern' path' = isMatch pattern path := by
  rw [isMatch, isMatch, hpattern.lower_eq, hpath.lower_eq]

/-- **Letter case does not count**: a path is excluded as before if it and each of the
patterns are written in another case. -/
theorem excludes_recased (hpath : Recased path path')
    (hpatterns : List.Forall₂ Recased patterns patterns') :
    excludes patterns' path' = excludes patterns path := by
  induction hpatterns with
  | nil => rfl
  | @cons pattern pattern' patterns patterns' hpattern _ ih =>
    simp only [excludes, List.any_cons, isMatch_recased hpattern hpath] at ih ⊢
    rw [ih]

/-- A path with a final sigma and other letters of ASCII, one pattern in capitals and one in
lower case, where the sigma is no longer a capital. -/
theorem excludes_recased_with_final_sigma :
    let path : Text := "SRC/ΟΔΟΣ/Log"
    let path' : Text := "src/ΟΔΟΣ/lOG"
    let pattern : Text := "C/ΟΔΟΣ"
    Recased path path' ∧
      List.Forall₂ Recased ["*.TXT", pattern] ["*.tXt", pattern.lowered] ∧
      pattern.lowered = "c/οδος" ∧
      excludes ["*.tXt", pattern.lowered] path' = excludes ["*.TXT", pattern] path ∧
      excludes ["*.TXT", pattern] path = true := by
  intro path path' pattern
  have hpath : Recased path path' := .ascii (by decide)
  have hpatterns : List.Forall₂ Recased ["*.TXT", pattern] ["*.tXt", pattern.lowered] :=
    .cons (.ascii (by decide)) (.cons (.lowered pattern) .nil)
  exact ⟨hpath, hpatterns, by decide +kernel, excludes_recased hpath hpatterns, by decide +kernel⟩

end Exclusion

end Reconcile
