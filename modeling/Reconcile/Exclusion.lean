import Reconcile.Text.Case

/-!
# Exclusion

Which paths are left out of a comparison. A pattern that begins with a star
matches the paths that end with the rest of it; any other pattern matches the
paths that hold it anywhere, across the limits of their segments. Letter case
does not count.
-/

namespace Reconcile

namespace Text

/-- Whether `s` holds `part` as an unbroken run of code points. -/
def holds (part : List Point) : List Point → Bool
  | [] => part.isEmpty
  | p :: rest => part.isPrefixOf (p :: rest) || holds part rest

theorem holds_iff {part s : List Point} :
    holds part s = true ↔ ∃ before after, s = before ++ part ++ after := by
  induction s with
  | nil =>
    simp only [holds, List.isEmpty_iff]
    constructor
    · rintro rfl
      exact ⟨[], [], rfl⟩
    · rintro ⟨before, after, h⟩
      simp_all
  | cons p rest ih =>
    simp only [holds, Bool.or_eq_true, List.isPrefixOf_iff_prefix, ih]
    constructor
    · rintro (⟨after, h⟩ | ⟨before, after, h⟩)
      · exact ⟨[], after, h.symm⟩
      · exact ⟨p :: before, after, by simp [h]⟩
    · rintro ⟨before, after, h⟩
      cases before with
      | nil => exact .inl ⟨after, h.symm⟩
      | cons q before =>
        simp only [List.cons_append, List.cons.injEq] at h
        exact .inr ⟨before, after, h.2⟩

end Text

namespace Exclusion

/-- Whether a path matches a pattern, both in lower case. -/
def matchesLower (pattern path : List Point) : Bool :=
  match pattern with
  | .char '*' :: ending => ending.isSuffixOf path
  | part => Text.holds part path

/-- Whether a path matches a pattern. -/
def isMatch (pattern path : Text) : Bool :=
  matchesLower (Text.lower pattern.points) (Text.lower path.points)

/-- Whether a path matches one of the patterns. -/
def excludes (patterns : List Text) (path : Text) : Bool := patterns.any (isMatch · path)

theorem excludes_iff {patterns : List Text} {path : Text} :
    excludes patterns path = true ↔ ∃ p ∈ patterns, isMatch p path = true := by
  simp [excludes]

theorem excludes_append (p q : List Text) (path : Text) :
    excludes (p ++ q) path = (excludes p path || excludes q path) := by
  simp [excludes]

end Exclusion

end Reconcile
