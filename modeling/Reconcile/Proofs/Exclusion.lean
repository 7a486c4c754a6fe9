import Reconcile.Exclusion
import Reconcile.Proofs.Text.Case

/-!
# Paths that hold a pattern as it is written

A pattern and a path are put into lower case apart from each other. So a path that holds
a pattern as it is written matches it as long as the sigmas of the pattern become the
same small letters in both (`IsLiteral.isMatch`). No other character can make a difference:
a pattern begins with a star exactly if its lower-case form does
(`exists_lower_eq_star_iff`). Main statement: `excludes_of_literal`.
-/

namespace Reconcile

/-! ## The star -/

namespace Text

theorem eq_of_ofNat_eq_star {n : Nat} (h : Char.ofNat n = '*') : n = 0x2A := by
  by_cases hvalid : n.isValidChar
  · rw [Char.ofNat, dif_pos hvalid] at h
    exact congrArg Char.toNat h
  · rw [Char.ofNat, dif_neg hvalid] at h
    exact absurd h (by decide)

/-- Every small letter lies above the star. -/
theorem ne_star_of_lower? {range : CapitalRange} (hrange : range ∈ capitalRanges) {c d : Char}
    (h : range.lower? c = some d) : d ≠ '*' := by
  have habove : ∀ range ∈ capitalRanges, 0x2A < range.first + range.shift := by decide +kernel
  have hshift := habove range hrange
  rw [CapitalRange.lower?] at h
  split at h
  · rename_i hin
    obtain rfl := Option.some.inj h
    intro hstar
    have hcode := eq_of_ofNat_eq_star hstar
    have hfirst := hin.1
    omega
  · cases h

/-- Only the star has the star as its lower-case form. -/
theorem exists_lowerChar_eq_cons {c : Char} (h : c ≠ '*') :
    ∃ d rest, lowerChar c = d :: rest ∧ d ≠ '*' := by
  rw [lowerChar]
  split
  · have hascii : ∀ n : Fin 128, (Char.ofNat n).toLower = '*' → Char.ofNat n = '*' := by decide
    refine ⟨c.toLower, [], rfl, ?_⟩
    intro hlower
    have hc := hascii ⟨c.toNat, ‹_›⟩
    rw [Char.ofNat_toNat] at hc
    exact h (hc hlower)
  · split
    · exact ⟨'i', _, rfl, by decide⟩
    · refine ⟨_, [], rfl, ?_⟩
      cases hfound : capitalRanges.findSome? (·.lower? c) with
      | none => exact h
      | some d =>
        obtain ⟨range, hrange, hlower⟩ := List.exists_of_findSome?_eq_some hfound
        exact ne_star_of_lower? hrange hlower

theorem lower_star (ending : List Point) :
    lower (.char '*' :: ending) = .char '*' :: lower ending := rfl

theorem exists_lower_eq_star_iff {s : List Point} :
    (∃ ending, lower s = .char '*' :: ending) ↔ ∃ ending, s = .char '*' :: ending := by
  constructor
  · rintro ⟨ending, hlower⟩
    cases s with
    | nil => cases hlower
    | cons p rest =>
      by_cases hp : p = .char '*'
      · exact ⟨rest, by rw [hp]⟩
      · exfalso
        rw [lower, lowerFrom] at hlower
        by_cases hsigma : p = .sigma
        · rw [if_pos hsigma] at hlower
          cases hlower
        · rw [if_neg hsigma] at hlower
          cases p with
          | char c =>
            obtain ⟨d, more, hd, hne⟩ :=
              exists_lowerChar_eq_cons fun hc => hp (congrArg Point.char hc)
            rw [Point.lower, hd] at hlower
            exact hne (Point.char.inj (List.cons.inj hlower).1)
          | half h => cases hlower
  · rintro ⟨ending, rfl⟩
    exact ⟨_, lower_star ending⟩

end Text

/-! ## Matching -/

namespace Exclusion

/-- The path holds the pattern as it is written: it is `before`, `part` and `after` one
after the other, where `part` is the pattern, or what follows its star and the end of the
path. -/
def IsLiteral (pattern path before part after : List Point) : Prop :=
  path = before ++ part ++ after ∧
    (pattern = .char '*' :: part ∧ after = [] ∨
      pattern = part ∧ ∀ ending, pattern ≠ .char '*' :: ending)

theorem matchesLower_star (ending path : List Point) :
    matchesLower (.char '*' :: ending) path = true ↔ ending <:+ path :=
  List.isSuffixOf_iff_suffix

theorem matchesLower_iff_holds {pattern path : List Point}
    (h : ∀ ending, pattern ≠ .char '*' :: ending) :
    matchesLower pattern path = true ↔ ∃ before after, path = before ++ pattern ++ after := by
  rw [← Text.holds_iff, matchesLower]
  exact h

variable {pattern path : Text} {before part after : List Point}

/-- A path that holds a pattern matches it as long as the sigmas of the pattern stay what
they are. -/
theorem IsLiteral.isMatch (h : IsLiteral pattern.points path.points before part after)
    (hkeeps : Text.KeepsSigmas before part after) : isMatch pattern path = true := by
  obtain ⟨hpath, ⟨hpattern, rfl⟩ | ⟨rfl, hstar⟩⟩ := h
  · rw [Exclusion.isMatch, hpattern, Text.lower_star, matchesLower_star, hpath,
      Text.lower_append, Text.lowerIn_eq_lower_iff.2 hkeeps, Text.lowerFrom, List.append_nil]
    exact List.suffix_append _ _
  · have hlower : ∀ ending, Text.lower pattern.points ≠ .char '*' :: ending := by
      intro ending heq
      obtain ⟨rest, hrest⟩ := Text.exists_lower_eq_star_iff.1 ⟨ending, heq⟩
      exact hstar rest hrest
    rw [Exclusion.isMatch, matchesLower_iff_holds hlower, hpath, Text.lower_append,
      Text.lowerIn_eq_lower_iff.2 hkeeps]
    exact ⟨_, _, rfl⟩

/-! ## Paths as patterns -/

/-- The star of a pattern keeps what stands before it away from the words after it. -/
theorem keepsSigmas_after_star (before ending : List Point) :
    Text.KeepsSigmas (before ++ [.char '*']) ending [] := by
  rintro front back -
  have hstar : Text.inWordAfter false (before ++ [.char '*']) = false := by
    rw [Text.inWordAfter_append]
    rfl
  rw [List.append_nil, Text.endsWord, Text.inWordAfter_append, hstar, Text.endsWord]

theorem isMatch_of_star {ending : List Point} (hpattern : pattern.points = .char '*' :: ending)
    (hpath : path.points = before ++ pattern.points) : isMatch pattern path = true := by
  have hliteral : IsLiteral pattern.points path.points (before ++ [.char '*']) ending [] := by
    refine ⟨?_, .inl ⟨hpattern, rfl⟩⟩
    rw [hpath, hpattern, List.append_nil, List.append_assoc, List.singleton_append]
  exact hliteral.isMatch (keepsSigmas_after_star before ending)

theorem isMatch_self (path : Text) : isMatch path path = true := by
  by_cases hstar : ∃ ending, path.points = .char '*' :: ending
  · obtain ⟨ending, hending⟩ := hstar
    exact isMatch_of_star hending (List.nil_append _).symm
  · have hliteral : IsLiteral path.points path.points [] path.points [] := by
      refine ⟨?_, .inr ⟨rfl, fun ending h => hstar ⟨ending, h⟩⟩⟩
      rw [List.nil_append, List.append_nil]
    refine hliteral.isMatch ?_
    rintro front back -
    rw [List.nil_append, List.append_nil]

/-- **A path that holds a pattern as it is written is excluded**, unless a sigma at an end
of the pattern is next to a letter of the path and so is no longer the same small letter.
Every path is excluded by itself, and if it begins with a star, also with text before it,
whatever its sigmas. -/
theorem excludes_of_literal {patterns : List Text} (h : pattern ∈ patterns) :
    (∀ before part after, IsLiteral pattern.points path.points before part after →
      excludes patterns path = true ∨
        ∃ front back, part = front ++ .sigma :: back ∧
          (front.all Point.isCaseIgnorable = true ∧ Text.inWordAfter false before = true ∨
            back.all Point.isCaseIgnorable = true ∧ Text.startsCased after = true)) ∧
    (∀ before part after, IsLiteral pattern.points path.points before part after →
      Text.KeepsSigmas before part after → excludes patterns path = true) ∧
    (path = pattern → excludes patterns path = true) ∧
    ∀ before ending, pattern.points = .char '*' :: ending → path.points = before ++ pattern.points →
      excludes patterns path = true := by
  have hmatch : isMatch pattern path = true → excludes patterns path = true :=
    fun hmatch => excludes_iff.2 ⟨pattern, h, hmatch⟩
  refine ⟨?_, ?_, ?_, ?_⟩
  · intro before part after hliteral
    by_cases hkeeps : Text.KeepsSigmas before part after
    · exact .inl (hmatch (hliteral.isMatch hkeeps))
    · exact .inr (Text.exists_of_not_keepsSigmas hkeeps)
  · intro before part after hliteral hkeeps
    exact hmatch (hliteral.isMatch hkeeps)
  · rintro rfl
    exact hmatch (isMatch_self path)
  · intro before ending hpattern hpath
    exact hmatch (isMatch_of_star hpattern hpath)

/-- A word with a sigma at both ends, as a directory. -/
theorem excludes_of_whole_word :
    let pattern : Text := "ΣΟΦΟΣ"
    let path : Text := "Α/ΣΟΦΟΣ/Β"
    let before : Text := "Α/"
    let after : Text := "/Β"
    pattern ∈ [pattern] ∧
      IsLiteral pattern.points path.points before.points pattern.points after.points ∧
      Text.KeepsSigmas before.points pattern.points after.points ∧
      excludes [pattern] path = true := by
  intro pattern path before after
  have hmem : pattern ∈ [pattern] := List.mem_singleton_self _
  have hliteral :
      IsLiteral pattern.points path.points before.points pattern.points after.points :=
    ⟨by decide, .inr ⟨rfl, by simp [pattern]⟩⟩
  have hkeeps : Text.KeepsSigmas before.points pattern.points after.points := by decide +kernel
  exact ⟨hmem, hliteral, hkeeps, (excludes_of_literal hmem).2.1 _ _ _ hliteral hkeeps⟩

/-- A sigma after a letter: the path holds the pattern, and ends with it, but in lower case
it ends with the other small sigma. -/
theorem not_excluded_after_letter :
    let path : Text := "AΣ"
    let pattern : Text := "Σ"
    let ending : Text := "*Σ"
    IsLiteral pattern.points path.points [.char 'A'] [.sigma] [] ∧
      excludes [pattern] path = false ∧
      IsLiteral ending.points path.points [.char 'A'] [.sigma] [] ∧
      excludes [ending] path = false := by
  intro path pattern ending
  have hpath : path.points = [.char 'A'] ++ [.sigma] ++ [] := by decide
  exact ⟨⟨hpath, .inr ⟨by decide, by simp [pattern]⟩⟩, by decide, ⟨hpath, .inl ⟨by decide, rfl⟩⟩,
    by decide⟩

end Exclusion

end Reconcile
