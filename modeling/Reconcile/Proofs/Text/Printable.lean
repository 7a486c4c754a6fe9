import Mathlib.Tactic.ByContra
import Reconcile.Text.Blank
import Reconcile.Text.Lines
import Reconcile.Text.Quoted

/-!
# Printable texts

A text is printable if each of its characters has a printed form. No line ends at such a
character, and the only blank among them is the space (`eq_space_of_isBlank`).
-/

namespace Reconcile.Text

/-- Each character of the text has a printed form. -/
def IsPrintable (s : List Char) : Prop := ∀ c ∈ s, isPrintable c = true

namespace IsPrintable

variable {s t : List Char} {c : Char}

theorem append (hs : IsPrintable s) (ht : IsPrintable t) : IsPrintable (s ++ t) :=
  List.forall_mem_append.2 ⟨hs, ht⟩

theorem sublist (h : IsPrintable t) (hs : s.Sublist t) : IsPrintable s :=
  fun c hc => h c (hs.subset hc)

/-- A character without a printed form is not in the text. -/
theorem notMem (h : IsPrintable s) (hc : isPrintable c = false) : c ∉ s :=
  fun hs => Bool.noConfusion ((h c hs).symm.trans hc)

end IsPrintable

set_option maxRecDepth 10000 in
/-- Every range of blanks lies within one of unprinted characters, but for the space at
the end of one. -/
theorem blankRanges_unprinted :
    ∀ r ∈ blankRanges, ∃ u ∈ unprintedRanges,
      u.1 ≤ r.1 ∧ (r.2 ≤ u.2 ∨ r.2 = 0x20 ∧ u.2 = 0x1F) := by
  decide

variable {c : Char}

/-- The only printable blank is the space. -/
theorem eq_space_of_isBlank (h : isPrintable c = true) (hblank : isBlank c = true) : c = ' ' := by
  obtain ⟨r, hr, hfirst, hlast⟩ := inRanges_iff.1 hblank
  obtain ⟨u, hu, hstart, hend⟩ := blankRanges_unprinted r hr
  have hout : ¬(u.1 ≤ c.toNat ∧ c.toNat ≤ u.2) := by
    intro hin
    rw [isPrintable, inRanges_iff.2 ⟨u, hu, hin⟩] at h
    cases h
  have hspace : c.toNat = ' '.toNat := by
    show c.toNat = 0x20
    omega
  exact Char.toNat_inj.1 hspace

/-- No line ends at a printable character: those at which one does are blank. -/
theorem isLineBoundary_of_isPrintable (h : isPrintable c = true) : isLineBoundary c = false := by
  have hblanks : ∀ n ∈ [0x0A, 0x0B, 0x0C, 0x0D, 0x1C, 0x1D, 0x1E, 0x85, 0x2028, 0x2029],
      ∃ r ∈ blankRanges, r.1 ≤ n ∧ n ≤ r.2 := by decide
  rw [← Bool.not_eq_true]
  intro hends
  obtain rfl := eq_space_of_isBlank h (inRanges_iff.2 (hblanks _ (of_decide_eq_true hends)))
  exact absurd hends (by decide)

/-- No control has a printed form. -/
theorem le_toNat_of_isPrintable (h : isPrintable c = true) : 0x20 ≤ c.toNat := by
  by_contra hlt
  have hcontrol : inRanges unprintedRanges c = true :=
    inRanges_iff.2 ⟨(0x0, 0x1F), List.mem_cons_self, Nat.zero_le _, by omega⟩
  rw [isPrintable, hcontrol] at h
  cases h

theorem IsPrintable.notMem_of_lt {s : List Char} (h : IsPrintable s) (hc : c.toNat < 0x20) :
    c ∉ s :=
  fun hs => Nat.not_lt.2 (le_toNat_of_isPrintable (h c hs)) hc

/-- The characters of ASCII from the space to the tilde. -/
def isAsciiPrint (c : Char) : Bool := 0x20 ≤ c.toNat && c.toNat ≤ 0x7E

/-- Ranges apart from those characters hold none of them. -/
theorem inRanges_of_isAsciiPrint {ranges : List (Nat × Nat)} (hc : isAsciiPrint c = true)
    (hapart : ∀ r ∈ ranges, r.2 < 0x20 ∨ 0x7E < r.1) : inRanges ranges c = false := by
  rw [isAsciiPrint, Bool.and_eq_true, decide_eq_true_eq, decide_eq_true_eq] at hc
  rw [← Bool.not_eq_true, inRanges_iff]
  rintro ⟨r, hr, hfirst, hlast⟩
  have := hapart r hr
  omega

set_option maxRecDepth 10000 in
theorem unprintedRanges_apart : ∀ r ∈ unprintedRanges, r.2 < 0x20 ∨ 0x7E < r.1 := by decide

theorem isPrintable_of_isAsciiPrint (hc : isAsciiPrint c = true) : isPrintable c = true := by
  rw [isPrintable, inRanges_of_isAsciiPrint hc unprintedRanges_apart]
  rfl

/-- A text of ASCII without controls is printable. -/
theorem IsPrintable.of_ascii {s : List Char} (h : s.all isAsciiPrint = true) : IsPrintable s :=
  fun c hc => isPrintable_of_isAsciiPrint (List.all_eq_true.1 h c hc)

end Reconcile.Text
