import Mathlib.Algebra.GroupWithZero.Nat
import Reconcile.Console.Styled
import Reconcile.Proofs.Text.Printable

/-!
# Columns of parts of a text

A text without joiners takes no more columns when it loses characters, and its parts take
no more apart than together. A picture selector is why neither is plain: it acts on the last
character before it that has columns, which changes with what is left out. What carries the
proofs is that such a change costs no more than the one column that a selector can add.
Main statements: `width_le_of_sublist` and `width_add_le`.
-/

namespace Reconcile.Console

variable {s t : List Char} {last : Option Char}

@[simp]
theorem pictureGain_none : pictureGain none = 0 := rfl

theorem pictureGain_le (last : Option Char) : pictureGain last ≤ 1 := by
  unfold pictureGain
  split <;> decide

theorem widthAfter_cons {c : Char} (hc : c ≠ joiner) (last : Option Char) (s : List Char) :
    widthAfter last (c :: s) =
      if c = pictureSelector then pictureGain last + widthAfter none s
      else if charWidth c = 0 then widthAfter last s
      else charWidth c + widthAfter (some c) s := by
  rw [widthAfter.eq_def]
  exact if_neg hc

theorem joiner_notMem_cons {c : Char} : joiner ∉ c :: s ↔ c ≠ joiner ∧ joiner ∉ s := by
  rw [List.mem_cons, not_or, ne_comm]

set_option maxRecDepth 10000 in
/-- No table of columns but that of pictures has a character of ASCII, without controls. -/
theorem widthRanges_apart :
    ∀ r ∈ zeroWidthRanges ++ doubleWidthRanges, r.2 < 0x20 ∨ 0x7E < r.1 := by
  decide

theorem charWidth_of_isAsciiPrint {c : Char} (h : Text.isAsciiPrint c = true) :
    charWidth c = 1 := by
  obtain ⟨hzero, hdouble⟩ := List.forall_mem_append.1 widthRanges_apart
  rw [charWidth, Text.inRanges_of_isAsciiPrint h hzero, Text.inRanges_of_isAsciiPrint h hdouble]
  rfl

/-- Each character of ASCII takes one column, without controls. -/
theorem width_of_ascii (h : s.all Text.isAsciiPrint = true) : width s = s.length := by
  suffices hall : ∀ last, widthAfter last s = s.length from hall none
  induction s with
  | nil => exact fun last => rfl
  | cons c s ih =>
    rw [List.all_cons, Bool.and_eq_true] at h
    intro last
    have hjoiner : c ≠ joiner := by
      rintro rfl
      exact absurd h.1 (by decide)
    have hselector : c ≠ pictureSelector := by
      rintro rfl
      exact absurd h.1 (by decide)
    rw [widthAfter_cons hjoiner, if_neg hselector, charWidth_of_isAsciiPrint h.1,
      if_neg Nat.one_ne_zero, ih h.2, List.length_cons, Nat.add_comm]

/-! ## Fewer characters -/

/-- Losing characters makes a text no wider, but for what a selector may now add to a
character before the text. -/
theorem widthAfter_le_of_sublist (h : s.Sublist t) (ht : joiner ∉ t) (last first : Option Char) :
    widthAfter last s ≤ widthAfter first t + (pictureGain last - pictureGain first) := by
  induction h generalizing last first with
  | slnil => exact Nat.zero_le _
  | cons c _ ih =>
    obtain ⟨hc, ht⟩ := joiner_notMem_cons.1 ht
    rw [widthAfter_cons hc]
    split
    · have := ih ht last none
      rw [pictureGain_none] at this
      omega
    · split
      · exact ih ht last first
      · -- the lost character has a column, which is as much as a selector can add
        have := ih ht last (some c)
        have := pictureGain_le last
        omega
  | cons_cons c _ ih =>
    obtain ⟨hc, ht⟩ := joiner_notMem_cons.1 ht
    rw [widthAfter_cons hc, widthAfter_cons hc]
    split
    · have := ih ht none none
      omega
    · split
      · exact ih ht last first
      · have := ih ht (some c) (some c)
        omega

/-- **A text that loses characters** takes no more columns. -/
theorem width_le_of_sublist (h : s.Sublist t) (ht : joiner ∉ t) : width s ≤ width t := by
  have := widthAfter_le_of_sublist h ht none none
  rwa [Nat.sub_self] at this

theorem width_le_widthAfter (hs : joiner ∉ s) (last : Option Char) :
    width s ≤ widthAfter last s := by
  have := widthAfter_le_of_sublist (List.Sublist.refl s) hs none last
  rwa [pictureGain_none, Nat.zero_sub] at this

/-! ## Texts one after the other -/

theorem widthAfter_add_le (hs : joiner ∉ s) (ht : joiner ∉ t) (last : Option Char) :
    widthAfter last s + width t ≤ widthAfter last (s ++ t) := by
  induction s generalizing last with
  | nil =>
    rw [widthAfter, Nat.zero_add]
    exact width_le_widthAfter ht last
  | cons c s ih =>
    obtain ⟨hc, hs⟩ := joiner_notMem_cons.1 hs
    rw [List.cons_append, widthAfter_cons hc, widthAfter_cons hc]
    split
    · have := ih hs none
      omega
    · split
      · exact ih hs last
      · have := ih hs (some c)
        omega

/-- **Two texts** take no more columns apart than together. -/
theorem width_add_le (hs : joiner ∉ s) (ht : joiner ∉ t) : width s + width t ≤ width (s ++ t) :=
  widthAfter_add_le hs ht none

theorem widthAfter_blanks (last : Option Char) (n : Nat) :
    widthAfter last (List.replicate n ' ') = n := by
  induction n generalizing last with
  | zero => rfl
  | succ n ih =>
    rw [List.replicate_succ, widthAfter_cons (by decide), if_neg (by decide),
      charWidth_of_isAsciiPrint rfl, if_neg Nat.one_ne_zero, ih, Nat.add_comm]

theorem width_blanks (n : Nat) : width (List.replicate n ' ') = n := widthAfter_blanks none n

theorem widthAfter_append_blanks (hs : joiner ∉ s) (last : Option Char) (n : Nat) :
    widthAfter last (s ++ List.replicate n ' ') = widthAfter last s + n := by
  induction s generalizing last with
  | nil => rw [List.nil_append, widthAfter_blanks, widthAfter, Nat.zero_add]
  | cons c s ih =>
    obtain ⟨hc, hs⟩ := joiner_notMem_cons.1 hs
    rw [List.cons_append, widthAfter_cons hc, widthAfter_cons hc, ih hs,
      ih hs, ih hs]
    split
    · rw [Nat.add_assoc]
    · split
      · rfl
      · rw [Nat.add_assoc]

/-- Blanks after a text take a column each. -/
theorem width_append_blanks (hs : joiner ∉ s) (n : Nat) :
    width (s ++ List.replicate n ' ') = width s + n :=
  widthAfter_append_blanks hs none n

/-- Blanks before a text take a column each. -/
theorem width_blanks_append (hs : joiner ∉ s) (n : Nat) :
    width (List.replicate n ' ' ++ s) ≤ n + width s := by
  suffices h : ∀ last, pictureGain last = 0 →
      widthAfter last (List.replicate n ' ' ++ s) ≤ n + width s from h none rfl
  intro last hlast
  induction n generalizing last with
  | zero =>
    have := widthAfter_le_of_sublist (List.Sublist.refl s) hs last none
    rw [hlast, Nat.zero_sub, Nat.add_zero] at this
    rwa [List.replicate_zero, List.nil_append, Nat.zero_add]
  | succ n ih =>
    have hgain : pictureGain (some ' ') = 0 := by decide
    have := ih (some ' ') hgain
    rw [List.replicate_succ, List.cons_append, widthAfter_cons (by decide), if_neg (by decide),
      charWidth_of_isAsciiPrint rfl, if_neg Nat.one_ne_zero]
    omega

/-! ## Texts without picture selectors -/

/-- Without joiners and picture selectors, each character takes its own columns. -/
theorem widthAfter_eq_sum (hjoiner : joiner ∉ s) (hselector : pictureSelector ∉ s)
    (last : Option Char) : widthAfter last s = (s.map charWidth).sum := by
  induction s generalizing last with
  | nil => rfl
  | cons c s ih =>
    obtain ⟨hc, hjoiner⟩ := joiner_notMem_cons.1 hjoiner
    rw [List.mem_cons, not_or] at hselector
    rw [widthAfter_cons hc, if_neg (Ne.symm hselector.1), ih hjoiner hselector.2,
      ih hjoiner hselector.2, List.map_cons, List.sum_cons]
    split
    · omega
    · rfl

theorem width_append (hjoiner : joiner ∉ s ++ t) (hselector : pictureSelector ∉ s ++ t) :
    width (s ++ t) = width s + width t := by
  have hsum := widthAfter_eq_sum hjoiner hselector none
  rw [List.mem_append, not_or] at hjoiner hselector
  rw [width, hsum, List.map_append, List.sum_append, ← widthAfter_eq_sum hjoiner.1 hselector.1 none,
    ← widthAfter_eq_sum hjoiner.2 hselector.2 none]
  rfl

/-! ## Runs -/

namespace Styled

theorem widthOfRuns_eq_sum (runs : List (List Char)) :
    widthOfRuns runs = (runs.map width).sum := by
  rw [List.sum_eq_foldl, List.foldl_map]
  rfl

theorem widthOfRuns_cons (run : List Char) (runs : List (List Char)) :
    widthOfRuns (run :: runs) = width run + widthOfRuns runs := by
  rw [widthOfRuns_eq_sum, widthOfRuns_eq_sum, List.map_cons, List.sum_cons]

theorem widthOfRuns_nil : widthOfRuns [] = 0 := rfl

theorem widthOfRuns_append (runs more : List (List Char)) :
    widthOfRuns (runs ++ more) = widthOfRuns runs + widthOfRuns more := by
  rw [widthOfRuns_eq_sum, widthOfRuns_eq_sum, widthOfRuns_eq_sum, List.map_append,
    List.sum_append]

theorem widthOfRuns_singleton (run : List Char) : widthOfRuns [run] = width run :=
  (widthOfRuns_cons run []).trans (Nat.add_zero _)

/-- Runs take no more columns than the text they make. -/
theorem widthOfRuns_le {runs : List (List Char)} (h : joiner ∉ runs.flatten) :
    widthOfRuns runs ≤ width runs.flatten := by
  induction runs with
  | nil => exact Nat.le_refl _
  | cons run runs ih =>
    rw [List.flatten_cons, List.mem_append, not_or] at h
    rw [widthOfRuns_cons, List.flatten_cons]
    exact Nat.le_trans (Nat.add_le_add_left (ih h.2) _) (width_add_le h.1 h.2)

theorem widthOfRuns_runs_le {t : Styled} (h : joiner ∉ t.chars) :
    widthOfRuns t.runs ≤ width t.chars := by
  rw [← t.flatten_runs] at h ⊢
  exact widthOfRuns_le h

/-- Without joiners and picture selectors, runs take the columns of the text they make. -/
theorem widthOfRuns_eq {runs : List (List Char)} (hjoiner : joiner ∉ runs.flatten)
    (hselector : pictureSelector ∉ runs.flatten) : widthOfRuns runs = width runs.flatten := by
  induction runs with
  | nil => rfl
  | cons run runs ih =>
    rw [List.flatten_cons] at hjoiner hselector
    have hapart := width_append hjoiner hselector
    rw [List.mem_append, not_or] at hjoiner hselector
    rw [widthOfRuns_cons, List.flatten_cons, hapart, ih hjoiner.2 hselector.2]

theorem widthOfRuns_runs_eq {t : Styled} (hjoiner : joiner ∉ t.chars)
    (hselector : pictureSelector ∉ t.chars) : widthOfRuns t.runs = width t.chars := by
  rw [← t.flatten_runs] at hjoiner hselector ⊢
  exact widthOfRuns_eq hjoiner hselector

theorem croppedRuns_of_le {columns : Nat} {runs : List (List Char)}
    (h : widthOfRuns runs ≤ columns) : croppedRuns columns runs = runs :=
  if_neg (Nat.not_lt.2 h)

theorem fittedRuns_of_eq {columns : Nat} {runs : List (List Char)}
    (h : widthOfRuns runs = columns) : fittedRuns columns runs = runs := by
  rw [fittedRuns, if_neg (by omega), croppedRuns_of_le (Nat.le_of_eq h)]

/-- Runs that fit are filled up with blanks. -/
theorem flatten_fittedRuns {columns : Nat} {runs : List (List Char)}
    (h : widthOfRuns runs ≤ columns) :
    (fittedRuns columns runs).flatten =
      runs.flatten ++ List.replicate (columns - widthOfRuns runs) ' ' := by
  rcases Nat.eq_or_lt_of_le h with hfull | hless
  · rw [fittedRuns_of_eq hfull, hfull, Nat.sub_self, List.replicate_zero, List.append_nil]
  · rw [fittedRuns, if_pos hless, List.flatten_append, List.flatten_singleton]

/-- Runs that fit take just the columns they are filled up to. -/
theorem widthOfRuns_fittedRuns {columns : Nat} {runs : List (List Char)}
    (h : widthOfRuns runs ≤ columns) : widthOfRuns (fittedRuns columns runs) = columns := by
  rcases Nat.eq_or_lt_of_le h with hfull | hless
  · rw [fittedRuns_of_eq hfull, hfull]
  · rw [fittedRuns, if_pos hless, widthOfRuns_append, widthOfRuns_singleton, width_blanks,
      Nat.add_sub_cancel' h]

end Styled

end Reconcile.Console
