import Mathlib.Data.List.DropRight
import Mathlib.Data.List.SplitBy
import Reconcile.Console.Table
import Reconcile.Proofs.Console.Width
import Reconcile.Proofs.Sequence
import Reconcile.Proofs.Text.Printable

/-!
# Texts that fit on a line

A printable text that is no wider than the console is left on one line: the words of a line
take no more columns apart than the line does, so that none of them begins a new one. Only
blanks at its end may go, where the text has more characters than there are columns. Main
statements: `wrapped_of_width_le` and `eq_of_textLines`.
-/

namespace Reconcile.Console

open Text (IsPrintable isPrintable)

set_option maxRecDepth 10000 in
theorem joiner_notMem {s : List Char} (h : IsPrintable s) : joiner ∉ s := h.notMem (by decide)

/-! ## Words -/

/-- The words of a line are all of it, unless the line is blank. -/
theorem words_eq_nil_or (line : List Char) : words line = [] ∨ (words line).flatten = line := by
  have hgroups := List.flatten_splitBy inWord line
  unfold words
  split
  · exact .inl rfl
  · rename_i first rest hsplit
    rw [hsplit] at hgroups
    split
    · split
      · exact .inl rfl
      · refine .inr ?_
        rw [← hgroups]
        simp only [List.flatten_cons, List.append_assoc]
    · exact .inr hgroups

theorem isPrefix_trimEnd (s : List Char) : trimEnd s <+: s := List.rdropWhile_prefix Text.isBlank s

/-- Words that have room are added to the line that is open. -/
theorem foldl_add {columns : Nat} (overflow : Overflow) (ws : List (List Char)) (l : Layout)
    (hws : joiner ∉ ws.flatten) (hroom : l.used + width ws.flatten ≤ columns) :
    ∃ used, ws.foldl (Layout.add columns overflow) l =
      { l with current := l.current ++ ws.flatten, used } := by
  induction ws generalizing l with
  | nil => exact ⟨l.used, by rw [List.flatten_nil, List.append_nil]; rfl⟩
  | cons w ws ih =>
    rw [List.flatten_cons, List.mem_append, not_or] at hws
    rw [List.flatten_cons] at hroom ⊢
    -- a word has room if it has without the blanks at its end
    have htrimmed := width_le_of_sublist (isPrefix_trimEnd w).sublist hws.1
    have hboth := width_add_le hws.1 hws.2
    have hadd : l.add columns overflow w =
        { l with current := l.current ++ w, used := l.used + width w } := by
      rw [Layout.add, if_pos (by omega)]
    have hrest : (l.add columns overflow w).used + width ws.flatten ≤ columns := by
      rw [hadd]
      dsimp only
      omega
    obtain ⟨used, hrest⟩ := ih (l.add columns overflow w) hws.2 hrest
    refine ⟨used, ?_⟩
    rw [List.foldl_cons, hrest, hadd, List.append_assoc]

/-- A line that fits is not broken. -/
theorem broken_of_width_le {columns : Nat} {line : List Char} (overflow : Overflow)
    (hline : joiner ∉ line) (h : width line ≤ columns) :
    broken columns overflow line = [line] := by
  unfold broken
  cases hwords : words line with
  | nil => rfl
  | cons w ws =>
    have hflatten : (w :: ws).flatten = line := by
      have hor := words_eq_nil_or line
      rw [hwords] at hor
      exact hor.resolve_left (List.cons_ne_nil _ _)
    have hroom : ({} : Layout).used + width (w :: ws).flatten ≤ columns := by
      rw [hflatten, Nat.zero_add]
      exact h
    obtain ⟨used, hlayout⟩ := foldl_add overflow (w :: ws) {} (hflatten ▸ hline) hroom
    show ((w :: ws).foldl (Layout.add columns overflow) {}).lines = [line]
    rw [hlayout, hflatten]
    rfl

/-! ## Blanks at the end -/

/-- A text on a line of its own: the blanks at its end go, as far as it has more characters
than there are columns. -/
def trimmed (columns : Nat) (s : List Char) : List Char :=
  s.take (max (trimEnd s).length (min s.length columns))

/-- The blanks at the end of a text stay: it has no more characters than there are columns,
or no such blanks. -/
def KeepsEnd (columns : Nat) (s : List Char) : Prop := s.length ≤ columns ∨ trimEnd s = s

variable {columns : Nat} {s : List Char} {t : Styled}

theorem chars_trimExcess (columns : Nat) (t : Styled) :
    (trimExcess columns t).chars = trimmed columns t.chars := rfl

theorem trimmed_sublist (columns : Nat) (s : List Char) : (trimmed columns s).Sublist s :=
  List.take_sublist _ _

/-- A text keeps its characters exactly if it keeps the blanks at its end. -/
theorem trimmed_eq_self_iff : trimmed columns s = s ↔ KeepsEnd columns s := by
  have hprefix := isPrefix_trimEnd s
  have hlength : trimmed columns s = s ↔
      s.length ≤ max (trimEnd s).length (min s.length columns) := by
    refine ⟨fun h => ?_, List.take_of_length_le⟩
    have htake := congrArg List.length h
    rw [trimmed, List.length_take] at htake
    omega
  rw [hlength, KeepsEnd]
  constructor
  · intro hlength
    by_cases hcolumns : s.length ≤ columns
    · exact .inl hcolumns
    · exact .inr (List.IsPrefix.eq_of_length_le hprefix (by omega))
  · rintro (hlength | hend)
    · omega
    · rw [hend]
      exact Nat.le_max_left _ _

/-- A printable text goes on with spaces after the last character that is no blank. -/
theorem exists_take_append {n : Nat} (hs : IsPrintable s)
    (h : (trimEnd s).length ≤ n) : ∃ k, s = s.take n ++ List.replicate k ' ' := by
  have hblank : ∀ c ∈ s.drop n, c = ' ' := by
    intro c hc
    have hsplit : trimEnd s ++ s.rtakeWhile Text.isBlank = s := List.rdropWhile_append_rtakeWhile
    have hend : c ∈ s.rtakeWhile Text.isBlank := by
      have hdrop := congrArg (List.drop (trimEnd s).length) hsplit
      rw [List.drop_left] at hdrop
      exact hdrop ▸ (List.drop_sublist_drop_left s h).subset hc
    exact Text.eq_space_of_isBlank (hs c (List.mem_of_mem_drop hc)) (List.mem_rtakeWhile_imp hend)
  exact ⟨_, by rw [← List.eq_replicate_of_mem hblank, List.take_append_drop]⟩

theorem exists_trimEnd_append (hs : IsPrintable s) :
    ∃ k, s = trimEnd s ++ List.replicate k ' ' := by
  have htake := List.prefix_iff_eq_take.1 (isPrefix_trimEnd s)
  obtain ⟨k, hk⟩ := exists_take_append hs (Nat.le_refl _)
  exact ⟨k, by rw [htake]; exact hk⟩

theorem exists_trimmed_append (hs : IsPrintable s) (columns : Nat) :
    ∃ k, s = trimmed columns s ++ List.replicate k ' ' :=
  exists_take_append hs (Nat.le_max_left _ _)

/-- Spaces at the end of a text are trimmed with its other blanks. -/
theorem trimEnd_append_blanks (s : List Char) (n : Nat) :
    trimEnd (s ++ List.replicate n ' ') = trimEnd s := by
  rw [trimEnd, List.reverse_append, List.reverse_replicate,
    List.dropWhile_append_of_pos fun c hc => by rw [List.eq_of_mem_replicate hc]; rfl, trimEnd]

/-! ## Lines -/

/-- **A printable text that fits** is wrapped into one line. -/
theorem wrapped_of_width_le (overflow : Overflow) (ht : IsPrintable t.chars)
    (h : width t.chars ≤ columns) : wrapped columns overflow t = [trimExcess columns t] := by
  have hlines : t.lines = [t] := by
    rw [Styled.lines, List.splitOn_eq_singleton (ht.notMem_of_lt (by decide))]
    rfl
  have htabs : withoutTabs t = t := by
    rw [withoutTabs, List.splitOn_eq_singleton (ht.notMem_of_lt (by decide))]
  rw [wrapped, hlines, List.flatMap_singleton, htabs]
  dsimp only
  rw [broken_of_width_le overflow (joiner_notMem ht) h]
  rfl

theorem fitted_of_width_le (overflow : Overflow) (h : width t.chars ≤ columns) :
    fitted columns overflow t = t := if_pos h

theorem width_trimExcess_le (ht : IsPrintable t.chars) (columns : Nat) :
    width (trimExcess columns t).chars ≤ width t.chars :=
  width_le_of_sublist (trimmed_sublist columns t.chars) (joiner_notMem ht)

/-- **The lines of a printable text that fits** are one. -/
theorem eq_of_textLines {lines : List String} (ht : IsPrintable t.chars)
    (h : width t.chars ≤ columns) (hlines : textLines columns t = .ok lines) :
    lines = [String.ofList (trimmed columns t.chars)] := by
  have hwidth := (width_trimExcess_le ht columns).trans h
  have hruns : Styled.widthOfRuns (trimExcess columns t).runs ≤ columns :=
    (Styled.widthOfRuns_runs_le (joiner_notMem (ht.sublist (trimmed_sublist _ _)))).trans hwidth
  simp only [textLines, wrapped_of_width_le .fold ht h, List.map_cons, List.map_nil,
    fitted_of_width_le .fold hwidth, Table.ofRuns, Styled.croppedRuns_of_le hruns,
    Styled.flatten_runs, Sequence.bind_eq_ok_iff, Sequence.pure_eq_ok_iff] at hlines
  obtain ⟨_, -, rfl⟩ := hlines
  rfl

end Reconcile.Console
