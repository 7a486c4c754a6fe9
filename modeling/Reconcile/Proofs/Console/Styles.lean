import Reconcile.Console.Table
import Reconcile.Proofs.Sequence

/-!
# Styles of parts of a text

The parts of a text, its lines and its lines in a lane have no styles but its own: each step
keeps the styles that it finds. So a text whose styles can be shown has lines on any console.
Main statements: `exists_textLines` and `Table.exists_lines`.
-/

namespace Reconcile.Console

/-- A definition of a style that can be shown. -/
def CanShowStyle (style : List Char) : Prop := Stretch.check ⟨0, 0, style⟩ = .ok ()

instance (style : List Char) : Decidable (CanShowStyle style) :=
  inferInstanceAs (Decidable (Stretch.check ⟨0, 0, style⟩ = .ok ()))

/-- All styles of a text can be shown. -/
def Styled.IsShowable (t : Styled) : Prop := ∀ s ∈ t.stretches, CanShowStyle s.style

namespace Styled.IsShowable

variable {t u : Styled}

theorem check_eq_ok (h : t.IsShowable) : t.check = .ok () := Sequence.forM_eq_ok_iff.2 h

theorem of_chars (chars : List Char) : Styled.IsShowable { chars } := List.forall_mem_nil _

/-! ## Parts -/

theorem part (h : t.IsShowable) (first size : Nat) : (t.part first size).IsShowable := by
  intro s hs
  obtain ⟨whole, hwhole, hwithin⟩ := List.mem_filterMap.1 hs
  rw [Stretch.within?] at hwithin
  split at hwithin
  · obtain rfl := Option.some.inj hwithin
    exact h whole hwhole
  · cases hwithin

theorem append (ht : t.IsShowable) (hu : u.IsShowable) : (t.append u).IsShowable := by
  refine List.forall_mem_append.2 ⟨ht, List.forall_mem_map.2 fun s hs => ?_⟩
  exact hu s hs

theorem extended (h : t.IsShowable) (n : Nat) : (t.extended n).IsShowable := by
  refine List.forall_mem_map.2 fun s hs => ?_
  split <;> exact h s hs

theorem withChars (h : t.IsShowable) (chars : List Char) : (t.withChars chars).IsShowable := by
  intro s hs
  rw [Styled.withChars] at hs
  dsimp only at hs
  split at hs
  · obtain ⟨whole, hwhole, rfl⟩ := List.mem_map.1 hs
    exact h whole (List.mem_of_mem_filter hwhole)
  · exact h s hs

theorem partsFrom (h : t.IsShowable) (gap first : Nat) (rows : List (List Char)) :
    ∀ part ∈ t.partsFrom gap first rows, part.IsShowable := by
  induction rows generalizing first with
  | nil => exact List.forall_mem_nil _
  | cons row rows ih => exact List.forall_mem_cons.2 ⟨h.part _ _, ih _⟩

theorem divided (h : t.IsShowable) (gap : Nat) (rows : List (List Char)) :
    ∀ part ∈ t.divided gap rows, part.IsShowable := by
  unfold Styled.divided
  split
  · exact List.forall_mem_singleton.2 h
  · exact h.partsFrom gap 0 rows

/-! ## Lines -/

theorem fillTabs {parts : List Styled} (h : ∀ part ∈ parts, part.IsShowable) (column : Nat) :
    (fillTabs column parts).IsShowable := by
  induction parts generalizing column with
  | nil => exact of_chars []
  | cons part parts ih =>
    obtain ⟨hpart, hparts⟩ := List.forall_mem_cons.1 h
    rw [Console.fillTabs]
    split
    · exact ((hpart.withChars _).extended _).append (ih hparts _)
    · exact hpart.append (ih hparts _)

theorem withoutTabs (h : t.IsShowable) : (withoutTabs t).IsShowable := by
  unfold Console.withoutTabs
  split
  · exact h
  · exact fillTabs (h.partsFrom 0 0 _) 0

theorem fitted (h : t.IsShowable) (columns : Nat) (overflow : Overflow) :
    (fitted columns overflow t).IsShowable := by
  unfold Console.fitted
  split
  · exact h
  · exact h.withChars _

theorem wrapped (h : t.IsShowable) (columns : Nat) (overflow : Overflow) :
    ∀ line ∈ wrapped columns overflow t, line.IsShowable := by
  intro line hline
  obtain ⟨row, hrow, hline⟩ := List.mem_flatMap.1 hline
  obtain ⟨part, hpart, rfl⟩ := List.mem_map.1 hline
  exact ((h.divided 1 _ row hrow).withoutTabs.divided 0 _ part hpart).withChars _

theorem placed (h : t.IsShowable) (justify : Justify) (columns : Nat) :
    (Table.placed justify columns t).IsShowable := by
  cases justify with
  | left => exact (h.fitted columns .ellipsis).withChars _
  | right => exact (of_chars _).append ((h.withChars _).fitted columns .ellipsis)

end Styled.IsShowable

/-- **A text whose styles can be shown** has lines, on a console of any size. -/
theorem exists_textLines {t : Styled} (h : t.IsShowable) (available : Nat) :
    ∃ lines, textLines available t = .ok lines := by
  have hchecks : ((wrapped available .fold t).map (fitted available .fold)).forM Styled.check =
      .ok () :=
    Sequence.forM_eq_ok_iff.2 (List.forall_mem_map.2 fun line hline =>
      ((h.wrapped available .fold line hline).fitted available .fold).check_eq_ok)
  exact ⟨_, Sequence.bind_eq_ok_iff.2 ⟨(), hchecks, rfl⟩⟩

namespace Table

theorem exists_rowLines {row : List Styled} (h : ∀ cell ∈ row, cell.IsShowable) (available : Nat)
    (edge : Char) (lanes : List Lane) : ∃ lines, rowLines available edge lanes row = .ok lines := by
  have hchecks : ((lanes.zip row).map fun p => (p.1, p.1.wrap p.2)).forM
      (fun p => p.2.forM Styled.check) = .ok () := by
    refine Sequence.forM_eq_ok_iff.2 (List.forall_mem_map.2 fun p hp => ?_)
    refine Sequence.forM_eq_ok_iff.2 (List.forall_mem_map.2 fun line hline => ?_)
    have hcell := h p.2 (List.of_mem_zip hp).2
    exact ((hcell.wrapped _ _ line hline).placed _ _).check_eq_ok
  exact ⟨_, Sequence.bind_eq_ok_iff.2 ⟨(), hchecks, rfl⟩⟩

/-- **A table whose styles can be shown** has lines, on a console of any size. -/
theorem exists_lines {rows : List (List Styled)} (h : ∀ row ∈ rows, ∀ cell ∈ row, cell.IsShowable)
    (available : Nat) (columns : List Column) :
    ∃ ls, lines available columns rows = .ok ls := by
  have hheaders : ∀ cell ∈ columns.map headerCell, cell.IsShowable :=
    List.forall_mem_map.2 fun _ _ => .of_chars _
  let lanes := (columns.zip (widths available columns rows)).map fun p =>
    Lane.mk p.1.justify p.2
  obtain ⟨header, hheader⟩ := exists_rowLines hheaders available '┃' lanes
  obtain ⟨body, hbody⟩ : ∃ body, rows.mapM (rowLines available '│' lanes) = .ok body :=
    Sequence.exists_mapM_eq_ok fun row hrow => exists_rowLines (h row hrow) available '│' lanes
  exact ⟨_, Sequence.bind_eq_ok_iff.2
    ⟨header, hheader, Sequence.bind_eq_ok_iff.2 ⟨body, hbody, rfl⟩⟩⟩

end Table

end Reconcile.Console
