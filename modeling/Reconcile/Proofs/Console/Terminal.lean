import Reconcile.Console.Terminal
import Reconcile.Proofs.Console.Reading
import Reconcile.Proofs.Console.Styles
import Reconcile.Proofs.Console.Table

/-!
# A terminal is a console

All that is relied on of a console holds of a terminal, however many columns it has. A text
with one coloured part is read without a fault, since its only closing tag names the style
of the only tag that is open (`exists_render`). Main statement: `readsMarkup_terminal`.
-/

namespace Reconcile.Console

open Markup (IsColored IsPlain IsTag OpenTag Progress coloredText isTag_of_textColor pieces render
  shownOf shownText textColors visible)
open Text (IsPrintable)

/-! ## Tags of colours -/

namespace Markup

/-- A colour that a tag names as its normal form does. -/
structure IsNormal (color : String) : Prop where
  normalize : normalize color.toList = .ok color
  opening : splitTag color.toList = (color.toList, none)
  closing : splitTag ('/' :: color.toList) = ('/' :: color.toList, none)
  notClosing : color.toList.head? ≠ some '/'
  trim : Text.trim color.toList = color.toList
  notEmpty : color.toList.isEmpty = false
  canShow : CanShowStyle color.toList

set_option maxRecDepth 4000 in
theorem isNormal_of_textColor {color : String} (h : color ∈ textColors) : IsNormal color := by
  simp only [textColors, List.mem_cons, List.not_mem_nil, or_false] at h
  rcases h with rfl | rfl | rfl | rfl <;>
    exact ⟨by decide, by decide, by decide, by decide, by decide, by decide, by decide⟩

variable {color : String}

theorem addTag_color (h : IsNormal color) (p : Progress) :
    p.addTag color.toList = .ok { p with opened := ⟨p.size, color, none⟩ :: p.opened } := by
  have hopening := h.notClosing
  simp only [Progress.addTag, h.opening]
  split
  · rename_i heq
    rw [heq] at hopening
    exact absurd rfl hopening
  · rw [h.normalize]
    rfl

theorem addTag_close_color (h : IsNormal color) (shown : Styled) (start : Nat)
    (opened : List OpenTag) :
    Progress.addTag ⟨shown, ⟨start, color, none⟩ :: opened⟩ ('/' :: color.toList) =
      .ok ⟨{ shown with
        stretches := ⟨start, shown.chars.length, color.toList ++ []⟩ :: shown.stretches },
        opened⟩ := by
  simp only [Progress.addTag, h.closing, h.trim, h.notEmpty, h.normalize, Bool.false_eq_true,
    if_false, bind, Except.bind, List.find?_cons, List.eraseP_cons, decide_true, cond_true,
    Progress.closed, OpenTag.checkClosed, OpenTag.stretch]
  rfl

/-- Text without markup is read without a fault, and sets no style. -/
theorem foldlM_pieces_of_isPlain {s : List Char} (h : IsPlain s) (p : Progress) :
    ∃ q, (pieces s).foldlM Progress.add p = .ok q ∧ q.shown.stretches = p.shown.stretches ∧
      q.opened = p.opened := by
  cases s with
  | nil => exact ⟨p, rfl, rfl, rfl⟩
  | cons c rest =>
    rw [pieces_of_isPlain h (List.cons_ne_nil _ _)]
    exact ⟨_, rfl, rfl, rfl⟩

/-- **A text with one coloured part**, or none, is read without a fault. -/
theorem exists_render {s : String} (h : IsColored s.toList) :
    ∃ t, render s = .ok t ∧ t.IsShowable := by
  generalize hs : s.toList = l at h
  have hrender : ∀ q, (pieces l).foldlM Progress.add {} = .ok q → render s = .ok q.finish := by
    intro q hq
    rw [render, hs, hq]
    rfl
  cases h with
  | plain h =>
    obtain ⟨q, hq, hstretches, hopened⟩ := foldlM_pieces_of_isPlain h {}
    refine ⟨_, hrender q hq, ?_⟩
    rw [Styled.IsShowable, Progress.finish, hstretches, hopened]
    exact List.forall_mem_nil _
  | @colored color inside after hcolor hbracket hbackslash hafter =>
    have hnormal := isNormal_of_textColor hcolor
    obtain ⟨hopening, hclosing⟩ := isTag_of_textColor hcolor
    have hpieces : pieces (coloredText color.toList inside after) =
        [.plain [], .plain [], .tag color.toList, .plain [], .plain inside, .plain [],
          .tag ('/' :: color.toList), .plain []] ++ pieces after :=
      (pieces_before_tag List.not_mem_nil List.not_mem_nil hopening _).trans
        (by rw [pieces_before_tag hbracket hbackslash hclosing]; rfl)
    obtain ⟨q, hq, hstretches, hopened⟩ := foldlM_pieces_of_isPlain hafter
      ⟨⟨shownOf (.plain inside), [⟨0, (shownOf (.plain inside)).length, color.toList ++ []⟩]⟩, []⟩
    refine ⟨_, hrender q ?_, ?_⟩
    · have hempty : (unescaped []).filter (!Progress.isStripped ·) = [] := rfl
      rw [hpieces, List.foldlM_append, ← hq]
      simp only [List.foldlM_cons, List.foldlM_nil, Progress.add, hempty, addTag_color hnormal,
        addTag_close_color hnormal, bind, Except.bind, List.append_nil, List.nil_append]
      rfl
    · rw [Styled.IsShowable, Progress.finish, hstretches, hopened]
      exact List.forall_mem_singleton.2 (by rw [List.append_nil]; exact hnormal.canShow)

end Markup

/-! ## Highlights -/

theorem highlighted_of_isPrintable {t : Styled} (ht : IsPrintable t.chars) :
    highlighted t = t := by
  rw [highlighted, if_neg]
  simpa using joiner_notMem ht

theorem Styled.IsShowable.highlighted {t : Styled} (h : t.IsShowable) :
    (highlighted t).IsShowable := by
  have hplain : CanShowStyle [] := by decide
  unfold Console.highlighted
  split
  · refine List.forall_mem_append.2 ⟨h, fun s hs => ?_⟩
    obtain ⟨kind, -, hs⟩ := List.mem_flatMap.1 hs
    obtain ⟨_, -, rfl⟩ := List.mem_map.1 hs
    exact hplain
  · exact h

/-! ## Prints -/

variable {available : Nat}

theorem pictureSelector_notMem {s : List Char}
    (h : ∀ c ∈ s, (terminal available).isNarrow c = true) : pictureSelector ∉ s := by
  intro hmem
  have hnarrow := (Bool.and_eq_true_iff.1 (h _ hmem)).2
  exact of_decide_eq_true hnarrow rfl

theorem exists_markupLines {s : String} (h : IsColored s.toList) :
    ∃ lines, markupLines available s = .ok lines := by
  obtain ⟨t, ht, hshowable⟩ := Markup.exists_render h
  obtain ⟨lines, hlines⟩ := exists_textLines hshowable.highlighted available
  exact ⟨lines, Sequence.bind_eq_ok_iff.2 ⟨t, ht, Sequence.mapError_eq_ok_iff.2 hlines⟩⟩

theorem exists_tableLines {columns : List Column} {rows : List (List String)}
    (h : ∀ row ∈ rows, ∀ cell ∈ row, IsColored cell.toList) :
    ∃ lines, tableLines available columns rows = .ok lines := by
  have hrow : ∀ row ∈ rows, ∃ cells, row.mapM render = .ok cells := fun row hrow =>
    Sequence.exists_mapM_eq_ok fun cell hcell =>
      (Markup.exists_render (h row hrow cell hcell)).imp fun _ => And.left
  obtain ⟨cells, hcells⟩ := Sequence.exists_mapM_eq_ok hrow
  have hshowable : ∀ row ∈ cells, ∀ cell ∈ row, cell.IsShowable := by
    intro row' hrow' cell' hcell'
    obtain ⟨row, hrow, hread⟩ :=
      Sequence.exists_of_mem_right (Sequence.mapM_eq_ok_iff.1 hcells) hrow'
    obtain ⟨cell, hcell, hcell'⟩ :=
      Sequence.exists_of_mem_right (Sequence.mapM_eq_ok_iff.1 hread) hcell'
    obtain ⟨t, ht, hshowable⟩ := Markup.exists_render (h row hrow cell hcell)
    rw [ht] at hcell'
    exact Except.ok.inj hcell' ▸ hshowable
  obtain ⟨lines, hlines⟩ := Table.exists_lines hshowable available columns
  exact ⟨lines, Sequence.bind_eq_ok_iff.2 ⟨cells, hcells, Sequence.mapError_eq_ok_iff.2 hlines⟩⟩

theorem eq_of_markupLines {s : String} {lines : List String} (hs : IsPrintable s.toList)
    (hwidth : width (visible s.toList) ≤ available) (h : markupLines available s = .ok lines) :
    lines = [String.ofList (trimmed available (visible s.toList))] := by
  obtain ⟨t, ht, hlines⟩ := Sequence.bind_eq_ok_iff.1 h
  have hchars := Markup.chars_of_render ht
  have hprintable : IsPrintable t.chars := hchars ▸ hs.sublist (Markup.visible_sublist _)
  rw [highlighted_of_isPrintable hprintable, Sequence.mapError_eq_ok_iff] at hlines
  rw [← hchars] at hwidth ⊢
  exact eq_of_textLines hprintable hwidth hlines

/-- The texts of some cells that are read. -/
theorem chars_of_mapM {row : List String} {cells : List Styled} (h : row.mapM render = .ok cells) :
    (cells.map fun cell => String.ofList cell.chars) = row.map shownText := by
  rw [← List.forall₂_eq_eq_eq, List.forall₂_map_left_iff, List.forall₂_map_right_iff]
  exact ((Sequence.mapM_eq_ok_iff.1 h).imp fun _ _ hcell =>
    congrArg String.ofList (Markup.chars_of_render hcell)).flip

theorem texts_of_mapM {rows : List (List String)} {cells : List (List Styled)}
    (h : rows.mapM (·.mapM render) = .ok cells) :
    Table.texts cells = rows.map (·.map shownText) := by
  rw [Table.texts, ← List.forall₂_eq_eq_eq, List.forall₂_map_left_iff, List.forall₂_map_right_iff]
  exact ((Sequence.mapM_eq_ok_iff.1 h).imp fun _ _ hrow => chars_of_mapM hrow).flip

/-- The characters of some cells that are read are those of their texts. -/
theorem exists_of_mem_cells {rows : List (List String)} {cells : List (List Styled)}
    (h : rows.mapM (·.mapM render) = .ok cells) {row' : List Styled} (hrow' : row' ∈ cells) :
    ∃ row ∈ rows, row'.length = row.length ∧
      ∀ cell' ∈ row', ∃ cell ∈ row, cell'.chars.Sublist cell.toList := by
  obtain ⟨row, hrow, hread⟩ :=
    Sequence.exists_of_mem_right (Sequence.mapM_eq_ok_iff.1 h) hrow'
  have hcells := Sequence.mapM_eq_ok_iff.1 hread
  refine ⟨row, hrow, hcells.length_eq.symm, fun cell' hcell' => ?_⟩
  obtain ⟨cell, hcell, hrender⟩ := Sequence.exists_of_mem_right hcells hcell'
  exact ⟨cell, hcell, Markup.chars_of_render hrender ▸ Markup.visible_sublist _⟩

theorem eq_of_tableLines {columns : List Column} {rows : List (List String)} {lines : List String}
    (hcolumns : columns ≠ [])
    (hheaders : ∀ column ∈ columns, (terminal available).Admits column.header.toList)
    (hlength : ∀ row ∈ rows, row.length = columns.length)
    (hcells : ∀ row ∈ rows, ∀ cell ∈ row, (terminal available).Admits cell.toList)
    (hroom : Table.HasRoom available width columns (rows.map (·.map shownText)))
    (h : tableLines available columns rows = .ok lines) :
    lines = Table.framed width columns (rows.map (·.map shownText)) := by
  obtain ⟨cells, hread, hlines⟩ := Sequence.bind_eq_ok_iff.1 h
  rw [Sequence.mapError_eq_ok_iff] at hlines
  have hfits : Table.Fits available columns cells := by
    refine ⟨hcolumns, fun row' hrow' => ?_,
      fun column hcolumn => (hheaders column hcolumn).printable,
      fun row' hrow' cell' hcell' => ?_, by rw [texts_of_mapM hread]; exact hroom⟩
    · obtain ⟨row, hrow, heq, -⟩ := exists_of_mem_cells hread hrow'
      exact heq.trans (hlength row hrow)
    · obtain ⟨row, hrow, -, hpart⟩ := exists_of_mem_cells hread hrow'
      obtain ⟨cell, hcell, hsublist⟩ := hpart cell' hcell'
      exact (hcells row hrow cell hcell).printable.sublist hsublist
  rw [← texts_of_mapM hread]
  refine Table.eq_framed_of_lines hfits
    (fun column hcolumn => pictureSelector_notMem (hheaders column hcolumn).narrow)
    (fun row' hrow' cell' hcell' => ?_) hlines
  obtain ⟨row, hrow, -, hpart⟩ := exists_of_mem_cells hread hrow'
  obtain ⟨cell, hcell, hsublist⟩ := hpart cell' hcell'
  have hnarrow := (hcells row hrow cell hcell).narrow
  exact fun hmem => pictureSelector_notMem hnarrow (hsublist.subset hmem)

/-! ## Strings -/

theorem writable_ofString (s : String) : writable s = .ok s := by
  have hchars : ∀ cs : List Char, (cs.map Point.char).mapM Point.char? = some cs := by
    intro cs
    induction cs with
    | nil => rfl
    | cons c cs ih =>
      rw [List.map_cons, List.mapM_cons, ih]
      rfl
  rw [writable, Text.points_ofString, hchars]
  exact congrArg Except.ok String.ofList_toList

theorem print_ofString (s : String) :
    (terminal available).print s = markupLines available s := by
  show (writable s >>= markupLines available) = _
  rw [writable_ofString]
  rfl

theorem printTable_ofString (columns : List Column) (rows : List (List String)) :
    (terminal available).printTable columns (rows.map (·.map .ofString)) =
      tableLines available columns rows := by
  have hrow : ∀ row : List String, (row.map Text.ofString).mapM writable = .ok row := fun _ =>
    Sequence.mapM_map_eq_ok writable_ofString
  have hrows : (rows.map (·.map Text.ofString)).mapM (·.mapM writable) = .ok rows :=
    Sequence.mapM_map_eq_ok hrow
  show ((rows.map (·.map Text.ofString)).mapM (·.mapM writable) >>= fun rows =>
    tableLines available columns rows) = _
  rw [hrows]
  rfl

/-- **A terminal** is all that is relied on of a console. -/
theorem readsMarkup_terminal (available : Nat) : (terminal available).ReadsMarkup where
  narrow_of_ascii c hc := by
    have hselector : c ≠ pictureSelector := by
      rintro rfl
      exact absurd hc (by decide)
    show (decide (charWidth c ≤ 1) && decide (c ≠ pictureSelector)) = true
    rw [charWidth_of_isAsciiPrint hc, decide_eq_true hselector]
    rfl
  columnsOf_append s t hprintable hnarrow :=
    width_append (joiner_notMem hprintable) (pictureSelector_notMem hnarrow)
  exists_print s h := (print_ofString s).symm ▸ exists_markupLines h
  exists_printTable columns rows h := (printTable_ofString columns rows).symm ▸ exists_tableLines h
  eq_of_print s _ hs hwidth h := eq_of_markupLines hs.printable hwidth (print_ofString s ▸ h)
  eq_of_printTable columns rows _ hcolumns hheaders hlength hcells hroom h :=
    eq_of_tableLines hcolumns (fun column hcolumn => (hheaders column hcolumn).1) hlength hcells
      hroom (printTable_ofString columns rows ▸ h)

/-- Texts of ASCII take as many columns as they have characters. -/
theorem hasRoom_of_ascii {columns : List Column} {rows : List (List String)}
    (hheaders : ∀ column ∈ columns, column.header.toList.all Text.isAsciiPrint = true)
    (hcells : ∀ row ∈ rows, ∀ cell ∈ row, cell.toList.all Text.isAsciiPrint = true)
    (h : Table.HasRoom available List.length columns rows) :
    Table.HasRoom available width columns rows := by
  have hlanes : Table.lanes width columns rows = Table.lanes List.length columns rows :=
    Table.lanes_congr (fun column hcolumn => width_of_ascii (hheaders column hcolumn))
      (fun row hrow cell hcell => width_of_ascii (hcells row hrow cell hcell)) rfl
  rw [Table.HasRoom, hlanes]
  exact h

end Reconcile.Console
