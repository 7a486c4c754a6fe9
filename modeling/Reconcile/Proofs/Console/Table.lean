import Reconcile.Proofs.Console.Layout

/-!
# Tables that fit on a terminal

Where a table of printable texts fits on a terminal, each lane is as wide as its widest text
and each row is one line (`eq_linesIn_of_lines`). Without picture selectors, the runs of a line
take the columns of its characters, so that the line is known to the last character whatever
its styles. Main statement: `eq_framed_of_lines`.
-/

namespace Reconcile.Console

open Text (IsPrintable isPrintable)

theorem isPrintable_blanks (n : Nat) : IsPrintable (List.replicate n ' ') := by
  intro c hc
  rw [List.eq_of_mem_replicate hc]
  exact Text.isPrintable_of_isAsciiPrint rfl

namespace Table

/-! ## Cells in their lanes -/

namespace Lane

/-- A cell fits in a lane. -/
structure Holds (lane : Lane) (cell : Styled) : Prop where
  printable : IsPrintable cell.chars
  width_le : width cell.chars ≤ lane.columns

/-- The line of a cell that fits in its lane. -/
def line (lane : Lane) (cell : Styled) : Styled :=
  placed lane.justify lane.columns (trimExcess lane.columns cell)

variable {lane : Lane} {cell : Styled}

theorem wrap_of_holds (h : lane.Holds cell) : lane.wrap cell = [lane.line cell] := by
  rw [wrap, wrapped_of_width_le .ellipsis h.printable h.width_le]
  rfl

theorem line_left (h : lane.Holds cell) (hleft : lane.justify = .left) :
    lane.line cell = (trimExcess lane.columns cell).withChars
      ((trimExcess lane.columns cell).chars ++
        blanks (lane.columns - width (trimExcess lane.columns cell).chars)) := by
  have hwidth := (width_trimExcess_le h.printable lane.columns).trans h.width_le
  rw [line, hleft, placed, fitted_of_width_le .ellipsis hwidth]

/-- A cell without the blanks at its end. -/
def core (lane : Lane) (cell : Styled) : Styled :=
  (trimExcess lane.columns cell).withChars (trimEnd (trimExcess lane.columns cell).chars)

theorem line_right (h : lane.Holds cell) (hright : lane.justify = .right) :
    lane.line cell =
      ({ chars := blanks (lane.columns - width (lane.core cell).chars) } : Styled).append
        (lane.core cell) := by
  have hwidth : width (lane.core cell).chars ≤ lane.columns :=
    (width_le_of_sublist ((isPrefix_trimEnd _).sublist.trans (trimmed_sublist _ _))
      (joiner_notMem h.printable)).trans h.width_le
  rw [line, hright, placed]
  show Styled.append { chars := blanks (lane.columns -
    width (fitted lane.columns .ellipsis (lane.core cell)).chars) }
    (fitted lane.columns .ellipsis (lane.core cell)) = _
  rw [fitted_of_width_le .ellipsis hwidth]

/-- The line of a cell holds the characters of the cell, but for blanks at its end, between
spaces that take the columns that are left. -/
theorem exists_chars_line (h : lane.Holds cell) :
    ∃ s before after ending, cell.chars = s ++ blanks ending ∧
      (lane.line cell).chars = blanks before ++ s ++ blanks after ∧
      before + width s + after = lane.columns := by
  obtain ⟨k, htrimmed⟩ := exists_trimmed_append h.printable lane.columns
  have hprintable := h.printable.sublist (trimmed_sublist lane.columns cell.chars)
  have hwidth := (width_trimExcess_le h.printable lane.columns).trans h.width_le
  cases hjustify : lane.justify with
  | left =>
    rw [chars_trimExcess] at hwidth
    refine ⟨_, 0, _, k, htrimmed, by rw [line_left h hjustify]; rfl, ?_⟩
    rw [chars_trimExcess, Nat.zero_add, Nat.add_sub_cancel' hwidth]
  | right =>
    obtain ⟨j, hcore⟩ := exists_trimEnd_append hprintable
    have hcorewidth : width (lane.core cell).chars ≤ lane.columns :=
      (width_le_of_sublist (isPrefix_trimEnd _).sublist (joiner_notMem hprintable)).trans hwidth
    refine ⟨(lane.core cell).chars, _, 0, j + k, ?_, ?_,
      by rw [Nat.add_zero, Nat.sub_add_cancel hcorewidth]⟩
    · rw [blanks, List.replicate_add, ← List.append_assoc]
      conv_lhs => rw [htrimmed, hcore]
      rfl
    · rw [line_right h hjustify]
      exact (List.append_nil _).symm

theorem isPrintable_line (h : lane.Holds cell) : IsPrintable (lane.line cell).chars := by
  obtain ⟨s, before, after, ending, hcell, hline, -⟩ := exists_chars_line h
  have hs : IsPrintable s := h.printable.sublist (hcell ▸ List.sublist_append_left s _)
  rw [hline]
  exact ((isPrintable_blanks before).append hs).append (isPrintable_blanks after)

theorem width_line_le (h : lane.Holds cell) : width (lane.line cell).chars ≤ lane.columns := by
  obtain ⟨s, before, after, ending, hcell, hline, hcolumns⟩ := exists_chars_line h
  have hs : IsPrintable s := h.printable.sublist (hcell ▸ List.sublist_append_left s _)
  have hbefore := width_blanks_append (joiner_notMem hs) before
  have hafter := width_append_blanks
    (joiner_notMem ((isPrintable_blanks before).append hs)) after
  rw [hline]
  show width (List.replicate before ' ' ++ s ++ List.replicate after ' ') ≤ _
  omega

/-- What a lane shows of a cell, without the blank on each side. -/
def shown (lane : Lane) (cell : Styled) : List Char :=
  (Styled.fittedRuns lane.columns (lane.line cell).runs).flatten

theorem widthOfRuns_line_le (h : lane.Holds cell) :
    Styled.widthOfRuns (lane.line cell).runs ≤ lane.columns :=
  (Styled.widthOfRuns_runs_le (joiner_notMem (isPrintable_line h))).trans (width_line_le h)

theorem shown_eq (h : lane.Holds cell) : lane.shown cell =
    (lane.line cell).chars ++ blanks (lane.columns - Styled.widthOfRuns (lane.line cell).runs) := by
  rw [shown, Styled.flatten_fittedRuns (widthOfRuns_line_le h), Styled.flatten_runs]
  rfl

/-- The runs of a cell with a blank on each side take the whole lane. -/
theorem fittedRuns_runs (h : lane.Holds cell) :
    Styled.fittedRuns lane.size (lane.runs (lane.line cell)) =
      [' '] :: Styled.fittedRuns lane.columns (lane.line cell).runs ++ [[' ']] := by
  have hwidth : Styled.widthOfRuns
      ([' '] :: Styled.fittedRuns lane.columns (lane.line cell).runs ++ [[' ']]) = lane.size := by
    have hblank : width [' '] = 1 := width_blanks 1
    rw [Styled.widthOfRuns_append, Styled.widthOfRuns_cons, Styled.widthOfRuns_singleton,
      Styled.widthOfRuns_fittedRuns (widthOfRuns_line_le h), hblank, size]
    omega
  rw [runs, Styled.fittedRuns_of_eq hwidth, Styled.fittedRuns_of_eq hwidth]

end Lane

/-! ## Rows -/

variable {edge : Char} {ps : List (Lane × Styled)}

/-- The runs between edges end with the edge after them. -/
theorem flatten_intersperse {α : Type} (sep : α) {ls : List (List α)} (h : ls ≠ []) :
    (ls.intersperse [sep]).flatten ++ [sep] = ls.flatMap (· ++ [sep]) := by
  induction ls with
  | nil => exact absurd rfl h
  | cons l ls ih =>
    cases ls with
    | nil => simp
    | cons m ls =>
      have hrest := ih (List.cons_ne_nil m ls)
      rw [List.intersperse_cons_cons, List.flatten_cons, List.flatten_cons, List.flatMap_cons,
        ← hrest]
      simp only [List.append_assoc]

/-- One line of cells that fit in their lanes, with `edge` between and around them. -/
def lineText (edge : Char) (ps : List (Lane × Styled)) : String :=
  String.ofList (edge :: ps.flatMap fun p => ' ' :: p.1.shown p.2 ++ [' ', edge])

theorem rowLine_eq {available : Nat} (hedge : width [edge] = 1) (hps : ps ≠ [])
    (h : ∀ p ∈ ps, p.1.Holds p.2) (hroom : total (ps.map fun p => p.1.size + 1) < available) :
    rowLine available edge (ps.map fun p => Styled.fittedRuns p.1.size (p.1.runs (p.1.line p.2))) =
      lineText edge ps := by
  let cell (p : Lane × Styled) : List (List Char) :=
    [' '] :: Styled.fittedRuns p.1.columns (p.1.line p.2).runs ++ [[' '], [edge]]
  have hcells : (ps.map fun p => Styled.fittedRuns p.1.size (p.1.runs (p.1.line p.2))).flatMap
      (· ++ [[edge]]) = ps.flatMap cell := by
    rw [List.flatMap_map]
    refine List.flatMap_congr fun p hp => ?_
    rw [Lane.fittedRuns_runs (h p hp)]
    simp [cell]
  have hwidth : Styled.widthOfRuns (ps.flatMap cell) = total (ps.map fun p => p.1.size + 1) := by
    clear hps hroom hcells
    induction ps with
    | nil => rfl
    | cons p ps ih =>
      obtain ⟨hp, hps⟩ := List.forall_mem_cons.1 h
      have hcell : Styled.widthOfRuns (cell p) = p.1.size + 1 := by
        have hblank : width [' '] = 1 := width_blanks 1
        simp only [cell, Styled.widthOfRuns_append, Styled.widthOfRuns_cons,
          Styled.widthOfRuns_nil, Styled.widthOfRuns_fittedRuns (Lane.widthOfRuns_line_le hp),
          hblank, hedge, Lane.size]
        omega
      rw [List.flatMap_cons, Styled.widthOfRuns_append, hcell, ih hps, List.map_cons, total_cons]
  rw [rowLine, List.cons_append, flatten_intersperse [edge] (by simpa using hps), hcells,
    Styled.croppedRuns_of_le (by rw [Styled.widthOfRuns_cons, hedge, hwidth]; omega)]
  simp [ofRuns, lineText, cell, Lane.shown, List.flatMap_def, List.flatten_flatten,
    Function.comp_def]

/-- **The lines of a row** whose cells fit are one. -/
theorem eq_of_rowLines {available : Nat} {lanes : List Lane} {row : List Styled}
    {lines : List String} (hedge : width [edge] = 1) (hzip : lanes.zip row ≠ [])
    (h : ∀ p ∈ lanes.zip row, p.1.Holds p.2)
    (hroom : total ((lanes.zip row).map fun p => p.1.size + 1) < available)
    (hlines : rowLines available edge lanes row = .ok lines) :
    lines = [lineText edge (lanes.zip row)] := by
  have hcells : ((lanes.zip row).map fun p => (p.1, p.1.wrap p.2)) =
      (lanes.zip row).map fun p => (p.1, [p.1.line p.2]) :=
    List.map_congr_left fun p hp => by rw [Lane.wrap_of_holds (h p hp)]
  have htallest :
      greatest (((lanes.zip row).map fun p => (p.1, [p.1.line p.2])).map (·.2.length)) = 1 := by
    obtain ⟨p, rest, hps⟩ := List.exists_cons_of_ne_nil hzip
    refine Nat.le_antisymm (greatest_le ?_) (le_greatest ?_)
    · intro n hn
      obtain ⟨_, hcell, rfl⟩ := List.mem_map.1 hn
      obtain ⟨_, -, rfl⟩ := List.mem_map.1 hcell
      exact Nat.le_refl 1
    · rw [hps]
      exact List.mem_cons_self
  rw [rowLines] at hlines
  simp only [hcells, htallest, Sequence.bind_eq_ok_iff, Sequence.pure_eq_ok_iff] at hlines
  obtain ⟨_, -, rfl⟩ := hlines
  rw [List.range_one, List.map_singleton, List.map_map, ← rowLine_eq hedge hzip h hroom]
  rfl

/-! ## Tables -/

/-- The texts of some cells, without their styles. -/
def texts (rows : List (List Styled)) : List (List String) :=
  rows.map (·.map fun cell => String.ofList cell.chars)

/-- A table of printable texts, with the same number of cells in each row, whose lanes have
room on a terminal. -/
structure Fits (available : Nat) (columns : List Column) (rows : List (List Styled)) : Prop where
  ne_nil : columns ≠ []
  length_eq : ∀ row ∈ rows, row.length = columns.length
  headers : ∀ column ∈ columns, IsPrintable column.header.toList
  cells : ∀ row ∈ rows, ∀ cell ∈ row, IsPrintable cell.chars
  room : HasRoom available width columns (texts rows)

/-- The lines of a table with the lanes given, if each of its rows is one line. -/
def linesIn (lanes : List Lane) (header : List Styled) (rows : List (List Styled)) : List String :=
  rule '┏' '━' '┳' '┓' lanes :: lineText '┃' (lanes.zip header) ::
    rule '┡' '━' '╇' '┩' lanes :: rows.map (fun row => lineText '│' (lanes.zip row)) ++
    [rule '└' '─' '┴' '┘' lanes]

section

variable {available : Nat} {columns : List Column} {rows : List (List Styled)} {row : List Styled}

theorem wanted_of_isPrintable {cell : Styled} (h : IsPrintable cell.chars) :
    wanted cell = width cell.chars := by
  have hlines : Text.splitLines cell.chars = [cell.chars] :=
    List.splitOnP_eq_singleton fun c hc => Text.isLineBoundary_of_isPrintable (h c hc)
  rw [wanted, hlines, List.map_singleton]
  exact Nat.zero_max _

theorem isPrintable_getD (h : ∀ cell ∈ row, IsPrintable cell.chars) (i : Nat) :
    IsPrintable (row.getD i { chars := [] }).chars := by
  rw [List.getD_eq_getElem?_getD]
  cases hi : row[i]? with
  | none => exact fun c hc => absurd hc List.not_mem_nil
  | some cell => exact h cell (List.mem_of_getElem? hi)

theorem total_sizes (lanes : List Lane) :
    total (lanes.map fun lane => lane.size + 1) = total (lanes.map Lane.size) + lanes.length := by
  induction lanes with
  | nil => rfl
  | cons lane lanes ih =>
    simp only [List.map_cons, total_cons, ih, List.length_cons]
    omega

/-- A cell wants the columns of its text. -/
theorem wanted_textsOf (h : Fits available columns rows) {column : Column}
    (hcolumn : column ∈ columns) (i : Nat) :
    (headerCell column :: rows.map fun row => row.getD i { chars := [] }).map wanted =
      (textsOf (texts rows) i column).map fun text => width text.toList := by
  rw [textsOf, texts, List.map_cons, List.map_cons, List.map_map, List.map_map, List.map_map]
  refine congr (congrArg _ (wanted_of_isPrintable (h.headers column hcolumn)))
    (List.map_congr_left fun row hrow => ?_)
  refine (wanted_of_isPrintable (isPrintable_getD (h.cells row hrow) i)).trans ?_
  simp only [Function.comp_apply, List.getD_eq_getElem?_getD, List.getElem?_map]
  cases row[i]? with
  | none => rfl
  | some cell => exact congrArg width String.toList_ofList.symm

/-- No lane of a table that fits gives way to another. -/
theorem widths_of_fits (h : Fits available columns rows) :
    widths available columns rows = (lanes width columns (texts rows)).map Lane.columns := by
  have hroom : total _ < available := h.room
  rw [total_sizes, length_lanes] at hroom
  have hwanted : wantedWidths (available - (columns.length + 1)) columns rows =
      (lanes width columns (texts rows)).map Lane.size := by
    refine List.ext_getElem (by simp [wantedWidths, lanes]) fun i hi hi' => ?_
    have hsize := le_total (List.getElem_mem hi')
    simp only [lanes, wantedWidths, List.getElem_map, List.getElem_mapIdx, Lane.size]
      at hroom hsize ⊢
    rw [wanted_textsOf h (List.getElem_mem (by simpa [wantedWidths] using hi)) i]
    omega
  have hwithin : ∀ fuel, within (available - (columns.length + 1)) fuel
      ((lanes width columns (texts rows)).map Lane.size) =
        (lanes width columns (texts rows)).map Lane.size := by
    intro fuel
    cases fuel with
    | zero => rfl
    | succ fuel =>
      rw [within]
      exact if_pos (by omega)
  show (within (available - (columns.length + 1)) columns.length
    (wantedWidths (available - (columns.length + 1)) columns rows)).map (· - 2) = _
  rw [hwanted, hwithin, List.map_map]
  rfl

theorem zip_widths_of_fits (h : Fits available columns rows) :
    ((columns.zip (widths available columns rows)).map fun (column, n) =>
      Lane.mk column.justify n) = lanes width columns (texts rows) := by
  rw [widths_of_fits h]
  refine List.ext_getElem (by simp [lanes]) fun i hi hi' => ?_
  simp [lanes]

/-- Every cell of a table that fits does so in its lane. -/
theorem holds_of_fits (h : Fits available columns rows)
    (hrow : row ∈ columns.map headerCell :: rows) :
    ∀ p ∈ (lanes width columns (texts rows)).zip row, p.1.Holds p.2 := by
  intro p hp
  obtain ⟨i, hi, rfl⟩ := List.mem_iff_getElem.1 hp
  rw [List.length_zip, length_lanes] at hi
  have hcolumn : i < columns.length := by omega
  have hcell : i < row.length := by omega
  rw [List.getElem_zip]
  have hmem : String.ofList row[i].chars ∈ textsOf (texts rows) i columns[i] := by
    rcases List.mem_cons.1 hrow with rfl | hrow
    · rw [List.getElem_map]
      exact List.mem_cons.2 (.inl String.ofList_toList)
    · refine List.mem_cons_of_mem _ (List.mem_map.2 ⟨_, List.mem_map_of_mem hrow, ?_⟩)
      simp [List.getD_eq_getElem?_getD, List.getElem?_eq_getElem hcell]
  refine ⟨?_, ?_⟩
  · rcases List.mem_cons.1 hrow with rfl | hrow
    · rw [List.getElem_map]
      exact h.headers _ (List.getElem_mem _)
    · exact h.cells row hrow _ (List.getElem_mem _)
  · have hwidth := List.mem_map_of_mem (f := fun text : String => width text.toList) hmem
    rw [String.toList_ofList] at hwidth
    simp only [lanes, List.getElem_mapIdx]
    exact le_greatest hwidth

theorem length_of_fits (h : Fits available columns rows)
    (hrow : row ∈ columns.map headerCell :: rows) : row.length = columns.length := by
  rcases List.mem_cons.1 hrow with rfl | hrow
  · exact List.length_map _
  · exact h.length_eq row hrow

/-- The lines of a row of a table that fits. -/
theorem eq_of_rowLines_of_fits {edge : Char} {ls : List String} (hedge : width [edge] = 1)
    (h : Fits available columns rows) (hrow : row ∈ columns.map headerCell :: rows)
    (hls : rowLines available edge (lanes width columns (texts rows)) row = .ok ls) :
    ls = [lineText edge ((lanes width columns (texts rows)).zip row)] := by
  have hlength : (lanes width columns (texts rows)).length = row.length :=
    length_lanes.trans (length_of_fits h hrow).symm
  have hroom : total (((lanes width columns (texts rows)).zip row).map fun p => p.1.size + 1) <
      available := by
    have hfirst := List.map_fst_zip (Nat.le_of_eq hlength)
    have hsizes := congrArg (List.map fun lane => lane.size + 1) hfirst
    rw [List.map_map] at hsizes
    have hroom : total _ < available := h.room
    rw [← hsizes] at hroom
    exact hroom
  refine eq_of_rowLines hedge ?_ (holds_of_fits h hrow) hroom hls
  intro hnil
  have hzip := congrArg List.length hnil
  rw [List.length_zip, hlength, Nat.min_self, length_of_fits h hrow] at hzip
  exact h.ne_nil (List.eq_nil_of_length_eq_zero hzip)

set_option maxRecDepth 10000 in
theorem width_edges : width ['┃'] = 1 ∧ width ['│'] = 1 := by decide

/-- **The lines of a table that fits**: one for each row. -/
theorem eq_linesIn_of_lines {ls : List String} (h : Fits available columns rows)
    (hls : lines available columns rows = .ok ls) :
    ls = linesIn (lanes width columns (texts rows)) (columns.map headerCell) rows := by
  simp only [lines, zip_widths_of_fits h, Sequence.bind_eq_ok_iff,
    Sequence.pure_eq_ok_iff] at hls
  obtain ⟨header, hheader, body, hbody, rfl⟩ := hls
  obtain rfl := eq_of_rowLines_of_fits width_edges.1 h List.mem_cons_self hheader
  obtain rfl := Sequence.eq_map_of_mapM_eq_ok (fun row hrow _ => eq_of_rowLines_of_fits
    width_edges.2 h (List.mem_cons_of_mem _ hrow)) hbody
  rw [← List.flatMap_def, ← List.map_eq_flatMap]
  rfl

/-! ## Lines to the last character -/

namespace Lane

variable {lane : Lane} {cell : Styled}

theorem mem_aligned {s : List Char} {c : Char} (h : c ∈ lane.aligned width s) :
    c ∈ s ∨ c = ' ' := by
  rw [aligned] at h
  cases hjustify : lane.justify with
  | left =>
    rw [hjustify] at h
    exact (List.mem_append.1 h).imp_right List.eq_of_mem_replicate
  | right =>
    rw [hjustify] at h
    exact (List.mem_append.1 h).symm.imp (fun hc => (isPrefix_trimEnd s).subset hc)
      List.eq_of_mem_replicate

/-- The blanks at the end of a cell are trimmed and put back in a lane on the left, while
one on the right goes without them. -/
theorem chars_line (h : lane.Holds cell) :
    (lane.line cell).chars = lane.aligned width cell.chars := by
  obtain ⟨k, htrimmed⟩ := exists_trimmed_append h.printable lane.columns
  cases hjustify : lane.justify with
  | left =>
    have hwidth : width cell.chars = width (trimmed lane.columns cell.chars) + k := by
      conv_lhs => rw [htrimmed]
      exact width_append_blanks
        (joiner_notMem (h.printable.sublist (trimmed_sublist lane.columns cell.chars))) k
    have hle := h.width_le
    have hsum : lane.columns - width (trimmed lane.columns cell.chars) =
        k + (lane.columns - width cell.chars) := by omega
    rw [line_left h hjustify, aligned, hjustify]
    show trimmed lane.columns cell.chars ++ blanks _ = cell.chars ++ blanks _
    rw [chars_trimExcess, hsum]
    conv_rhs => rw [htrimmed]
    rw [blanks, List.replicate_add, List.append_assoc, ← htrimmed]
    rfl
  | right =>
    have hcore : (lane.core cell).chars = trimEnd cell.chars := by
      conv_rhs => rw [htrimmed, trimEnd_append_blanks]
      rfl
    rw [line_right h hjustify, aligned, hjustify]
    show blanks (lane.columns - width (lane.core cell).chars) ++ (lane.core cell).chars = _
    rw [hcore]

theorem width_aligned (h : lane.Holds cell) :
    width (lane.aligned width cell.chars) = lane.columns := by
  have hjoiner := joiner_notMem h.printable
  have hle := h.width_le
  cases hjustify : lane.justify with
  | left =>
    rw [aligned, hjustify]
    exact (width_append_blanks hjoiner _).trans (Nat.add_sub_cancel' hle)
  | right =>
    have hend := joiner_notMem (h.printable.sublist (isPrefix_trimEnd cell.chars).sublist)
    have hshorter := width_le_of_sublist (isPrefix_trimEnd cell.chars).sublist hjoiner
    have hmost := width_blanks_append hend (lane.columns - width (trimEnd cell.chars))
    have hleast := width_add_le
      (joiner_notMem (isPrintable_blanks (lane.columns - width (trimEnd cell.chars)))) hend
    rw [width_blanks] at hleast
    rw [aligned, hjustify]
    show width (List.replicate _ ' ' ++ trimEnd cell.chars) = _
    omega

/-- A lane shows a text in its place, whatever its styles. -/
theorem shown_eq_aligned (h : lane.Holds cell) (hselector : pictureSelector ∉ cell.chars) :
    lane.shown cell = lane.aligned width cell.chars := by
  have hjoiner := joiner_notMem (isPrintable_line h)
  have hselector : pictureSelector ∉ (lane.line cell).chars := by
    rw [chars_line h]
    exact fun hmem => (mem_aligned hmem).elim hselector (by decide)
  rw [shown_eq h, Styled.widthOfRuns_runs_eq hjoiner hselector, chars_line h, width_aligned h,
    Nat.sub_self]
  exact List.append_nil _

end Lane

theorem lineText_eq {edge : Char} {lanes : List Lane} {row : List Styled}
    (h : ∀ p ∈ lanes.zip row, p.1.Holds p.2)
    (hselector : ∀ cell ∈ row, pictureSelector ∉ cell.chars) :
    lineText edge (lanes.zip row) =
      framedLine width edge lanes (row.map fun cell => String.ofList cell.chars) := by
  have hzip : lanes.zip (row.map fun cell => String.ofList cell.chars) =
      (lanes.zip row).map fun p => (p.1, String.ofList p.2.chars) := List.zip_map_right
  rw [lineText, framedLine, hzip, List.flatMap_map]
  refine congrArg (fun s => String.ofList (edge :: s)) (List.flatMap_congr fun p hp => ?_)
  rw [Lane.shown_eq_aligned (h p hp) (hselector _ (List.of_mem_zip hp).2), String.toList_ofList]

/-- **A table that fits**, to the last character: its texts are laid out without regard to
their styles. -/
theorem eq_framed_of_lines {ls : List String} (h : Fits available columns rows)
    (hheaders : ∀ column ∈ columns, pictureSelector ∉ column.header.toList)
    (hcells : ∀ row ∈ rows, ∀ cell ∈ row, pictureSelector ∉ cell.chars)
    (hls : lines available columns rows = .ok ls) : ls = framed width columns (texts rows) := by
  obtain rfl := eq_linesIn_of_lines h hls
  have hheader : lineText '┃' _ = _ :=
    lineText_eq (holds_of_fits h List.mem_cons_self) (List.forall_mem_map.2 hheaders)
  have hnames : (columns.map headerCell).map (fun cell => String.ofList cell.chars) =
      columns.map Column.header := by
    rw [List.map_map]
    exact List.map_congr_left fun column _ => String.ofList_toList
  have hbody : (rows.map fun row => lineText '│' ((lanes width columns (texts rows)).zip row)) =
      (texts rows).map (framedLine width '│' (lanes width columns (texts rows))) := by
    conv_rhs => rw [texts, List.map_map]
    exact List.map_congr_left fun row hrow =>
      lineText_eq (holds_of_fits h (List.mem_cons_of_mem _ hrow)) (hcells row hrow)
  rw [linesIn, hheader, hnames, hbody]
  rfl

end

end Table

end Reconcile.Console
