import Mathlib.Algebra.GroupWithZero.Nat
import Mathlib.Algebra.Order.BigOperators.Group.List
import Mathlib.Algebra.Order.Group.Nat
import Mathlib.Data.List.Fold
import Mathlib.Data.List.MinMax
import Mathlib.Order.Nat
import Reconcile.Proofs.Console.Markup
import Reconcile.Proofs.Console.Wrap

/-!
# The layout of a table

A table of texts whose rows have room: each column is as wide as its widest text, and each
row is one line between edges (`framed`). How wide a text is, is the console's matter. The
brackets and backslashes on the lines are those of the texts (`marksOf_framed`).
-/

namespace Reconcile.Console.Table

/-! ## Numbers -/

theorem total_eq_sum (ns : List Nat) : total ns = ns.sum := List.sum_eq_foldl.symm

theorem total_cons (n : Nat) (ns : List Nat) : total (n :: ns) = n + total ns := by
  rw [total_eq_sum, total_eq_sum, List.sum_cons]

theorem total_append (ns ms : List Nat) : total (ns ++ ms) = total ns + total ms := by
  rw [total_eq_sum, total_eq_sum, total_eq_sum, List.sum_append]

theorem le_total {n : Nat} {ns : List Nat} (h : n ∈ ns) : n ≤ total ns := by
  rw [total_eq_sum]
  exact List.le_sum_of_mem h

theorem total_le_of_forall₂ {ns ms : List Nat} (h : List.Forall₂ (· ≤ ·) ns ms) :
    total ns ≤ total ms := by
  rw [total_eq_sum, total_eq_sum]
  exact h.sum_le_sum

/-- Numbers that are no greater one by one are equal if they are no less together. -/
theorem eq_of_total_le {α : Type} {f g : α → Nat} {l : List α} (hle : ∀ a ∈ l, f a ≤ g a)
    (htotal : total (l.map g) ≤ total (l.map f)) : ∀ a ∈ l, f a = g a := by
  intro a ha
  by_contra hne
  have hlt := List.sum_lt_sum f g hle ⟨a, ha, Nat.lt_of_le_of_ne (hle a ha) hne⟩
  rw [← total_eq_sum, ← total_eq_sum] at hlt
  exact Nat.not_le.2 hlt htotal

theorem greatest_eq_foldr (ns : List Nat) : greatest ns = ns.foldr max ⊥ := List.foldl_eq_foldr

theorem le_greatest {n : Nat} {ns : List Nat} (h : n ∈ ns) : n ≤ greatest ns := by
  rw [greatest_eq_foldr]
  exact List.le_max_of_le h (Nat.le_refl n)

theorem greatest_le {n : Nat} {ns : List Nat} (h : ∀ m ∈ ns, m ≤ n) : greatest ns ≤ n := by
  rw [greatest_eq_foldr]
  exact List.max_le_of_forall_le ns n h

/-! ## Lanes -/

/-- The texts of a column, its header first. -/
def textsOf (rows : List (List String)) (i : Nat) (column : Column) : List String :=
  column.header :: rows.map fun row => row.getD i ""

/-- The lanes of a table, each as wide as its widest text. -/
def lanes (columnsOf : List Char → Nat) (columns : List Column) (rows : List (List String)) :
    List Lane :=
  columns.mapIdx fun i column =>
    ⟨column.justify, greatest ((textsOf rows i column).map fun text => columnsOf text.toList)⟩

/-- The lanes of a table have room together with the edges between and around them. -/
def HasRoom (available : Nat) (columnsOf : List Char → Nat) (columns : List Column)
    (rows : List (List String)) : Prop :=
  total ((lanes columnsOf columns rows).map fun lane => lane.size + 1) < available

instance (available : Nat) (columnsOf : List Char → Nat) (columns : List Column)
    (rows : List (List String)) : Decidable (HasRoom available columnsOf columns rows) :=
  Nat.decLt _ _

variable {columnsOf : List Char → Nat} {columns : List Column} {rows rows' : List (List String)}

theorem length_lanes : (lanes columnsOf columns rows).length = columns.length :=
  List.length_mapIdx

/-- Lanes depend on the columns that the texts take. -/
theorem lanes_congr {columnsOf' : List Char → Nat}
    (hheaders : ∀ column ∈ columns,
      columnsOf column.header.toList = columnsOf' column.header.toList)
    (hcells : ∀ row ∈ rows, ∀ cell ∈ row, columnsOf cell.toList = columnsOf' cell.toList)
    (hnil : columnsOf [] = columnsOf' []) :
    lanes columnsOf columns rows = lanes columnsOf' columns rows := by
  refine List.ext_getElem (length_lanes.trans length_lanes.symm) fun i hi _ => ?_
  rw [length_lanes] at hi
  simp only [lanes, List.getElem_mapIdx]
  refine congrArg (fun ns => Lane.mk columns[i].justify (greatest ns)) ?_
  refine List.map_congr_left fun text htext => ?_
  rcases List.mem_cons.1 htext with rfl | htext
  · exact hheaders _ (List.getElem_mem hi)
  · obtain ⟨row, hrow, rfl⟩ := List.mem_map.1 htext
    rw [List.getD_eq_getElem?_getD]
    cases hcell : row[i]? with
    | none => exact hnil
    | some cell => exact hcells row hrow cell (List.mem_of_getElem? hcell)

theorem getD_of_forall₂ {R : String → String → Prop} {row' row : List String}
    (h : List.Forall₂ R row' row) {i : Nat} (hi : i < row.length) :
    R (row'.getD i "") (row.getD i "") := by
  induction h generalizing i with
  | nil => exact absurd hi (Nat.not_lt_zero i)
  | cons hcell _ ih =>
    cases i with
    | zero => exact hcell
    | succ i => exact ih (Nat.lt_of_succ_lt_succ hi)

/-- A table has room if one with wider texts has. -/
theorem HasRoom.of_forall₂ {available : Nat} (h : HasRoom available columnsOf columns rows)
    (hlength : ∀ row ∈ rows, row.length = columns.length)
    (hrows : List.Forall₂ (List.Forall₂ fun cell' cell =>
      columnsOf cell'.toList ≤ columnsOf cell.toList) rows' rows) :
    HasRoom available columnsOf columns rows' := by
  have hwidths : ∀ i (hi : i < columns.length),
      greatest ((textsOf rows' i columns[i]).map fun text => columnsOf text.toList) ≤
        greatest ((textsOf rows i columns[i]).map fun text => columnsOf text.toList) := by
    intro i hi
    refine greatest_le fun n hn => ?_
    obtain ⟨text, htext, rfl⟩ := List.mem_map.1 hn
    rcases List.mem_cons.1 htext with rfl | htext
    · exact le_greatest (List.mem_map_of_mem List.mem_cons_self)
    · obtain ⟨row', hrow', rfl⟩ := List.mem_map.1 htext
      obtain ⟨row, hrow, hcells⟩ := Sequence.exists_of_mem_left hrows hrow'
      have hcell := getD_of_forall₂ hcells (i := i) (by rw [hlength row hrow]; exact hi)
      refine hcell.trans (le_greatest ?_)
      exact List.mem_map.2 ⟨_, List.mem_cons_of_mem _ (List.mem_map_of_mem hrow), rfl⟩
  refine Nat.lt_of_le_of_lt (total_le_of_forall₂ ?_) h
  refine List.forall₂_iff_get.2 ⟨by simp [lanes], fun i hi hi' => ?_⟩
  have hi : i < columns.length := by simpa [lanes] using hi
  simpa [lanes, Lane.size] using hwidths i hi

/-! ## Lines -/

/-- A text in its place in a lane, with spaces for the columns that are left. On the right
it goes without the blanks at its end. -/
def Lane.aligned (columnsOf : List Char → Nat) (lane : Lane) (s : List Char) : List Char :=
  match lane.justify with
  | .left => s ++ blanks (lane.columns - columnsOf s)
  | .right => blanks (lane.columns - columnsOf (trimEnd s)) ++ trimEnd s

/-- Texts on one line, a space on each side of each and `edge` between and around them. -/
def framedLine (columnsOf : List Char → Nat) (edge : Char) (lanes : List Lane)
    (row : List String) : String :=
  String.ofList (edge :: (lanes.zip row).flatMap fun p =>
    ' ' :: p.1.aligned columnsOf p.2.toList ++ [' ', edge])

/-- A table of texts, with one line for each of its rows. -/
def framed (columnsOf : List Char → Nat) (columns : List Column) (rows : List (List String)) :
    List String :=
  let lanes := lanes columnsOf columns rows
  rule '┏' '━' '┳' '┓' lanes :: framedLine columnsOf '┃' lanes (columns.map Column.header) ::
    rule '┡' '━' '╇' '┩' lanes :: rows.map (framedLine columnsOf '│' lanes) ++
    [rule '└' '─' '┴' '┘' lanes]

/-! ## Marks -/

open Markup (marks marks_append)

/-- The marks in some lines. -/
def marksOf (ls : List String) : Nat := total (ls.map fun l => marks l.toList)

theorem marks_blanks (n : Nat) : marks (blanks n) = 0 := by
  rw [marks, blanks, List.countP_replicate]
  rfl

/-- What is trimmed off a text has no marks, since none of them is blank. -/
theorem marks_trimEnd (s : List Char) : marks (trimEnd s) = marks s := by
  have hblank : marks (s.rtakeWhile Text.isBlank) = 0 := by
    refine List.countP_eq_zero.2 fun c hc hmark => ?_
    have hc : Text.isBlank c = true := List.mem_rtakeWhile_imp hc
    rcases Bool.or_eq_true_iff.1 hmark with hmark | hmark <;>
      exact absurd (of_decide_eq_true hmark ▸ hc) (by decide)
  conv_rhs => rw [← List.rdropWhile_append_rtakeWhile (p := Text.isBlank) (l := s), marks_append,
    hblank]
  rfl

theorem marks_aligned (lane : Lane) (s : List Char) :
    marks (lane.aligned columnsOf s) = marks s := by
  rw [Lane.aligned]
  cases lane.justify with
  | left => rw [marks_append, marks_blanks, Nat.add_zero]
  | right => rw [marks_append, marks_blanks, Nat.zero_add, marks_trimEnd]

theorem marks_flatten_intersperse {sep : List Char} {ls : List (List Char)}
    (hsep : marks sep = 0) (h : ∀ l ∈ ls, marks l = 0) :
    marks (ls.intersperse sep).flatten = 0 := by
  induction ls with
  | nil => rfl
  | cons l ls ih =>
    obtain ⟨hl, hls⟩ := List.forall_mem_cons.1 h
    cases ls with
    | nil => rw [List.intersperse_singleton, List.flatten_singleton, hl]
    | cons m ls =>
      rw [List.intersperse_cons_cons, List.flatten_cons, List.flatten_cons, marks_append,
        marks_append, hl, hsep, ih hls]

theorem marks_rule {left line cross right : Char} (lanes : List Lane)
    (h : marks [left, line, cross, right] = 0) :
    marks (rule left line cross right lanes).toList = 0 := by
  have hone : ∀ c ∈ [left, line, cross, right], marks [c] = 0 := fun c hc =>
    List.countP_eq_zero.2 (List.forall_mem_singleton.2 (List.countP_eq_zero.1 h c hc))
  simp only [List.forall_mem_cons] at hone
  obtain ⟨hleft, hline, hcross, hright, -⟩ := hone
  have hlanes : ∀ l ∈ lanes.map fun lane => List.replicate lane.size line, marks l = 0 := by
    rw [List.forall_mem_map]
    intro lane _
    have hdecide : (decide (line = '[') || decide (line = '\\')) = false := by
      have hnone := List.countP_eq_zero.1 hline line (List.mem_singleton_self _)
      rwa [Bool.not_eq_true] at hnone
    rw [marks, List.countP_replicate, hdecide]
    rfl
  rw [rule, ofRuns, String.toList_ofList, List.flatten_append, List.flatten_cons,
    List.flatten_singleton, marks_append, marks_append, hleft, hright,
    marks_flatten_intersperse hcross hlanes]

theorem marks_framedLine {edge : Char} (hedge : marks [edge] = 0) {lanes : List Lane}
    {row : List String} (hlength : row.length ≤ lanes.length) :
    marks (framedLine columnsOf edge lanes row).toList = marksOf row := by
  have hblank : marks [' '] = 0 := rfl
  have hcell : ∀ p : Lane × String,
      marks (' ' :: p.1.aligned columnsOf p.2.toList ++ [' ', edge]) = marks p.2.toList := by
    intro p
    have hsplit : ' ' :: p.1.aligned columnsOf p.2.toList ++ [' ', edge] =
        [' '] ++ (p.1.aligned columnsOf p.2.toList ++ ([' '] ++ [edge])) := rfl
    rw [hsplit]
    simp only [marks_append, hblank, hedge, marks_aligned, Nat.zero_add, Nat.add_zero]
  have hcells : ∀ ps : List (Lane × String),
      marks (ps.flatMap fun p => ' ' :: p.1.aligned columnsOf p.2.toList ++ [' ', edge]) =
        marksOf (ps.map Prod.snd) := by
    intro ps
    induction ps with
    | nil => rfl
    | cons p ps ih =>
      rw [List.flatMap_cons, marks_append, hcell, ih]
      exact (total_cons _ _).symm
  rw [framedLine, String.toList_ofList, ← List.singleton_append, marks_append, hedge,
    Nat.zero_add, hcells, List.map_snd_zip hlength]

/-- **The marks on the lines of a table** are those of its texts. -/
theorem marksOf_framed (hlength : ∀ row ∈ rows, row.length = columns.length) :
    marksOf (framed columnsOf columns rows) =
      marksOf (columns.map Column.header) + total (rows.map marksOf) := by
  have hlanes : (lanes columnsOf columns rows).length = columns.length := length_lanes
  have hheader : marks (framedLine columnsOf '┃' (lanes columnsOf columns rows)
      (columns.map Column.header)).toList = marksOf (columns.map Column.header) :=
    marks_framedLine rfl (by rw [List.length_map, hlanes])
  have hbody : (rows.map (framedLine columnsOf '│' (lanes columnsOf columns rows))).map
      (fun l => marks l.toList) = rows.map marksOf := by
    rw [List.map_map]
    exact List.map_congr_left fun row hrow =>
      marks_framedLine rfl (by rw [hlanes, hlength row hrow])
  have htop := marks_rule (lanes columnsOf columns rows)
    (show marks ['┏', '━', '┳', '┓'] = 0 by decide)
  have hmiddle := marks_rule (lanes columnsOf columns rows)
    (show marks ['┡', '━', '╇', '┩'] = 0 by decide)
  have hbottom := marks_rule (lanes columnsOf columns rows)
    (show marks ['└', '─', '┴', '┘'] = 0 by decide)
  have hnil : total [] = 0 := rfl
  rw [marksOf, framed]
  simp only [List.map_append, List.map_cons, List.map_nil, total_append, total_cons, hbody, htop,
    hmiddle, hbottom, hheader, hnil, Nat.zero_add, Nat.add_zero]

end Reconcile.Console.Table
