import Reconcile.Proofs.Console.Terminal
import Reconcile.Proofs.Json.Number
import Reconcile.Proofs.Plan.Single

/-!
# Paths in the table

The path of an operation goes through the markup of the console, as it stands: a name with
a tag or with a bracket after a backslash is not shown as it is, and one with a closing tag
may stop the program. All other cells show as they are, a status without the tags of its
colour. Main statement: `table_shows_paths_iff`.
-/

namespace Reconcile.Command

open Console (isBare)
open Console.Markup (IsColored IsPlain coloredText marks shownText textColors visible)
open Text (IsPrintable)

/-! ## Texts of the program's own -/

theorem isBare_of_isDigit {c : Char} (h : c.isDigit = true) : isBare c = true := by
  have hcode : 0x30 ≤ c.toNat ∧ c.toNat ≤ 0x39 := by
    simpa [Char.isDigit, UInt32.le_iff_toNat_le] using h
  refine Console.isBare_iff.2 ⟨?_, ?_, ?_, ?_⟩
  · rw [Text.isAsciiPrint, Bool.and_eq_true, decide_eq_true_eq, decide_eq_true_eq]
    omega
  all_goals
    rintro rfl
    exact absurd hcode (by decide)

theorem isBare_toDigits (n : Nat) : (Nat.toDigits 10 n).all isBare = true :=
  List.all_eq_true.2 fun _ hc => isBare_of_isDigit (Json.digits_toDigits hc)

theorem isBare_nat (n : Nat) : (toString n).toList.all isBare = true := by
  have htext : (toString n).toList = Nat.toDigits 10 n := String.toList_ofList
  exact htext ▸ isBare_toDigits n

theorem isBare_int (n : Int) : (toString n).toList.all isBare = true := by
  cases n with
  | ofNat m => exact isBare_nat m
  | negSucc m =>
    have htext : (toString (Int.negSucc m)).toList = '-' :: Nat.toDigits 10 (m + 1) := by
      show ("-" ++ String.ofList (Nat.toDigits 10 (m + 1))).toList = _
      rw [String.toList_append]
      exact congrArg ('-' :: ·) String.toList_ofList
    rw [htext, List.all_cons, isBare_toDigits]
    rfl

theorem isBare_sizeText (e : Option Entry) : (sizeText e).toList.all isBare = true := by
  cases e with
  | none => decide
  | some e =>
    rw [sizeText]
    split
    · decide
    · exact isBare_int e.size

theorem isBare_status (s : Status) : s.name.toList.all isBare = true := by
  cases s <;> decide

theorem isBare_action (a : Action) : a.name.toList.all isBare = true := by
  cases a <;> decide

theorem bracket_notMem_nat (n : Nat) : '[' ∉ (toString n).toList :=
  Console.bracket_notMem_of_isBare (isBare_nat n)

/-- The lines around the table have no markup. -/
theorem isPlain_headLines (o : Options) (here there : Inventory) :
    ∀ line ∈ headLines o here there, IsPlain line.toList := by
  have hdirection : '[' ∉ o.direction.name.toList := by cases o.direction <;> decide
  simp only [headLines, List.forall_mem_cons]
  refine ⟨?_, ?_, ?_, List.forall_mem_nil _⟩ <;> refine Console.Markup.isPlain_of_notMem ?_
  · simpa [toString, String.toList_append] using bracket_notMem_nat here.size
  · simpa [toString, String.toList_append] using bracket_notMem_nat there.size
  · simpa [toString, String.toList_append] using hdirection

theorem isPlain_summaryLine (s : Summary) : IsPlain (summaryLine s).toList := by
  refine Console.Markup.isPlain_of_notMem ?_
  have hdigits : ∀ n, '[' ∉ Nat.toDigits 10 n := fun n =>
    Console.bracket_notMem_of_isBare (isBare_toDigits n)
  simp [summaryLine, toString, String.toList_append, hdigits]

/-! ## The cells of an operation -/

/-- The cells of an operation as they are to be shown. -/
def planCells (op : Operation) : List String :=
  [(pathText op.comparison).string, op.comparison.status.name, op.action.name,
    sizeText op.comparison.here, sizeText op.comparison.there]

/-- The row of an operation as strings. -/
def planStrings (op : Operation) : List String := (planRow op).map Text.string

theorem planStrings_eq (op : Operation) :
    planStrings op =
      [(pathText op.comparison).string,
        colored (statusColor op.comparison.status) op.comparison.status.name, op.action.name,
        sizeText op.comparison.here, sizeText op.comparison.there] := by
  simp only [planStrings, planRow, List.map_cons, List.map_nil, Text.string_ofString]

theorem statusColor_mem (s : Status) : statusColor s ∈ textColors := by cases s <;> decide

theorem toList_colored (color text : String) :
    (colored color text).toList = coloredText color.toList text.toList [] := by
  simp [colored, coloredText, String.toList_append, toString]

theorem shownText_of_isBare {text : String} (h : text.toList.all isBare = true) :
    shownText text = text := by
  rw [shownText, Console.visible_of_isBare h, String.ofList_toList]

theorem shownText_colored {color text : String} (hcolor : color ∈ textColors)
    (h : text.toList.all isBare = true) : shownText (colored color text) = text := by
  rw [shownText, toList_colored, Console.Markup.visible_coloredText hcolor
    (Console.bracket_notMem_of_isBare h) (Console.backslash_notMem_of_isBare h)
    (Console.isPrintable_of_isBare h)]
  exact (congrArg String.ofList (List.append_nil _)).trans String.ofList_toList

/-- No cell of an operation but its path hides anything. -/
theorem shown_planStrings (op : Operation) :
    (planStrings op).map shownText =
      shownText (pathText op.comparison).string :: (planCells op).tail := by
  simp only [planStrings_eq, planCells, List.map_cons, List.map_nil, List.tail_cons,
    shownText_colored (statusColor_mem _) (isBare_status _), shownText_of_isBare (isBare_action _),
    shownText_of_isBare (isBare_sizeText _)]

/-- A directory has a slash after its path. -/
theorem toList_pathText (c : Comparison) :
    (pathText c).string.toList = c.path.string.toList ++ if c.isDir then ['/'] else [] := by
  rw [pathText]
  split
  · rw [Text.string_append_ofString, String.toList_append]
    rfl
  · rw [List.append_nil]

/-- A path is as plain with the slash of a directory as without. -/
theorem isPlain_pathText_iff {c : Comparison} :
    IsPlain (pathText c).string.toList ↔ IsPlain c.path.string.toList := by
  rw [toList_pathText]
  split
  · exact Console.Markup.isPlain_concat_of_ne (by decide) (by decide)
  · rw [List.append_nil]

/-- Only the path of an operation may have markup of more than its colour. -/
theorem isColored_planStrings {op : Operation} (h : IsPlain op.comparison.path.string.toList) :
    ∀ cell ∈ planStrings op, IsColored cell.toList := by
  have hbare : ∀ {text : String}, text.toList.all isBare = true → IsColored text.toList :=
    fun h => .plain (Console.Markup.isPlain_of_notMem (Console.bracket_notMem_of_isBare h))
  have hstatus := isBare_status op.comparison.status
  simp only [planStrings_eq, List.forall_mem_cons]
  refine ⟨.plain (isPlain_pathText_iff.2 h), ?_, hbare (isBare_action _),
    hbare (isBare_sizeText _), hbare (isBare_sizeText _), List.forall_mem_nil _⟩
  rw [toList_colored]
  exact .colored (statusColor_mem _) (Console.bracket_notMem_of_isBare hstatus)
    (Console.backslash_notMem_of_isBare hstatus) Console.Markup.isPlain_nil

variable {console : Console}

theorem admits_of_isBare (hread : console.ReadsMarkup) {s : List Char} (h : s.all isBare = true) :
    console.Admits s :=
  .of_ascii hread (Console.all_isAsciiPrint_of_isBare h)
    (by rw [List.count_eq_zero.2 (Console.colon_notMem_of_isBare h)]; exact Nat.zero_le 1)

theorem admits_pathText (hread : console.ReadsMarkup) {c : Comparison}
    (h : console.Admits c.path.string.toList) : console.Admits (pathText c).string.toList := by
  rw [toList_pathText]
  split
  · exact h.concat hread rfl (by decide)
  · rwa [List.append_nil]

theorem admits_planStrings (hread : console.ReadsMarkup) {op : Operation}
    (h : console.Admits op.comparison.path.string.toList) :
    ∀ cell ∈ planStrings op, console.Admits cell.toList := by
  have hbare : ∀ {text : String}, text.toList.all isBare = true → console.Admits text.toList :=
    admits_of_isBare hread
  have hstatus : ∀ s : Status, ((colored (statusColor s) s.name).toList.all Text.isAsciiPrint &&
      decide ((colored (statusColor s) s.name).toList.count ':' ≤ 1)) = true := by
    intro s
    cases s <;> decide
  obtain ⟨hascii, hcolon⟩ := Bool.and_eq_true_iff.1 (hstatus op.comparison.status)
  simp only [planStrings_eq, List.forall_mem_cons]
  exact ⟨admits_pathText hread h, .of_ascii hread hascii (of_decide_eq_true hcolon),
    hbare (isBare_action _), hbare (isBare_sizeText _), hbare (isBare_sizeText _),
    List.forall_mem_nil _⟩

theorem admits_planColumns (hread : console.ReadsMarkup) :
    ∀ column ∈ planColumns, console.Admits column.header.toList ∧ IsPlain column.header.toList := by
  have hbare : ∀ column ∈ planColumns, column.header.toList.all isBare = true := by decide
  exact fun column hcolumn => ⟨admits_of_isBare hread (hbare column hcolumn),
    Console.Markup.isPlain_of_notMem (Console.bracket_notMem_of_isBare (hbare column hcolumn))⟩

/-! ## The table of a plan -/

/-- The table of a plan has room on a console. -/
def HasRoom (console : Console) (ops : List Operation) : Prop :=
  Console.Table.HasRoom console.columns console.columnsOf planColumns (ops.map planCells)

variable {ops : List Operation}

/-- The rows of paths without halves are those of strings. -/
theorem map_planRow_eq (hadmits : ∀ op ∈ ops, console.AdmitsText op.comparison.path) :
    ops.map planRow = (ops.map planStrings).map (·.map .ofString) := by
  rw [List.map_map]
  refine List.map_congr_left fun op hop => ?_
  have hpath : ((pathText op.comparison).string : Text) = pathText op.comparison := by
    have hself := (hadmits op hop).ofString_string
    rw [pathText]
    split
    · rw [Text.string_append_ofString, Text.ofString_append, hself]
    · exact hself
  simp only [Function.comp_apply, planStrings_eq, planRow, List.map_cons, List.map_nil, hpath]

/-- What a table shows takes no more columns than its cells. -/
theorem hasRoom_shown (hread : console.ReadsMarkup)
    (hadmits : ∀ op ∈ ops, console.AdmitsText op.comparison.path) (hroom : HasRoom console ops) :
    Console.Table.HasRoom console.columns console.columnsOf planColumns
      ((ops.map planStrings).map (·.map shownText)) := by
  refine Console.Table.HasRoom.of_forall₂ hroom (List.forall_mem_map.2 fun _ _ => rfl) ?_
  rw [List.map_map, List.forall₂_map_left_iff, List.forall₂_map_right_iff, List.forall₂_same]
  intro op hop
  rw [Function.comp_apply, shown_planStrings]
  refine .cons ?_ (List.forall₂_same.2 fun _ _ => Nat.le_refl _)
  rw [shownText, String.toList_ofList]
  exact hread.columnsOf_visible_le (admits_pathText hread (hadmits op hop).admits)

/-- The lines of a table that is printed. -/
theorem eq_framed_of_printTable (hread : console.ReadsMarkup)
    (hadmits : ∀ op ∈ ops, console.AdmitsText op.comparison.path) (hroom : HasRoom console ops)
    {ls : List String} (hls : console.printTable planColumns (ops.map planRow) = .ok ls) :
    ls = Console.Table.framed console.columnsOf planColumns
      ((ops.map planStrings).map (·.map shownText)) :=
  hread.eq_of_printTable _ _ _ (List.cons_ne_nil _ _) (admits_planColumns hread)
    (List.forall_mem_map.2 fun _ _ => rfl)
    (List.forall_mem_map.2 fun op hop => admits_planStrings hread (hadmits op hop).admits)
    (hasRoom_shown hread hadmits hroom) (map_planRow_eq hadmits ▸ hls)

/-- The table of plain paths, as it is to be written. -/
theorem printTable_of_isPlain (hread : console.ReadsMarkup)
    (hadmits : ∀ op ∈ ops, console.AdmitsText op.comparison.path) (hroom : HasRoom console ops)
    (hplain : ∀ op ∈ ops, IsPlain op.comparison.path.string.toList) :
    console.printTable planColumns (ops.map planRow) =
      .ok (Console.Table.framed console.columnsOf planColumns (ops.map planCells)) := by
  obtain ⟨ls, hls⟩ := hread.exists_printTable planColumns (ops.map planStrings)
    (List.forall_mem_map.2 fun op hop => isColored_planStrings (hplain op hop))
  rw [← map_planRow_eq hadmits] at hls
  have hcells : (ops.map planStrings).map (·.map shownText) = ops.map planCells := by
    rw [List.map_map]
    refine List.map_congr_left fun op hop => ?_
    have hpath : shownText (pathText op.comparison).string = (pathText op.comparison).string := by
      rw [shownText, Console.Markup.visible_of_isPlain (isPlain_pathText_iff.2 (hplain op hop))
        (admits_pathText hread (hadmits op hop).admits).printable, String.ofList_toList]
    rw [Function.comp_apply, shown_planStrings, hpath]
    rfl
  rw [hls, eq_framed_of_printTable hread hadmits hroom hls, hcells]

theorem marksOf_planStrings (op : Operation) :
    Console.Table.marksOf ((planStrings op).map shownText) =
      marks (visible (pathText op.comparison).string.toList) +
        Console.Table.marksOf (planCells op).tail := by
  rw [shown_planStrings, Console.Table.marksOf, List.map_cons, Console.Table.total_cons, shownText,
    String.toList_ofList]
  rfl

theorem marksOf_planCells (op : Operation) :
    Console.Table.marksOf (planCells op) =
      marks (pathText op.comparison).string.toList +
        Console.Table.marksOf (planCells op).tail :=
  Console.Table.total_cons _ _

/-- A table with all the marks of its paths has plain paths. -/
theorem isPlain_of_marksOf (hread : console.ReadsMarkup)
    (hadmits : ∀ op ∈ ops, console.AdmitsText op.comparison.path) (hroom : HasRoom console ops)
    {ls : List String} (hls : console.printTable planColumns (ops.map planRow) = .ok ls)
    (hmarks : Console.Table.marksOf ls = Console.Table.marksOf
      (Console.Table.framed console.columnsOf planColumns (ops.map planCells))) :
    ∀ op ∈ ops, IsPlain op.comparison.path.string.toList := by
  have hlength : ∀ row ∈ (ops.map planStrings).map (·.map shownText),
      row.length = planColumns.length := by
    simp only [List.forall_mem_map, List.length_map]
    exact fun _ _ => rfl
  -- the header has the same marks in both tables, so that the rows together do too
  rw [eq_framed_of_printTable hread hadmits hroom hls,
    Console.Table.marksOf_framed hlength,
    Console.Table.marksOf_framed (List.forall_mem_map.2 fun _ _ => rfl),
    Nat.add_left_cancel_iff, List.map_map, List.map_map, List.map_map] at hmarks
  simp only [Function.comp_def] at hmarks
  have hless : ∀ op ∈ ops, Console.Table.marksOf ((planStrings op).map shownText) ≤
      Console.Table.marksOf (planCells op) := by
    intro op _
    rw [marksOf_planStrings, marksOf_planCells]
    exact Nat.add_le_add_right (Console.Markup.marks_le_of_sublist
      (Console.Markup.visible_sublist (pathText op.comparison).string.toList)) _
  have heach := Console.Table.eq_of_total_le hless (Nat.le_of_eq hmarks.symm)
  intro op hop
  have hpath := heach op hop
  rw [marksOf_planStrings, marksOf_planCells] at hpath
  refine isPlain_pathText_iff.1 ((Console.Markup.isPlain_or_marks_visible_lt _).resolve_right ?_)
  exact fun hlost => Nat.ne_of_lt hlost (Nat.add_right_cancel hpath)

/-! ## The run -/

/-- The lines of a text that is printed. -/
def printed (console : Console) (text : String) : List String :=
  (console.print text).toOption.getD []

theorem print_of_isPlain (hread : console.ReadsMarkup) {text : String} (h : IsPlain text.toList) :
    console.print text = .ok (printed console text) := by
  obtain ⟨ls, hls⟩ := hread.exists_print text (.plain h)
  rw [printed, hls]
  rfl

/-- What is to be written for a plan in a table: each cell as it is. -/
def Shown.page (console : Console) (s : Shown) : String :=
  unlines ((headLines s.options s.here s.there).flatMap (printed console) ++
    (Console.Table.framed console.columnsOf planColumns (s.operations.map planCells) ++
      printed console (summaryLine (.ofOperations s.operations))))

theorem printAfter_ok (front : List String) (exitCode : Nat) (lss : List (List String))
    (prints : List Print) :
    printAfter front exitCode (lss.map .ok ++ prints) =
      printAfter (front ++ lss.flatten) exitCode prints := by
  induction lss generalizing front with
  | nil =>
    rw [List.flatten_nil, List.append_nil]
    rfl
  | cons ls lss ih =>
    rw [List.map_cons, List.cons_append, printAfter, ih, List.flatten_cons, List.append_assoc]

/-- The lines around the table are printed, so that it is the table that the end depends on. -/
theorem printTable_eq (hread : console.ReadsMarkup) (o : Options) (here there : Inventory)
    (ops : List Operation) :
    printTable console o here there ops =
      printAfter ((headLines o here there).flatMap (printed console)) 0
        [planPrint console ops, .ok (printed console (summaryLine (.ofOperations ops)))] := by
  have hhead : (headLines o here there).map (console.print <| .ofString ·) =
      ((headLines o here there).map (printed console)).map .ok := by
    rw [List.map_map]
    exact List.map_congr_left fun line hline =>
      print_of_isPlain hread (isPlain_headLines o here there line hline)
  rw [printTable, hhead, print_of_isPlain hread (isPlain_summaryLine _), printAfter_ok,
    List.flatMap_def]
  rfl

theorem marks_unlines (ls : List String) :
    marks (unlines ls).toList = Console.Table.marksOf ls := by
  rw [unlines, String.toList_join]
  induction ls with
  | nil => rfl
  | cons l ls ih =>
    have hline : marks (l ++ "\n").toList = marks l.toList := by
      rw [String.toList_append, Console.Markup.marks_append]
      rfl
    rw [List.map_cons, List.flatMap_cons, Console.Markup.marks_append, ih, hline]
    exact (Console.Table.total_cons _ _).symm

theorem marksOf_append (ls ls' : List String) :
    Console.Table.marksOf (ls ++ ls') = Console.Table.marksOf ls + Console.Table.marksOf ls' := by
  rw [Console.Table.marksOf, List.map_append, Console.Table.total_append]
  rfl

/-- A line of ASCII without brackets is printed as it is, if there is room for it. -/
theorem printed_of_ascii {available : Nat} {text : String}
    (hascii : text.toList.all Text.isAsciiPrint = true) (hbracket : '[' ∉ text.toList)
    (hlength : text.toList.length ≤ available) : printed (.terminal available) text = [text] := by
  have hprintable : IsPrintable text.toList := .of_ascii hascii
  have hvisible : visible text.toList = text.toList :=
    Console.Markup.visible_of_isPlain (Console.Markup.isPlain_of_notMem hbracket) hprintable
  have hprint := print_of_isPlain (Console.readsMarkup_terminal available)
    (Console.Markup.isPlain_of_notMem hbracket)
  rw [Console.print_ofString] at hprint
  have hlines := Console.eq_of_markupLines hprintable
    (by rw [hvisible, Console.width_of_ascii hascii]; exact hlength) hprint
  rwa [hvisible, Console.trimmed_eq_self_iff.2 (.inl hlength), String.ofList_toList] at hlines

end Reconcile.Command
