import Reconcile.Proofs.Command.Directory
import Reconcile.Proofs.Console.Terminal

/-!
# Error messages on the console

The message of an error goes through the markup of the console, as it stands: a name with a
tag or with a bracket after a backslash is not shown as it is, nor is the wording of a table
of options that is none, and a closing tag may stop the report. Main statement:
`error_line_exact_iff`.
-/

namespace Reconcile.Command

open Console (KeepsEnd isBare trimmed)
open Console.Markup (IsPlain coloredText marks visible)
open Text (IsPrintable)

/-! ## The line of a report -/

/-- The line that reports an error. -/
def errorLine (heading message : String) : String := heading ++ ": " ++ message

/-- A heading is of ASCII, and goes without markup and colons. -/
def IsHeading (heading : String) : Prop := heading.toList.all isBare = true

/-- What is printed of an error: its line, with markup. -/
def report (heading message : String) : String :=
  colored "red" (heading ++ ":") ++ " " ++ message

variable {heading message : String} {console : Console}

theorem printError_eq (console : Console) (heading message : String) :
    printError console heading message =
      printAfter [] 1 [console.print (report heading message)] := by
  rw [report, Text.ofString_append (colored "red" (heading ++ ":") ++ " ")]
  rfl

theorem toList_errorLine (heading message : String) :
    (errorLine heading message).toList = heading.toList ++ [':'] ++ ' ' :: message.toList := by
  simp [errorLine, String.toList_append]

/-- A report is a text with a coloured part, and with no other markup but that of the message. -/
theorem toList_report (heading message : String) :
    (report heading message).toList =
      coloredText "red".toList (heading.toList ++ [':']) (' ' :: message.toList) := by
  simp [report, colored, coloredText, String.toList_append, toString]

/-- A report in two parts, without a picture across them. -/
theorem toList_report_eq_append (heading message : String) :
    (report heading message).toList =
      ("[red]".toList ++ (heading.toList ++ ":[/red]".toList)) ++ ' ' :: message.toList := by
  simp [report, colored, String.toList_append, toString]

theorem isPlain_blank_cons {s : List Char} : IsPlain (' ' :: s) ↔ IsPlain s :=
  Console.Markup.isPlain_cons_of_ne (by decide) (by decide)

theorem isPrintable_blank_cons {s : List Char} (h : IsPrintable s) : IsPrintable (' ' :: s) :=
  List.forall_mem_cons.2 ⟨Text.isPrintable_of_isAsciiPrint (by decide), h⟩

section

variable (h : IsHeading heading)
include h

theorem IsHeading.bracket_notMem : '[' ∉ heading.toList ++ [':'] := by
  simpa using Console.bracket_notMem_of_isBare h

theorem IsHeading.backslash_notMem : '\\' ∉ heading.toList ++ [':'] := by
  simpa using Console.backslash_notMem_of_isBare h

theorem IsHeading.isPrintable : IsPrintable (heading.toList ++ [':']) :=
  (Console.isPrintable_of_isBare h).append (.of_ascii (by decide))

/-- A report shows its heading and what is visible of the message. -/
theorem visible_report (message : String) :
    visible (report heading message).toList =
      heading.toList ++ [':'] ++ visible (' ' :: message.toList) := by
  rw [toList_report]
  exact Console.Markup.visible_coloredText (by decide) h.bracket_notMem h.backslash_notMem
    h.isPrintable _

theorem visible_report_of_isPlain (hprintable : IsPrintable message.toList)
    (hplain : IsPlain message.toList) :
    visible (report heading message).toList = (errorLine heading message).toList := by
  rw [visible_report h, toList_errorLine, Console.Markup.visible_of_isPlain
    (isPlain_blank_cons.2 hplain) (isPrintable_blank_cons hprintable)]

/-- A report shows part of its line. -/
theorem visible_report_sublist (message : String) :
    (visible (report heading message).toList).Sublist (errorLine heading message).toList := by
  rw [visible_report h, toList_errorLine]
  exact (List.Sublist.refl _).append (Console.Markup.visible_sublist _)

/-- A report that shows all marks of its line has a plain message. -/
theorem isPlain_of_marks_le
    (hmarks : marks (errorLine heading message).toList ≤
      marks (visible (report heading message).toList)) : IsPlain message.toList := by
  rw [visible_report h, toList_errorLine, Console.Markup.marks_append (_ ++ _),
    Console.Markup.marks_append (_ ++ _)] at hmarks
  refine isPlain_blank_cons.1 ((Console.Markup.isPlain_or_marks_visible_lt _).resolve_right ?_)
  omega

theorem admits_report (hread : console.ReadsMarkup) (hmessage : console.Admits message.toList) :
    console.Admits (report heading message).toList := by
  rw [toList_report_eq_append]
  refine .append_space hread (.of_ascii hread ?_ ?_) hmessage
  · rw [List.all_append, List.all_append, Console.all_isAsciiPrint_of_isBare h]
    decide
  · have hnone : heading.toList.count ':' = 0 :=
      List.count_eq_zero.2 (Console.colon_notMem_of_isBare h)
    rw [List.count_append, List.count_append, hnone]
    decide

/-- The lines of a report that is printed are one, if its line fits. -/
theorem eq_of_print_report (hread : console.ReadsMarkup)
    (hmessage : console.Admits message.toList)
    (hwidth : console.columnsOf (errorLine heading message).toList ≤ console.columns)
    {lines : List String} (hlines : console.print (report heading message) = .ok lines) :
    lines =
      [String.ofList (trimmed console.columns (visible (report heading message).toList))] := by
  have hadmits := admits_report h hread hmessage
  have hline : IsPrintable (errorLine heading message).toList := by
    rw [toList_errorLine]
    exact h.isPrintable.append (isPrintable_blank_cons hmessage.printable)
  have hnarrow : ∀ c ∈ (errorLine heading message).toList, console.isNarrow c = true := by
    rw [toList_errorLine]
    refine List.forall_mem_append.2 ⟨fun c hc => ?_, List.forall_mem_cons.2
      ⟨hread.narrow_of_ascii _ rfl, hmessage.narrow⟩⟩
    refine hread.narrow_of_ascii c ?_
    rcases List.mem_append.1 hc with hc | hc
    · exact (Console.isBare_of_mem h hc).1
    · rw [List.mem_singleton.1 hc]
      rfl
  exact hread.eq_of_print _ _ hadmits
    ((hread.columnsOf_le_of_sublist hline hnarrow (visible_report_sublist h message)).trans hwidth)
    hlines

/-- **A report is written as it is** exactly when the message has no markup, and no blanks
at its end that are trimmed. -/
theorem printError_eq_finish_iff (hread : console.ReadsMarkup)
    (hmessage : console.Admits message.toList)
    (hwidth : console.columnsOf (errorLine heading message).toList ≤ console.columns) :
    printError console heading message = finish 1 (errorLine heading message ++ "\n") ↔
      IsPlain message.toList ∧ KeepsEnd console.columns (errorLine heading message).toList := by
  rw [printError_eq]
  constructor
  · intro hrun
    cases hlines : console.print (report heading message) with
    | error fault =>
      rw [hlines] at hrun
      cases congrArg Outcome.fault hrun
    | ok lines =>
      rw [hlines, eq_of_print_report h hread hmessage hwidth hlines] at hrun
      have htrimmed : trimmed console.columns (visible (report heading message).toList) =
          (errorLine heading message).toList := by
        have hstdout := congrArg (fun outcome => outcome.stdout.toList) hrun
        simpa [printAfter, finish, unlines, String.toList_append] using hstdout
      have hplain : IsPlain message.toList := by
        refine isPlain_of_marks_le h ?_
        rw [← htrimmed]
        exact Console.Markup.marks_le_of_sublist (Console.trimmed_sublist _ _)
      rw [visible_report_of_isPlain h hmessage.printable hplain] at htrimmed
      exact ⟨hplain, Console.trimmed_eq_self_iff.1 htrimmed⟩
  · rintro ⟨hplain, hkeeps⟩
    obtain ⟨lines, hlines⟩ := hread.exists_print (report heading message) (by
      rw [toList_report]
      exact .colored (by decide) h.bracket_notMem h.backslash_notMem
        (isPlain_blank_cons.2 hplain))
    have heq := eq_of_print_report h hread hmessage hwidth hlines
    rw [visible_report_of_isPlain h hmessage.printable hplain,
      Console.trimmed_eq_self_iff.2 hkeeps, String.ofList_toList] at heq
    rw [hlines, heq]
    simp [printAfter, unlines, String.join]

end

/-! ## The run -/

/-- The error that a run reports: that of its options whatever the inventories are, then that
of the local inventory whatever the remote one is. -/
inductive Reports (host : Host) (p : PlanRequest) : String → Text → Prop
  | config {e : Options.LoadError} (h : effectiveOptions host p = .error e)
    (hreported : e.isReported = true) : Reports host p "Invalid config" e.message
  | here {o : Options} {e : Inventory.LoadError} (ho : effectiveOptions host p = .ok o)
    (h : loadInventory host p.here = .error e) (hreported : e.isReported = true) :
    Reports host p "Invalid inventory" e.message
  | there {o : Options} {i : Inventory} {e : Inventory.LoadError}
    (ho : effectiveOptions host p = .ok o) (hi : loadInventory host p.here = .ok i)
    (h : loadInventory host p.there = .error e) (hreported : e.isReported = true) :
    Reports host p "Invalid inventory" e.message

variable {host : Host} {arguments : List String} {p : PlanRequest}

theorem failOptions_of_isReported {e : Options.LoadError} (h : e.isReported = true) :
    failOptions console e = printError console "Invalid config" e.message := by
  cases e with
  | unreadable | notToml | notTable | table => rfl
  | longInteger | tooDeep | homeless | tooLong | malformed => cases h

theorem failInventory_of_isReported {e : Inventory.LoadError} (h : e.isReported = true) :
    failInventory console e = printError console "Invalid inventory" e.message := by
  cases e with
  | unreadable | notJson | malformed => rfl
  | stopped | homeless => cases h

theorem Reports.isHeading {message : Text} (h : Reports host p heading message) :
    IsHeading heading := by
  rw [IsHeading]
  cases h <;> decide

theorem Reports.run_eq {message : Text} (hp : readArguments arguments = .ok (.plan p))
    (h : Reports host p heading message) :
    run host arguments = printError host.console heading message := by
  rw [run, hp]
  show runPlan host p = _
  rw [runPlan]
  cases h with
  | config h hreported =>
    rw [h]
    exact failOptions_of_isReported hreported
  | here ho h hreported =>
    rw [ho, loadBoth, h]
    exact failInventory_of_isReported hreported
  | there ho hi h hreported =>
    rw [ho, loadBoth, hi, h]
    exact failInventory_of_isReported hreported

end Reconcile.Command
