import Reconcile.Proofs.Document.Codec
import Reconcile.Proofs.Plan.Output
import Reconcile.Proofs.Plan.Single

/-!
# What is printed as JSON is the plan

The document of a plan has the options in effect and the operations in order. No lists and
tables stand in one another more than five deep in it, so the JSON reader gives back what was
written (`Command.isKept_planFields`), and the records are read from their tables
(`Command.holdsPlan_planFields`). Main statement: `Command.holdsPlan_of_exitCode_eq_zero`.
-/

namespace Reconcile

open Json (IsKept isWritable)

/-! ## Records that JSON keeps -/

theorem Entry.isKept_toValue? {e? : Option Entry} {v : Value} (h : toValue? e? = .ok v)
    (hwritable : ∀ e ∈ e?, e.IsWritable) (room : Nat) : IsKept (room + 1) v := by
  cases e? with
  | none =>
    obtain rfl : Value.null = v := Except.ok.inj h
    exact .null
  | some e => exact isKept_toValue h (hwritable e rfl).short room

theorem Comparison.isKept_toValue {c : Comparison} {v : Value} (h : c.toValue = .ok v)
    (hwritable : ∀ e ∈ c.entries, e.IsWritable) (room : Nat) : IsKept (room + 2) v := by
  obtain ⟨here, there, hhere, hthere, rfl⟩ := toValue_eq_ok_iff.1 h
  simp only [entries, List.mem_append, Option.mem_toList, or_imp, forall_and] at hwritable
  refine .table (show (["relative_path", "status", "local_info", "remote_info", "is_dir"] :
    List Text).Nodup by decide) ?_
  simp only [fields, List.forall_mem_cons]
  exact ⟨.text _, .text _, Entry.isKept_toValue? hhere hwritable.1 room,
    Entry.isKept_toValue? hthere hwritable.2 room, .bool _, List.forall_mem_nil _⟩

theorem Operation.isKept_toValue {op : Operation} {v : Value} (h : op.toValue = .ok v)
    (hwritable : ∀ e ∈ op.comparison.entries, e.IsWritable) (room : Nat) :
    IsKept (room + 3) v := by
  obtain ⟨w, hw, rfl⟩ := toValue_eq_ok_iff.1 h
  refine .table (show (["comparison", "action"] : List Text).Nodup by decide) ?_
  simp only [List.forall_mem_cons]
  exact ⟨Comparison.isKept_toValue hw hwritable room, .text _, List.forall_mem_nil _⟩

theorem Options.isKept_toValue (o : Options) (room : Nat) : IsKept (room + 2) o.toValue := by
  have hpatterns : IsKept (room + 1) (.list (o.excludePatterns.map .text)) :=
    .list (List.forall_mem_map.2 fun s _ => .text s)
  refine .table (show fieldNames.Nodup by decide) ?_
  simp only [List.forall_mem_cons]
  exact ⟨.bool _, .bool _, .bool _, hpatterns, .text _, List.forall_mem_nil _⟩

namespace Command

/-! ## The document of a plan -/

variable {o : Options} {ops : List Operation}

/-- The fields of a document hold a plan: its options are read as `o`, and its operations
in order as equals of `ops`. -/
structure HoldsPlan (o : Options) (ops : List Operation) (fields : Fields) : Prop where
  options : ∃ v, Keyed.get? fields "options" = some v ∧ Options.ofValue v = .ok o
  operations : ∃ items, Keyed.get? fields "operations" = some (.list items) ∧
    List.Forall₂ (fun v op => ∃ op', Operation.ofValue v = .ok op' ∧ (op' == op) = true) items ops

theorem holdsPlan_planFields {items : List Value}
    (h : List.Forall₂ (fun op v => op.toValue = .ok v) ops items) :
    HoldsPlan o ops (planFields o items) where
  options := ⟨_, rfl, Options.ofValue_toValue o⟩
  operations := ⟨items, rfl, h.flip.imp fun _ _ => Operation.isCodec.exists_read⟩

theorem isKept_planFields {items : List Value}
    (h : List.Forall₂ (fun op v => op.toValue = .ok v) ops items)
    (hwritable : ∀ op ∈ ops, ∀ e ∈ op.comparison.entries, e.IsWritable) (room : Nat) :
    IsKept (room + 5) (.table (planFields o items)) := by
  refine .table (show (["options", "operations"] : List Text).Nodup by decide) ?_
  have hitems : ∀ v ∈ items, IsKept (room + 3) v := by
    intro v hv
    obtain ⟨op, hop, hvalue⟩ := Sequence.exists_of_mem_right h hv
    exact Operation.isKept_toValue hvalue (hwritable op hop) room
  simp only [planFields, List.forall_mem_cons]
  exact ⟨Options.isKept_toValue o (room + 2), .list hitems, List.forall_mem_nil _⟩

/-- **The text of a plan is read as a document that holds the plan.** -/
theorem exists_read_of_planJson {text : String} (runtime : Runtime)
    (h : planJson o ops = .ok text) :
    ∃ fields, Json.read runtime.jsonDepth (text.toList ++ ['\n']) = .ok (.table fields) ∧
      HoldsPlan o ops fields := by
  have hwritable := exists_planJson_iff.1 ⟨text, h⟩
  obtain ⟨items, hitems, -, rfl⟩ := planJson_eq_ok_iff.1 h
  refine ⟨planFields o items, ?_, holdsPlan_planFields hitems⟩
  -- the document takes five of the levels that the reader has
  obtain ⟨room, hroom⟩ := runtime.exists_jsonDepth_eq
  rw [String.toList_ofList, hroom]
  exact Json.read_written (isKept_planFields hitems hwritable room)

/-! ## The program -/

theorem printJson_of_ok {text : String} (h : planJson o ops = .ok text) :
    printJson o ops = finish 0 (text ++ "\n") := by
  rw [printJson, h]
  simp [unlines, String.join]

theorem exitCode_printJson_eq_zero_iff :
    (printJson o ops).exitCode = 0 ↔ ∃ text, planJson o ops = .ok text := by
  cases h : planJson o ops with
  | error fault => simp [printJson, h, stopped]
  | ok text => simp [printJson, h, finish]

theorem runPlan_json {host : Host} {p : PlanRequest} {source : Options}
    {here there : Inventory} (hjson : p.json = true)
    (hsource : sourceOptions host p.config = .ok source)
    (hhere : loadInventory host p.here = .ok here)
    (hthere : loadInventory host p.there = .ok there) :
    runPlan host p =
      printJson (p.apply source) (operations (p.apply source) p.onlyDirection here there) := by
  have heffective : effectiveOptions host p = .ok (p.apply source) := by
    rw [effectiveOptions, hsource]
    rfl
  have hboth : loadBoth host p = .ok (here, there) := by
    rw [loadBoth, hhere, hthere]
    rfl
  rw [runPlan, heffective, hboth]
  exact if_pos hjson

/-- **What `plan --json` prints is the plan.** With options and inventories that can be
loaded, the program ends well exactly when every entry of the plan can be written. Then
all it prints is one JSON document, and what is read back from it are the options with
those of the command line put in, and the operations for the comparisons under these
options, in order and equal up to the offsets of their time stamps. -/
theorem holdsPlan_of_exitCode_eq_zero {host : Host} {arguments : List String}
    {p : PlanRequest} {source : Options} {here there : Inventory}
    (hp : readArguments arguments = .ok (.plan p)) (hjson : p.json = true)
    (hsource : sourceOptions host p.config = .ok source)
    (hhere : loadInventory host p.here = .ok here)
    (hthere : loadInventory host p.there = .ok there) :
    let o := p.apply source
    let cs := here.compare o there
    let ops := plan o.direction (if p.onlyDirection then flowing o.direction cs else cs)
    let outcome := run host arguments
    (outcome.exitCode = 0 ↔ ∀ op ∈ ops, ∀ e ∈ op.comparison.entries, e.IsWritable) ∧
      (outcome.exitCode = 0 → ∃ fields,
        Json.read host.runtime.jsonDepth outcome.stdout.toList = .ok (.table fields) ∧
          HoldsPlan o ops fields) := by
  intro o cs ops outcome
  have houtcome : outcome = printJson o ops := by
    show run host arguments = _
    rw [run, hp]
    exact runPlan_json hjson hsource hhere hthere
  rw [houtcome]
  refine ⟨exitCode_printJson_eq_zero_iff.trans exists_planJson_iff, ?_⟩
  intro hexit
  obtain ⟨text, htext⟩ := exitCode_printJson_eq_zero_iff.1 hexit
  rw [printJson_of_ok htext]
  show ∃ fields, Json.read host.runtime.jsonDepth (text ++ "\n").toList = _ ∧ _
  rw [String.toList_append]
  exact exists_read_of_planJson host.runtime htext

/-- A new local file is printed as an upload, with a pattern of the command line after
the ones that hold by default. -/
theorem holdsPlan_of_single_upload :
    let host := singleHost "a" 1
    let arguments := ["plan", "l", "r", "--json", "--only-direction", "--exclude", "x"]
    let p : PlanRequest :=
      { here := "l", there := "r", exclude := ["x"], onlyDirection := true, json := true }
    let outcome := run host arguments
    let o : Options := { excludePatterns := defaultPatterns ++ [("x" : Text)] }
    let e : Entry := .ofFile "a" 1
    readArguments arguments = .ok (.plan p) ∧ p.json = true ∧
      sourceOptions host p.config = .ok {} ∧
      loadInventory host p.here = .ok (.ofPairs [("a", e)]) ∧
      loadInventory host p.there = .ok .empty ∧
      outcome.exitCode = 0 ∧ ∃ fields,
        Json.read Runtime.usual.jsonDepth outcome.stdout.toList = .ok (.table fields) ∧
          HoldsPlan o [⟨.ofLocal "a" e, .upload⟩] fields := by
  intro host arguments p outcome o e
  have hp : readArguments arguments = .ok (.plan p) := rfl
  have hsource : sourceOptions host p.config = .ok {} := rfl
  have hhere : loadInventory host p.here = .ok (.ofPairs [("a", e)]) :=
    loadInventory_single_here (by decide) (by decide)
  have hthere : loadInventory host p.there = .ok .empty := loadInventory_single_there
  have hops : plan o.direction (flowing o.direction
      (Inventory.compare o (.ofPairs [("a", e)]) .empty)) = [⟨.ofLocal "a" e, .upload⟩] := by
    rw [compare_single e (by decide)]
    rfl
  obtain ⟨hexit, hholds⟩ := holdsPlan_of_exitCode_eq_zero hp rfl hsource hhere hthere
  have hzero : outcome.exitCode = 0 := by
    refine hexit.2 fun op hop => ?_
    obtain rfl : op = ⟨.ofLocal "a" e, .upload⟩ := List.mem_singleton.1 (hops ▸ hop)
    exact List.forall_mem_singleton.2 (show e.IsWritable by decide)
  obtain ⟨fields, hread, hfields⟩ := hholds hzero
  exact ⟨hp, rfl, hsource, hhere, hthere, hzero, fields, hread, hops ▸ hfields⟩

end Command

end Reconcile
