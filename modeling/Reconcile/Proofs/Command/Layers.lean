import Reconcile.Console.Terminal
import Reconcile.Proofs.Command.Flags
import Reconcile.Proofs.Command.Shown
import Reconcile.Proofs.Location

/-!
# Layers of options

A request takes its options from one source: the file that it asks for, the one in the home
directory, or the defaults (`Chooses`). A home directory that cannot be looked into, because
there is none or its path is too long, is a source as well, of no options. What it comes to
depends on what stands there and on its flags (`effectiveOptions_of_chooses`), and is said
option by option: the flag, else the field of the source, else the default
(`isLayered_iff`). Main statement: `options_layered`.
-/

namespace Reconcile

/-- The host with something else at a location. -/
def Host.put (host : Host) (l : Location) (content : FileState) : Host :=
  { host with state := fun l' => if l' = l then content else host.state l' }

theorem Host.put_state_of_ne {l l' : Location} (h : l' ≠ l) (host : Host)
    (content : FileState) : (host.put l content).state l' = host.state l' := if_neg h

namespace Command

/-! ## Sources -/

/-- What the options are taken from that hold where no flag is given. -/
inductive Source
  | defaults
  /-- A file below the home directory of a user who has none. -/
  | homeless
  /-- The file in the home directory, where its path is too long to look for it. -/
  | outOfReach (l : Location)
  | file (l : Location) (state : FileState)

/-- Loads the options of a source. -/
def Source.load (runtime : Runtime) : Source → Except Options.LoadError Options
  | .defaults => .ok {}
  | .homeless => .error .homeless
  | .outOfReach l => .error (.tooLong l.path)
  | .file l state => Options.load runtime l.path state

/-- The location of a source. -/
def Source.location? : Source → Option Location
  | .outOfReach l | .file l _ => some l
  | .defaults | .homeless => none

/-- The source that a request chooses: the file that it asks for; else the one in the home
directory, if it is a regular file; else the defaults. What is in the home directory cannot
be known where there is none or where its path is too long. -/
inductive Chooses (host : Host) (p : PlanRequest) : Source → Prop
  | asked {path : String} {l : Location} (hconfig : p.config = some path)
    (hl : (Location.ofPath path).expandHome? host.homes = some l) :
    Chooses host p (.file l (host.state l))
  | askedHomeless {path : String} (hconfig : p.config = some path)
    (hl : (Location.ofPath path).expandHome? host.homes = none) : Chooses host p .homeless
  | home {l : Location} (hconfig : p.config = none)
    (hl : homeConfig.expandHome? host.homes = some l)
    (hfile : (host.state l).isFile = true) : Chooses host p (.file l (host.state l))
  | defaults {l : Location} (hconfig : p.config = none)
    (hl : homeConfig.expandHome? host.homes = some l)
    (hfile : (host.state l).isFile = false) (hreach : host.state l ≠ .tooLong) :
    Chooses host p .defaults
  | homeless (hconfig : p.config = none) (hl : homeConfig.expandHome? host.homes = none) :
    Chooses host p .homeless
  | outOfReach {l : Location} (hconfig : p.config = none)
    (hl : homeConfig.expandHome? host.homes = some l) (hlong : host.state l = .tooLong) :
    Chooses host p (.outOfReach l)

/-- The options of a request are taken from what stands at a location. -/
def ChoosesAt (host : Host) (p : PlanRequest) (l : Location) : Prop :=
  ∃ source, Chooses host p source ∧ source.location? = some l

/-- The fields that a source has for options: of a file that can be read, those of its valid
table, or none if it goes without the table. -/
inductive Source.Holds (runtime : Runtime) : Source → Fields → Prop
  | defaults : Holds runtime .defaults []
  | file {l : Location} {state : FileState} {text : List Char} {document fields : Fields}
    (htext : state.readText = .ok text)
    (hdocument : Toml.read runtime.tomlRoom text = .ok document)
    (htable : document.getD Options.tableName (.table []) = .table fields)
    (hvalid : Options.IsValid fields) : Holds runtime (.file l state) fields

variable {host : Host} {arguments : List String} {p : PlanRequest} {source : Source}
  {runtime : Runtime} {fields : Fields} {o o₀ : Options}

theorem chooses_iff_of_some {path : String} (hconfig : p.config = some path) :
    Chooses host p source ↔
      source = ((Location.ofPath path).expandHome? host.homes).elim .homeless
        fun l => .file l (host.state l) := by
  constructor
  · intro h
    cases h with
    | asked hconfig' hl =>
      cases hconfig.symm.trans hconfig'
      rw [hl]
      rfl
    | askedHomeless hconfig' hl =>
      cases hconfig.symm.trans hconfig'
      rw [hl]
      rfl
    | home hconfig' | defaults hconfig' | homeless hconfig' | outOfReach hconfig' =>
      cases hconfig.symm.trans hconfig'
  · rintro rfl
    cases hl : (Location.ofPath path).expandHome? host.homes with
    | none => exact .askedHomeless hconfig hl
    | some l => exact .asked hconfig hl

/-- The source of a request that asks for no file, by what stands in the home directory. -/
def homeSource (l : Location) : FileState → Source
  | .tooLong => .outOfReach l
  | .file bytes => .file l (.file bytes)
  | .absent | .directory | .belowFile => .defaults

theorem chooses_iff_of_none (hconfig : p.config = none) :
    Chooses host p source ↔
      source = (homeConfig.expandHome? host.homes).elim .homeless
        fun l => homeSource l (host.state l) := by
  constructor
  · intro h
    cases h with
    | asked hconfig' | askedHomeless hconfig' => cases hconfig.symm.trans hconfig'
    | home _ hl hfile =>
      rw [hl]
      cases hstate : host.state _ with
      | file => exact (congrArg (homeSource _) hstate).symm
      | absent | directory | belowFile | tooLong =>
        rw [hstate] at hfile
        cases hfile
    | defaults _ hl hfile hreach =>
      rw [hl]
      cases hstate : host.state _ with
      | absent | directory | belowFile => exact (congrArg (homeSource _) hstate).symm
      | tooLong => exact absurd hstate hreach
      | file =>
        rw [hstate] at hfile
        cases hfile
    | homeless _ hl =>
      rw [hl]
      rfl
    | outOfReach _ hl hlong =>
      rw [hl]
      exact (congrArg (homeSource _) hlong).symm
  · rintro rfl
    cases hl : homeConfig.expandHome? host.homes with
    | none => exact .homeless hconfig hl
    | some l =>
      show Chooses host p (homeSource l (host.state l))
      cases hstate : host.state l with
      | tooLong => exact .outOfReach hconfig hl hstate
      | file bytes =>
        have hfile : (host.state l).isFile = true := congrArg FileState.isFile hstate
        have hhome := Chooses.home hconfig hl hfile
        rwa [hstate] at hhome
      | absent | directory | belowFile =>
        exact .defaults hconfig hl (congrArg FileState.isFile hstate)
          (by rw [hstate]; exact FileState.noConfusion)

/-- A request has exactly one source. -/
theorem exists_forall_chooses_iff (host : Host) (p : PlanRequest) :
    ∃ source, ∀ source', Chooses host p source' ↔ source' = source := by
  cases hconfig : p.config with
  | some path => exact ⟨_, fun _ => chooses_iff_of_some hconfig⟩
  | none => exact ⟨_, fun _ => chooses_iff_of_none hconfig⟩

/-- The options of a request that asks for a file are taken from that one alone. -/
theorem ChoosesAt.expandHome?_eq {l : Location} (h : ChoosesAt host p l) {path : String}
    (hconfig : p.config = some path) :
    (Location.ofPath path).expandHome? host.homes = some l := by
  obtain ⟨source, h, hl⟩ := h
  cases hexpand : (Location.ofPath path).expandHome? host.homes with
  | none =>
    rw [chooses_iff_of_some hconfig, hexpand] at h
    subst h
    cases hl
  | some l' =>
    rw [chooses_iff_of_some hconfig, hexpand] at h
    subst h
    exact hl

theorem loadOptions_eq {l l' : Location} (hl : l.expandHome? host.homes = some l') :
    loadOptions host l = Options.load host.runtime l'.path (host.state l') := by
  rw [loadOptions, hl]

/-- What is loaded without a file that is asked for. -/
theorem sourceOptions_none {l : Location} (hl : homeConfig.expandHome? host.homes = some l) :
    sourceOptions host none = (homeSource l (host.state l)).load host.runtime := by
  have hload : sourceOptions host none =
      (hasHomeConfig host >>= fun found =>
        if found then loadOptions host homeConfig else .ok {}) := rfl
  rw [hload, hasHomeConfig, hl, loadOptions_eq hl]
  dsimp only
  cases host.state l <;> rfl

/-- **The options in effect** depend on the source that is chosen, and on the flags. -/
theorem effectiveOptions_of_chooses (h : Chooses host p source) :
    effectiveOptions host p = p.apply <$> source.load host.runtime := by
  rw [effectiveOptions]
  refine congrArg (p.apply <$> ·) ?_
  cases hconfig : p.config with
  | some path =>
    have hload : sourceOptions host (some path) = loadOptions host (.ofPath path) := rfl
    rw [(chooses_iff_of_some hconfig).1 h, hload, loadOptions]
    cases (Location.ofPath path).expandHome? host.homes <;> rfl
  | none =>
    rw [(chooses_iff_of_none hconfig).1 h]
    cases hl : homeConfig.expandHome? host.homes with
    | some l => exact sourceOptions_none hl
    | none =>
      have hload : sourceOptions host none =
          (hasHomeConfig host >>= fun found =>
            if found then loadOptions host homeConfig else .ok {}) := rfl
      rw [hload, hasHomeConfig, hl]
      rfl

/-- What stands where the options are taken from neither before nor after is not looked at
for them. -/
theorem Chooses.put (h : Chooses host p source) {l : Location} {content : FileState}
    (hbefore : ¬ChoosesAt host p l) (hafter : ¬ChoosesAt (host.put l content) p l) :
    Chooses (host.put l content) p source := by
  cases hconfig : p.config with
  | some path =>
    rw [chooses_iff_of_some hconfig] at h ⊢
    rw [h]
    show _ = ((Location.ofPath path).expandHome? host.homes).elim _ _
    cases hl : (Location.ofPath path).expandHome? host.homes with
    | none => rfl
    | some l' =>
      have hne : l' ≠ l := by
        rintro rfl
        exact hbefore ⟨_, .asked hconfig hl, rfl⟩
      show Source.file l' _ = .file l' _
      rw [host.put_state_of_ne hne]
  | none =>
    rw [chooses_iff_of_none hconfig] at h ⊢
    rw [h]
    show _ = (homeConfig.expandHome? host.homes).elim _ _
    cases hl : homeConfig.expandHome? host.homes with
    | none => rfl
    | some l' =>
      show homeSource l' _ = homeSource l' _
      by_cases hne : l' = l
      · -- options are taken from what stands there unless they are the defaults
        subst hne
        have hdefaults : ∀ host' : Host, host'.homes = host.homes → ¬ChoosesAt host' p l' →
            homeSource l' (host'.state l') = .defaults := by
          intro host' hhomes hnot
          have hchooses : Chooses host' p (homeSource l' (host'.state l')) :=
            (chooses_iff_of_none hconfig).2 (by rw [hhomes, hl]; rfl)
          cases hstate : host'.state l' with
          | absent | directory | belowFile => rfl
          | tooLong | file =>
            exact absurd ⟨_, hchooses, by rw [hstate]; rfl⟩ hnot
        rw [hdefaults host rfl hbefore, hdefaults (host.put l' content) rfl hafter]
      · rw [host.put_state_of_ne hne]

/-! ## What a source holds -/

theorem Source.Holds.isValid (h : source.Holds runtime fields) : Options.IsValid fields := by
  cases h with
  | defaults => exact Options.isValid_iff.2 ⟨List.forall_mem_nil _, {}, rfl⟩
  | file _ _ _ hvalid => exact hvalid

/-- **What is loaded from a source** is read from the fields that it holds. -/
theorem Source.load_eq_ok_iff :
    source.load runtime = .ok o ↔ ∃ fields, source.Holds runtime fields ∧ o.IsReadFrom fields := by
  cases source with
  | defaults =>
    -- a table without fields gives the defaults
    have hload : Source.defaults.load runtime = (Options.ofFields []).mapError .malformed := rfl
    rw [hload, Sequence.mapError_eq_ok_iff, Options.ofFields_eq_ok_iff]
    constructor
    · exact fun hread => ⟨[], .defaults, hread⟩
    · rintro ⟨fields, hfields, hread⟩
      cases hfields
      exact hread
  | homeless | outOfReach =>
    constructor
    · rintro ⟨⟩
    · rintro ⟨fields, hfields, -⟩
      cases hfields
  | file l state =>
    rw [load, Options.load_eq_ok_iff]
    constructor
    · rintro ⟨text, document, fields, htext, hdocument, htable, hvalid, hread⟩
      exact ⟨fields, .file htext hdocument htable hvalid, hread⟩
    · rintro ⟨fields, hfields, hread⟩
      cases hfields with
      | file htext hdocument htable hvalid =>
        exact ⟨_, _, fields, htext, hdocument, htable, hvalid, hread⟩

/-! ## Layers -/

/-- The value of an option: that of the flag if there is one, else that of the field if it is
set, else the default. -/
inductive Layered {α : Type} (flag : Option α) (field : Option Value) (form : α → Value)
    (default : α) : α → Prop
  | flag {a : α} (hflag : flag = some a) : Layered flag field form default a
  | field {a : α} (hflag : flag = none) (hfield : field = some (form a)) :
    Layered flag field form default a
  | default (hflag : flag = none) (hfield : field = none) : Layered flag field form default default

/-- The options that the flags of a request and the fields of its source come to. There is no
flag for checksums, and patterns are added to those of the source. -/
structure IsLayered (p : PlanRequest) (fields : Fields) (o : Options) : Prop where
  direction : Layered p.direction (Keyed.get? fields "direction") (.text <| Direction.name ·)
    .bidirectional o.direction
  compareSize : Layered p.compareSize (Keyed.get? fields "compare_size") .bool true o.compareSize
  compareTimestamp : Layered p.compareTimestamp (Keyed.get? fields "compare_timestamp") .bool true
    o.compareTimestamp
  compareChecksum : Layered none (Keyed.get? fields "compare_checksum") .bool false
    o.compareChecksum
  excludePatterns : ∃ patterns : List Text,
    Layered none (Keyed.get? fields "exclude_patterns") (fun patterns => .list (patterns.map .text))
      defaultPatterns patterns ∧ o.excludePatterns = patterns ++ p.exclude.map .ofString

/-- A flag is put over what is taken from a field. -/
theorem layered_iff {α : Type} {field : Option Value} {form : α → Value} {default a₀ : α}
    (hform : Function.Injective form)
    (htakes : field = some (form a₀) ∨ field = none ∧ form a₀ = form default)
    (flag : Option α) (a : α) : Layered flag field form default a ↔ a = flag.getD a₀ := by
  constructor
  · rintro (hflag | ⟨hflag, hfield⟩ | ⟨hflag, hfield⟩)
    · rw [hflag, Option.getD_some]
    · rw [hflag, Option.getD_none]
      rcases htakes with htakes | ⟨hnone, -⟩
      · exact hform (Option.some.inj (hfield.symm.trans htakes))
      · cases hfield.symm.trans hnone
    · rw [hflag, Option.getD_none]
      rcases htakes with htakes | ⟨-, hdefault⟩
      · cases htakes.symm.trans hfield
      · exact (hform hdefault).symm
  · rintro rfl
    cases flag with
    | some a => exact .flag rfl
    | none =>
      rcases htakes with htakes | ⟨hnone, hdefault⟩
      · exact .field rfl htakes
      · rw [Option.getD_none, hform hdefault]
        exact .default rfl hnone

theorem bool_injective : Function.Injective Value.bool := fun _ _ => Value.bool.inj

theorem directionText_injective : Function.Injective fun d : Direction => Value.text d.name :=
  fun _ _ h => Options.name_injective (Text.ofString_inj.1 (Value.text.inj h))

theorem patterns_injective :
    Function.Injective fun patterns : List Text => Value.list (patterns.map .text) := by
  intro patterns patterns' h
  exact List.map_injective_iff.2 (fun _ _ => Value.text.inj) (Value.list.inj h)

/-- **Flags are put over the options that are read from the fields.** -/
theorem isLayered_iff (hread : o₀.IsReadFrom fields) :
    IsLayered p fields o ↔ o = p.apply o₀ := by
  have hdirection := layered_iff directionText_injective hread.direction p.direction
  have hsize := layered_iff bool_injective hread.compareSize p.compareSize
  have htimestamp := layered_iff bool_injective hread.compareTimestamp p.compareTimestamp
  have hchecksum := layered_iff bool_injective hread.compareChecksum none
  have hpatterns := layered_iff patterns_injective hread.excludePatterns none
  constructor
  · rintro ⟨hd, hs, ht, hc, patterns, hp, happend⟩
    obtain ⟨timestamp, size, checksum, excluded, d⟩ := o
    obtain rfl := (hdirection d).1 hd
    obtain rfl := (hsize size).1 hs
    obtain rfl := (htimestamp timestamp).1 ht
    obtain rfl := (hchecksum checksum).1 hc
    obtain rfl := (hpatterns patterns).1 hp
    obtain rfl := happend
    rfl
  · rintro rfl
    exact ⟨(hdirection _).2 rfl, (hsize _).2 rfl, (htimestamp _).2 rfl, (hchecksum _).2 rfl, _,
      (hpatterns _).2 rfl, rfl⟩

/-! ## The run -/

/-- A report ends with exit code 1 even where it cannot be shown. -/
theorem exitCode_printError (console : Console) (heading : String) (message : Text) :
    (printError console heading message).exitCode = 1 := by
  rw [printError]
  cases console.print ((colored "red" (heading ++ ":") ++ " " : String) ++ message) <;> rfl

theorem exitCode_failOptions (console : Console) (e : Options.LoadError) :
    (failOptions console e).exitCode = 1 := by
  cases e with
  | unreadable | notToml | notTable | table => exact exitCode_printError _ _ _
  | longInteger | tooDeep | homeless | tooLong | malformed => rfl

theorem run_of_error (hp : readArguments arguments = .ok (.plan p)) {e : Options.LoadError}
    (he : effectiveOptions host p = .error e) :
    run host arguments = failOptions host.console e := by
  rw [run_eq, shown_of_plan host hp, shownBy, he]
  rfl

theorem loadInventory_put {path : String} {l : Location}
    (h : (Location.ofPath path).expandHome? host.homes ≠ some l) (content : FileState) :
    loadInventory (host.put l content) path = loadInventory host path := by
  have hhomes : (host.put l content).homes = host.homes := rfl
  rw [loadInventory, loadInventory, hhomes]
  cases hl : (Location.ofPath path).expandHome? host.homes with
  | none => rfl
  | some l' =>
    have hne : l' ≠ l := fun heq => h (heq ▸ hl)
    simp only [Host.put_state_of_ne hne]
    rfl

/-- A run goes by the options in effect and what it reads as its inventories. -/
theorem run_put (hp : readArguments arguments = .ok (.plan p)) {l : Location}
    {content : FileState}
    (hoptions : effectiveOptions (host.put l content) p = effectiveOptions host p)
    (hpaths : ∀ path ∈ [p.here, p.there],
      (Location.ofPath path).expandHome? host.homes ≠ some l) :
    run (host.put l content) arguments = run host arguments := by
  have hhere := loadInventory_put (hpaths p.here (by simp)) content
  have hthere := loadInventory_put (hpaths p.there (by simp)) content
  have hconsole : (host.put l content).console = host.console := rfl
  rw [run_eq, run_eq, shown_of_plan _ hp, shown_of_plan _ hp, shownBy, shownBy, loadBoth,
    loadBoth, hoptions, hhere, hthere, hconsole]

/-- A source that holds fields gives options, and those are layered over the fields. -/
theorem Chooses.effectiveOptions_iff (h : Chooses host p source)
    (hfields : source.Holds host.runtime fields) :
    (∃ o, effectiveOptions host p = .ok o) ∧
      ∀ o, effectiveOptions host p = .ok o ↔ IsLayered p fields o := by
  obtain ⟨o₀, ho₀⟩ := hfields.isValid.exists_ofFields
  have hread := Options.ofFields_eq_ok_iff.1 ho₀
  have hok : effectiveOptions host p = .ok (p.apply o₀) := by
    rw [effectiveOptions_of_chooses h, Source.load_eq_ok_iff.2 ⟨fields, hfields, hread⟩]
    rfl
  refine ⟨⟨_, hok⟩, fun o => ?_⟩
  rw [hok, Except.ok.injEq, isLayered_iff hread, eq_comm]

/-- A source that cannot be loaded ends the run. -/
theorem Chooses.exitCode_eq_one (h : Chooses host p source)
    (hp : readArguments arguments = .ok (.plan p))
    (hnone : ∀ fields, ¬source.Holds host.runtime fields) :
    (run host arguments).exitCode = 1 := by
  cases hload : source.load host.runtime with
  | ok o =>
    obtain ⟨fields, hfields, -⟩ := Source.load_eq_ok_iff.1 hload
    exact absurd hfields (hnone fields)
  | error e =>
    have herror : effectiveOptions host p = .error e := by
      rw [effectiveOptions_of_chooses h, hload]
      rfl
    rw [run_of_error hp herror]
    exact exitCode_failOptions host.console e

theorem Chooses.effectiveOptions_put (h : Chooses host p source) {l : Location}
    {content : FileState} (hbefore : ¬ChoosesAt host p l)
    (hafter : ¬ChoosesAt (host.put l content) p l) :
    effectiveOptions (host.put l content) p = effectiveOptions host p := by
  rw [effectiveOptions_of_chooses h, effectiveOptions_of_chooses (h.put hbefore hafter)]
  rfl

/-- **Options in layers.** A request takes its options from one source, whatever there is of
home directories and files. If the source holds fields, the options in effect are, option by
option, those of the flags, else of the fields, else the defaults, and what a run shows it
shows under them. If it cannot be loaded, the run ends with exit code 1; so it does where the
home directory has to be looked into and cannot be. What stands at a location that is not
chosen, that of the file in the home directory included, has no influence on the options, nor
on the run unless it is one of the inventories. -/
theorem options_layered (hp : readArguments arguments = .ok (.plan p)) :
    ∃ source, (∀ source', Chooses host p source' ↔ source' = source) ∧
      (∀ fields, source.Holds host.runtime fields →
        (∃ o, effectiveOptions host p = .ok o) ∧
        (∀ o, effectiveOptions host p = .ok o ↔ IsLayered p fields o) ∧
        ∀ s, shown host arguments = .ok s → IsLayered p fields s.options) ∧
      ((∀ fields, ¬source.Holds host.runtime fields) → (run host arguments).exitCode = 1) ∧
      ∀ l content, ¬ChoosesAt host p l → ¬ChoosesAt (host.put l content) p l →
        effectiveOptions (host.put l content) p = effectiveOptions host p ∧
        ((∀ path ∈ [p.here, p.there],
          (Location.ofPath path).expandHome? host.homes ≠ some l) →
            run (host.put l content) arguments = run host arguments) := by
  obtain ⟨source, hchooses⟩ := exists_forall_chooses_iff host p
  have hsource := (hchooses source).2 rfl
  refine ⟨source, hchooses, fun fields hfields => ?_, hsource.exitCode_eq_one hp, ?_⟩
  · obtain ⟨hexists, hlayered⟩ := hsource.effectiveOptions_iff hfields
    refine ⟨hexists, hlayered, fun s hs => ?_⟩
    rw [shown_of_plan host hp] at hs
    obtain ⟨o, here, there, ho, -, -, rfl⟩ := shownBy_eq_ok_iff.1 hs
    exact (hlayered o).1 ho
  · intro l content hbefore hafter
    have hoptions := hsource.effectiveOptions_put hbefore hafter
    exact ⟨hoptions, run_put hp hoptions⟩

/-- A file that is asked for, with flags over it, beside a home file that is not UTF-8. -/
theorem layers_beside_broken_home_file :
    let text := "[compare]\nexclude_patterns = []\ncompare_size = false\n"
    let config := FileState.file (Utf8.encode text.toList)
    let host : Host :=
      { homes := fun _ => some ⟨"/", ["home"]⟩, state := fun _ => config, runtime := .usual
        console := .terminal 80 }
    let flags : List Flag :=
      [.exclude "a", .compareTimestamp false, .config "c.toml", .exclude "b"]
    let p := requestOf flags "l" "r"
    let o : Options :=
      { compareTimestamp := false, compareSize := false, excludePatterns := ["a", "b"] }
    let home : Location := ⟨"/", ["home", ".config", "treesync", "config.toml"]⟩
    readArguments (commandLine flags "l" "r") = .ok (.plan p) ∧
      homeConfig.expandHome? host.homes = some home ∧
      (∃ fields, Source.Holds .usual (.file ⟨"", ["c.toml"]⟩ config) fields ∧
        IsLayered p fields o) ∧
      effectiveOptions host p = .ok o ∧
      effectiveOptions (host.put home (.file [0xFF])) p = .ok o := by
  intro text config host flags p o home
  have hp := readArguments_flags flags "l" "r" (by decide)
  obtain ⟨source, hchooses, hlayers, -, hother⟩ := @options_layered host _ _ hp
  have hasked : (Location.ofPath "c.toml").expandHome? host.homes = some ⟨"", ["c.toml"]⟩ := by
    rw [Location.ofPath_of_notMem (by decide) (by decide) (by decide),
      Location.expandHome?_name (by decide)]
  obtain rfl := (hchooses _).1 (.asked rfl hasked)
  have hloads : (Options.load .usual "c.toml" config).toOption =
      some { compareSize := false, excludePatterns := [] } := by decide +kernel
  have hload : Source.load .usual (.file ⟨"", ["c.toml"]⟩ config) =
      .ok { compareSize := false, excludePatterns := [] } := by
    rw [Source.load, Location.path_name]
    cases hresult : Options.load .usual "c.toml" config with
    | ok o₀ =>
      rw [hresult] at hloads
      exact congrArg Except.ok (Option.some.inj hloads)
    | error e =>
      rw [hresult] at hloads
      cases hloads
  obtain ⟨fields, hfields, -⟩ := Source.load_eq_ok_iff.1 hload
  have hoptions : effectiveOptions host p = .ok o := by
    rw [effectiveOptions_of_chooses (.asked rfl hasked)]
    exact congrArg (p.apply <$> ·) hload
  -- a file is asked for, so that nothing is taken from the home directory
  have hnot : ∀ host' : Host, host'.homes = host.homes → ¬ChoosesAt host' p home := by
    intro host' hhomes hat
    have hl := hat.expandHome?_eq rfl
    rw [hhomes, hasked] at hl
    exact absurd (Option.some.inj hl) (by decide)
  have hput := (hother home (.file [0xFF]) (hnot _ rfl) (hnot _ rfl)).1
  exact ⟨hp, rfl, ⟨fields, hfields, ((hlayers fields hfields).2.1 o).1 hoptions⟩,
    hoptions, hput.trans hoptions⟩

end Command

end Reconcile
