import Reconcile.Proofs.Settings.Override

/-!
# Overrides one after the other

After any number of overrides, of which some may be refused, each setting has the last value
that was given to it (`field_afterAll`), and two overrides that are accepted are as good as one
with the values of both (`override_merged`). Main statement: `overrides_compose`.
-/

namespace Reconcile.Settings

open Options (fieldNames)

variable {overrides first second : Fields} {s s' : Settings} {name : Text} {e : OverrideError}

/-! ## One after the other -/

/-- The settings after overrides, or as they were if these are refused. -/
def attempt (s : Settings) (overrides : Fields) : Settings :=
  (s.override overrides).toOption.getD s

/-- The settings after some overrides, one after the other. -/
def afterAll (s : Settings) (steps : List Fields) : Settings := steps.foldl attempt s

/-- The last value that is given to a name by overrides that are accepted. -/
def lastGiven (name : Text) (steps : List Fields) : Option Value :=
  ((steps.filter accepts).filterMap (given · name)).getLast?

theorem attempt_of_error (herror : s.override overrides = .error e) : s.attempt overrides = s := by
  rw [attempt, herror]
  rfl

theorem lastGiven_singleton (name : Text) (overrides : Fields) :
    lastGiven name [overrides] = if accepts overrides then given overrides name else none := by
  rw [lastGiven]
  cases haccepts : accepts overrides with
  | false => simp [haccepts]
  | true => cases hgiven : given overrides name <;> simp [haccepts, hgiven]

theorem lastGiven_append (name : Text) (before after : List Fields) :
    lastGiven name (before ++ after) = (lastGiven name after).or (lastGiven name before) := by
  rw [lastGiven, List.filter_append, List.filterMap_append, List.getLast?_append]
  rfl

theorem field_attempt (h : IsTyped overrides) (s : Settings) (hname : name ∈ fieldNames) :
    (s.attempt overrides).field name = (lastGiven name [overrides]).or (s.field name) := by
  rw [lastGiven_singleton]
  cases hstep : s.override overrides with
  | error e =>
    have hrefused : ¬accepts overrides = true := by
      rw [← exists_override_iff h s, hstep]
      rintro ⟨_, ⟨⟩⟩
    rw [attempt_of_error hstep, if_neg hrefused, Option.none_or]
  | ok s' =>
    have hattempt : s.attempt overrides = s' := by
      rw [attempt, hstep]
      rfl
    have haccepted := (exists_override_iff h s).1 ⟨s', hstep⟩
    rw [hattempt, field_of_override h hstep hname, if_pos haccepted]

/-- **After any number of overrides** each setting has the last value that was given to it. -/
theorem field_afterAll {steps : List Fields} (h : ∀ overrides ∈ steps, IsTyped overrides)
    (s : Settings) (hname : name ∈ fieldNames) :
    (s.afterAll steps).field name = (lastGiven name steps).or (s.field name) := by
  induction steps generalizing s with
  | nil => rfl
  | cons overrides rest ih =>
    obtain ⟨hfirst, hrest⟩ := List.forall_mem_cons.1 h
    have hstep : s.afterAll (overrides :: rest) = (s.attempt overrides).afterAll rest := rfl
    have hlast : lastGiven name (overrides :: rest) =
        (lastGiven name rest).or (lastGiven name [overrides]) :=
      lastGiven_append name [overrides] rest
    rw [hstep, ih hrest, field_attempt hfirst s hname, hlast, Option.or_assoc]

theorem exists_given_of_lastGiven {steps : List Fields} {v : Value}
    (h : v ∈ lastGiven name steps) : ∃ overrides ∈ steps, v ∈ given overrides name := by
  obtain ⟨overrides, hmem, hgiven⟩ := List.mem_filterMap.1 (List.mem_of_getLast? h)
  exact ⟨overrides, (List.mem_filter.1 hmem).1, hgiven⟩

/-- Settings with values of the types of the options are options. -/
theorem exists_eq_ofOptions
    (hflags : ∀ name ∈ Options.booleanNames, ∃ b, s.field name = some (.bool b))
    (hpatterns : ∃ patterns : List Text,
      s.field "exclude_patterns" = some (.list (patterns.map .text))) : ∃ o, s = ofOptions o := by
  simp only [Options.booleanNames, List.forall_mem_cons] at hflags
  obtain ⟨⟨timestamp, htimestamp⟩, ⟨size, hsize⟩, ⟨checksum, hchecksum⟩, -⟩ := hflags
  obtain ⟨patterns, hpatterns⟩ := hpatterns
  refine ⟨⟨timestamp, size, checksum, patterns, s.direction⟩, eq_of_field_eq ?_⟩
  simp only [fieldNames, List.forall_mem_cons, List.not_mem_nil, false_imp_iff, implies_true,
    and_true]
  exact ⟨htimestamp, hsize, hchecksum, hpatterns, rfl⟩

/-- **Options stay options** under overrides of the types of the options. -/
theorem exists_afterAll_eq_ofOptions {steps : List Fields}
    (h : ∀ overrides ∈ steps, IsTyped overrides) (o : Options) :
    ∃ o', (ofOptions o).afterAll steps = ofOptions o' := by
  have htyped : ∀ {α : Type} {form : α → Value} {name : Text}, name ∈ fieldNames →
      (∀ overrides ∈ steps, ∀ v ∈ given overrides name, ∃ a, v = form a) →
      (∃ a, (ofOptions o).field name = some (form a)) →
      ∃ a, ((ofOptions o).afterAll steps).field name = some (form a) := by
    intro α form name hname hgiven hinitial
    rw [field_afterAll h _ hname]
    cases hlast : lastGiven name steps with
    | none => exact hinitial
    | some v =>
      obtain ⟨overrides, hmem, hv⟩ := exists_given_of_lastGiven hlast
      obtain ⟨a, rfl⟩ := hgiven overrides hmem v hv
      exact ⟨a, rfl⟩
  refine exists_eq_ofOptions (fun name hname => ?_) ?_
  · have hinitial : ∃ b, (ofOptions o).field name = some (.bool b) := by
      simp only [Options.booleanNames, List.mem_cons, List.not_mem_nil, or_false] at hname
      rcases hname with rfl | rfl | rfl <;> exact ⟨_, rfl⟩
    have hoptions : ∀ name ∈ Options.booleanNames, (name : Text) ∈ fieldNames := by decide
    exact htyped (hoptions name hname) (fun overrides hmem => (h overrides hmem).flags name hname)
      hinitial
  · exact htyped (by decide) (fun overrides hmem => (h overrides hmem).patterns) ⟨_, rfl⟩

/-! ## Two in one -/

/-- Two maps of overrides in one. Of two values for a name the later counts, and a null value
leaves the earlier. -/
def merged (first second : Fields) : Fields :=
  (changes second).foldl (fun l pair => Keyed.put pair.1 pair.2 l) first

theorem isNull_of_given {v : Value} (h : v ∈ given overrides name) : (!v.isNull) = true :=
  (Option.filter_eq_some_iff.1 h).2

theorem given_merged (h : (Keyed.keys second).Nodup) (first : Fields) (name : Text) :
    given (merged first second) name = (given second name).or (given first name) := by
  have hchanges : (Keyed.keys (changes second)).Nodup :=
    h.sublist (List.filter_sublist.map Prod.fst)
  rw [given, merged, Keyed.get?_foldl_put hchanges, get?_changes h]
  cases hgiven : given second name with
  | none => rfl
  | some v =>
    rw [Option.some_or, Option.some_or, Option.filter_some, if_pos (isNull_of_given hgiven)]

theorem mem_given_merged (h : (Keyed.keys second).Nodup) {v : Value}
    (hv : v ∈ given (merged first second) name) : v ∈ given second name ∨ v ∈ given first name := by
  rw [given_merged h] at hv
  cases hgiven : given second name with
  | none => exact .inr (by rwa [hgiven] at hv)
  | some w => exact .inl (by rwa [hgiven] at hv)

theorem isTyped_merged (hfirst : IsTyped first) (hsecond : IsTyped second) :
    IsTyped (merged first second) where
  nodup := Keyed.nodup_foldl_put hfirst.nodup
  flags name hname v hv := (mem_given_merged hsecond.nodup hv).elim (hsecond.flags name hname v)
    (hfirst.flags name hname v)
  patterns v hv := (mem_given_merged hsecond.nodup hv).elim (hsecond.patterns v)
    (hfirst.patterns v)
  direction v hv := (mem_given_merged hsecond.nodup hv).elim (hsecond.direction v)
    (hfirst.direction v)

theorem accepts_merged (h : IsTyped second) (hfirst : accepts first = true)
    (hsecond : accepts second = true) : accepts (merged first second) = true := by
  obtain ⟨hoptions, hdirection, hnames⟩ := accepts_iff.1 hfirst
  obtain ⟨hoptions', hdirection', hnames'⟩ := accepts_iff.1 hsecond
  refine accepts_iff.2 ⟨fun hmem => ?_, fun v hv => ?_, fun pair hpair => ?_⟩
  · rcases Keyed.mem_keys_foldl_put.1 hmem with hmem | hmem
    · exact hoptions' ((List.filter_sublist.map Prod.fst).subset hmem)
    · exact hoptions hmem
  · exact (mem_given_merged h.nodup hv).elim (hdirection' v) (hdirection v)
  · rcases Keyed.mem_of_mem_foldl_put hpair with hpair | hpair
    · exact hnames' pair (List.mem_filter.1 hpair).1
    · exact hnames pair hpair

/-- **Two overrides that are accepted are one** with the values of both. -/
theorem override_merged (hfirst : IsTyped first) (hsecond : IsTyped second) {s₁ s₂ : Settings}
    (h₁ : s.override first = .ok s₁) (h₂ : s₁.override second = .ok s₂) :
    s.override (merged first second) = .ok s₂ := by
  have haccepts := accepts_merged hsecond ((exists_override_iff hfirst s).1 ⟨s₁, h₁⟩)
    ((exists_override_iff hsecond s₁).1 ⟨s₂, h₂⟩)
  obtain ⟨s', hs', hfields⟩ := exists_override (isTyped_merged hfirst hsecond) haccepts s
  have heq : s' = s₂ := by
    refine eq_of_field_eq fun name hname => ?_
    rw [hfields name hname, given_merged hsecond.nodup, field_of_override hsecond h₂ hname,
      field_of_override hfirst h₁ hname, Option.or_assoc]
  rw [hs', heq]

/-! ## Any number of overrides -/

/-- **Overrides compose, and the last value wins.** Overrides are refused for the first fault
that they have, whatever the settings, and then leave them as they were; otherwise they are
accepted. After any number of overrides, each setting has the last value that was given to it
by some that were accepted, or the one it had, so options stay options. Two that are accepted
are as good as one with the values of both, of which the later counts. A null value has no
effect, under any name but the one that is taken by what is overridden. -/
theorem overrides_compose {steps : List Fields} (hsteps : ∀ overrides ∈ steps, IsTyped overrides)
    (o : Options) :
    (∀ overrides ∈ steps, ∀ s : Settings,
      (∀ e, s.override overrides = .error e ↔ Refuses overrides e) ∧
      ((∃ s', s.override overrides = .ok s') ↔ accepts overrides = true) ∧
      ∀ e, Refuses overrides e → s.attempt overrides = s) ∧
    (∀ name ∈ fieldNames, ((ofOptions o).afterAll steps).field name =
      (lastGiven name steps).or ((ofOptions o).field name)) ∧
    (∃ o', (ofOptions o).afterAll steps = ofOptions o') ∧
    (∀ first ∈ steps, ∀ second ∈ steps, ∀ s s₁ s₂ : Settings,
      s.override first = .ok s₁ → s₁.override second = .ok s₂ →
      s.override (merged first second) = .ok s₂ ∧
        ∀ name, given (merged first second) name = (given second name).or (given first name)) ∧
    ∀ (s : Settings) (before after : Fields) (name : Text), name ≠ ("options" : Text) →
      s.override (before ++ (name, .null) :: after) = s.override (before ++ after) := by
  refine ⟨fun overrides hmem s => ?_, fun name hname => field_afterAll hsteps _ hname,
    exists_afterAll_eq_ofOptions hsteps o, ?_, ?_⟩
  · have htyped := hsteps overrides hmem
    refine ⟨fun e => override_eq_error_iff htyped s, exists_override_iff htyped s, ?_⟩
    exact fun e hrefuses => attempt_of_error (override_of_refuses htyped hrefuses s)
  · intro first hfirst second hsecond s s₁ s₂ h₁ h₂
    exact ⟨override_merged (hsteps first hfirst) (hsteps second hsecond) h₁ h₂,
      given_merged (hsteps second hsecond).nodup first⟩
  · exact fun s before after name hname => override_null hname s before after

/-- Two maps that are accepted, with one between them that is refused for its direction and not
for its unknown name, and one more that is refused for its own. -/
theorem compose_across_refusals :
    let first : Fields :=
      [("compare_size", .bool false), ("exclude_patterns", .list []), ("bogus", .null)]
    let second : Fields :=
      [("compare_timestamp", .bool false), ("bogus", .int 1), ("direction", .text "up")]
    let third : Fields := [("compare_size", .null), ("direction", .text "local_to_remote")]
    let fourth : Fields := [("compare_size", .bool true), ("bogus", .bool true)]
    let steps := [first, second, third, fourth]
    let between : Options := { compareSize := false, excludePatterns := [] }
    let last : Options := { between with direction := .localToRemote }
    (∀ overrides ∈ steps, IsTyped overrides) ∧
      (ofOptions {}).override second =
        .error (.malformed (.unknownName .direction (.text "up"))) ∧
      (ofOptions {}).override fourth = .error (.unknownOption "bogus") ∧
      (ofOptions {}).afterAll steps = ofOptions last ∧
      (ofOptions {}).override first = .ok (ofOptions between) ∧
      (ofOptions between).override third = .ok (ofOptions last) ∧
      (ofOptions {}).override (merged first third) = .ok (ofOptions last) ∧
      (ofOptions {}).override ([] ++ ((("bogus" : Text), .null) :: third)) =
        (ofOptions {}).override ([] ++ third) := by
  intro first second third fourth steps between last
  have hsteps : ∀ overrides ∈ steps, IsTyped overrides := by decide
  obtain ⟨hrefused, hfields, -, hmerged, hnull⟩ := overrides_compose hsteps {}
  have hsecond : Refuses second (.malformed (.unknownName .direction (.text "up"))) :=
    .direction (by decide) rfl (by rintro ⟨⟩ <;> decide)
  have hfourth : Refuses fourth (.unknownOption "bogus") :=
    .unknown (by decide) (by rintro v ⟨⟩)
      ⟨[("compare_size", .bool true)], ("bogus", .bool true), [], rfl,
        List.forall_mem_singleton.2 fun _ h => h.1.2 (by decide), ⟨rfl, by decide⟩, rfl⟩
  have hfirst : (ofOptions {}).override first = .ok (ofOptions between) := rfl
  have hthird : (ofOptions between).override third = .ok (ofOptions last) := rfl
  refine ⟨hsteps, ((hrefused second (by simp [steps]) _).1 _).2 hsecond,
    ((hrefused fourth (by simp [steps]) _).1 _).2 hfourth, eq_of_field_eq fun name hname => ?_,
    hfirst, hthird,
    (hmerged first (by simp [steps]) third (by simp [steps]) _ _ _ hfirst hthird).1,
    hnull _ _ _ ("bogus" : Text) (by decide)⟩
  rw [hfields name hname]
  simp only [fieldNames, List.mem_cons, List.not_mem_nil, or_false] at hname
  rcases hname with rfl | rfl | rfl | rfl | rfl <;> rfl

/-- Null under the name of what is overridden: there is no direction and no value under an
unknown name, and yet the overrides are refused. -/
theorem null_refused_under_reserved_name :
    let overrides : Fields := [("options", .null)]
    IsTyped overrides ∧ given overrides "direction" = none ∧
      (∀ pair ∈ overrides, pair.2.isNull = true) ∧
      (ofOptions {}).override overrides =
        .error (.reservedName "options_with_overrides" "options") :=
  ⟨by decide, by decide, by decide, rfl⟩

end Reconcile.Settings
