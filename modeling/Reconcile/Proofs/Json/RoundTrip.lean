import Reconcile.Proofs.Json.Number
import Reconcile.Proofs.Json.Text
import Reconcile.Proofs.Keyed

/-!
# JSON is read as it was written

The reader is shown to invert the writer on the values that JSON keeps (`IsKept`):
those without numbers that have a fraction and without dates, whose whole numbers and
nesting are within the limits of the reader. One lemma for each form of value says
what the reader does at its first character, and the induction over the value puts
them together, for any indentation and whatever follows the value
(`value_written`). Main statement: `read_written`.
-/

namespace Reconcile.Json

/-- The values that are read back as they were written, where at most `room` lists and
tables stand in one another. -/
inductive IsKept : (room : Nat) → Value → Prop
  | null {room : Nat} : IsKept room .null
  | bool {room : Nat} (b : Bool) : IsKept room (.bool b)
  | int {room : Nat} {n : Int} (h : (Nat.toDigits 10 n.natAbs).length ≤ maxIntegerDigits) :
    IsKept room (.int n)
  | text {room : Nat} (t : Text) : IsKept room (.text t)
  | list {room : Nat} {items : List Value} (h : ∀ v ∈ items, IsKept room v) :
    IsKept (room + 1) (.list items)
  | table {room : Nat} {fields : Fields} (hkeys : (Keyed.keys fields).Nodup)
    (h : ∀ field ∈ fields, IsKept room field.2) : IsKept (room + 1) (.table fields)

theorem areWritable_iff {items : List Value} :
    areWritable items = true ↔ ∀ v ∈ items, isWritable v = true := by
  induction items with
  | nil => simp [areWritable]
  | cons v vs ih => rw [areWritable, Bool.and_eq_true, ih, List.forall_mem_cons]

theorem areWritableFields_iff {fields : Fields} :
    areWritableFields fields = true ↔ ∀ field ∈ fields, isWritable field.2 = true := by
  induction fields with
  | nil => simp [areWritableFields]
  | cons field fields ih =>
    rw [areWritableFields, Bool.and_eq_true, ih, List.forall_mem_cons]

theorem IsKept.isWritable {room : Nat} {v : Value} (h : IsKept room v) :
    isWritable v = true := by
  induction h with
  | null | bool | text => rfl
  | int h => exact decide_eq_true h
  | list _ ih => exact areWritable_iff.2 ih
  | table _ _ ih => exact areWritableFields_iff.2 ih

/-! ## What is written -/

/-- A character that begins a written value. -/
structure Begins (c : Char) : Prop where
  not_blank : isBlank c = false
  ne_bracket : c ≠ ']'
  ne_mark : c ≠ '\uFEFF'

theorem begins_of_isDigit {c : Char} (h : c.isDigit = true) : Begins c := by
  constructor
  case not_blank =>
    rw [← Bool.not_eq_true]
    intro hblank
    simp only [isBlank, Bool.or_eq_true, decide_eq_true_iff] at hblank
    rcases hblank with ((rfl | rfl) | rfl) | rfl <;> cases h
  case ne_bracket => exact ne_of_isDigit h rfl
  case ne_mark => exact ne_of_isDigit h rfl

theorem exists_writtenInt_eq_cons (n : Int) :
    ∃ c rest, writtenInt n = c :: rest ∧ (c = '-' ∨ c.isDigit = true) := by
  obtain ⟨c, ds, hcons⟩ :=
    List.exists_cons_of_ne_nil (Nat.toDigits_ne_nil (n := n.natAbs) (b := 10))
  rw [writtenInt, hcons]
  by_cases hn : n < 0
  · rw [if_pos hn]
    exact ⟨_, _, rfl, .inl rfl⟩
  · rw [if_neg hn]
    exact ⟨_, _, rfl, .inr (isDigit_of_toDigits_eq_cons hcons)⟩

theorem written_eq_cons {room : Nat} {v : Value} (h : IsKept room v) (depth : Nat) :
    ∃ c rest, written depth v = c :: rest ∧ Begins c := by
  cases h with
  | null => exact ⟨_, _, rfl, by constructor <;> decide⟩
  | bool b => cases b <;> exact ⟨_, _, rfl, by constructor <;> decide⟩
  | @int _ n h =>
    obtain ⟨c, rest, hcons, rfl | hc⟩ := exists_writtenInt_eq_cons n
    · exact ⟨_, rest, hcons, by constructor <;> decide⟩
    · exact ⟨c, rest, hcons, begins_of_isDigit hc⟩
  | text s => exact ⟨_, _, rfl, by constructor <;> decide⟩
  | @list _ items h => cases items <;> exact ⟨_, _, rfl, by constructor <;> decide⟩
  | @table _ fields hkeys h => cases fields <;> exact ⟨_, _, rfl, by constructor <;> decide⟩

/-! ## Blanks -/

theorem skipBlanks_cons {c : Char} (h : isBlank c = false) (s : List Char) :
    skipBlanks (c :: s) = c :: s := List.dropWhile_cons_of_neg (by simp [h])

theorem skipBlanks_lineBreak (depth : Nat) (s : List Char) :
    skipBlanks (lineBreak depth ++ s) = skipBlanks s := by
  refine List.dropWhile_append_of_pos ?_
  intro c hc
  rcases List.mem_cons.1 hc with rfl | hc
  · rfl
  · rw [List.eq_of_mem_replicate hc]
    rfl

theorem skipBlanks_written {room : Nat} {v : Value} (h : IsKept room v) (depth : Nat)
    (s : List Char) : skipBlanks (written depth v ++ s) = written depth v ++ s := by
  obtain ⟨c, rest, hcons, hc⟩ := written_eq_cons h depth
  rw [hcons, List.cons_append, skipBlanks_cons hc.not_blank]

theorem endsNumber_lineBreak (depth : Nat) (s : List Char) : EndsNumber (lineBreak depth ++ s) :=
  endsNumber_cons rfl (by decide) (by decide) (by decide)

/-! ## One step of the reader -/

section Step

variable {fuel room : Nat} {s t rest after : List Char} {v : Value} {vs : List Value}
  {name : Text} {fs : Fields}

theorem value_text (h : textTail s = .ok (name, rest)) :
    value (fuel + 1) room ('"' :: s) = .ok (.text name, rest) := by
  rw [value.eq_def]
  simp only [if_true, h, bind, Except.bind]
  rfl

theorem value_plain {c : Char} (h₁ : c ≠ '"') (h₂ : c ≠ '[') (h₃ : c ≠ '\x7b') (s : List Char) :
    value (fuel + 1) room (c :: s) = plain (c :: s) := by
  rw [value.eq_def]
  simp only [if_neg h₁, if_neg h₂, if_neg h₃]

theorem value_list_nil (h : skipBlanks s = ']' :: rest) :
    value (fuel + 1) (room + 1) ('[' :: s) = .ok (.list [], rest) := by
  simp [value, h]

theorem value_list (hne : ∀ rest, skipBlanks s ≠ ']' :: rest)
    (h : items fuel room (skipBlanks s) = .ok (vs, rest)) :
    value (fuel + 1) (room + 1) ('[' :: s) = .ok (.list vs, rest) := by
  rw [value.eq_def]
  simp only [bind, Except.bind, h]
  rfl

theorem value_table_nil (h : skipBlanks s = '\x7d' :: rest) :
    value (fuel + 1) (room + 1) ('\x7b' :: s) = .ok (.table [], rest) := by
  simp [value, h]

theorem value_table (hne : ∀ rest, skipBlanks s ≠ '\x7d' :: rest)
    (h : fields fuel room (skipBlanks s) = .ok (fs, rest)) :
    value (fuel + 1) (room + 1) ('\x7b' :: s) = .ok (.table (Keyed.ofPairs fs), rest) := by
  rw [value.eq_def]
  simp only [bind, Except.bind, h]
  rfl

theorem items_last (h : value fuel room s = .ok (v, after))
    (hclose : skipBlanks after = ']' :: rest) :
    items (fuel + 1) room s = .ok ([v], rest) := by
  simp only [items, h, bind, Except.bind, hclose]
  rfl

theorem items_more (h : value fuel room s = .ok (v, after)) (hcomma : skipBlanks after = ',' :: t)
    (hmore : items fuel room (skipBlanks t) = .ok (vs, rest)) :
    items (fuel + 1) room s = .ok (v :: vs, rest) := by
  simp only [items, h, bind, Except.bind, hcomma, hmore]
  rfl

theorem fields_last {u : List Char} (hname : textTail s = .ok (name, t))
    (hcolon : skipBlanks t = ':' :: u) (h : value fuel room (skipBlanks u) = .ok (v, after))
    (hclose : skipBlanks after = '\x7d' :: rest) :
    fields (fuel + 1) room ('"' :: s) = .ok ([(name, v)], rest) := by
  simp only [fields, hname, bind, Except.bind, hcolon, h, hclose]
  rfl

theorem fields_more {u w : List Char} (hname : textTail s = .ok (name, t))
    (hcolon : skipBlanks t = ':' :: u) (h : value fuel room (skipBlanks u) = .ok (v, after))
    (hcomma : skipBlanks after = ',' :: w)
    (hmore : fields fuel room (skipBlanks w) = .ok (fs, rest)) :
    fields (fuel + 1) room ('"' :: s) = .ok ((name, v) :: fs, rest) := by
  simp only [fields, hname, bind, Except.bind, hcolon, h, hcomma, hmore]
  rfl

end Step

/-! ## Values -/

/-- The value is read as it was written, at any depth and before anything that does not
go on with a number. -/
def ReadsBack (room : Nat) (v : Value) : Prop :=
  ∀ (depth fuel : Nat) (rest : List Char), EndsNumber rest →
    2 * (written depth v).length ≤ fuel + 1 →
    value (fuel + 1) room (written depth v ++ rest) = .ok (v, rest)

section Members

variable {room : Nat} {v : Value} (depth outer : Nat) {fuel : Nat}

theorem writtenItems_cons_append (w : Value) (vs : List Value) (s : List Char) :
    writtenItems depth (w :: vs) ++ s =
      ',' :: (lineBreak depth ++ (written depth w ++ (writtenItems depth vs ++ s))) := by
  simp [writtenItems]

theorem writtenText_append (t : Text) (rest : List Char) :
    writtenText t ++ rest = '"' :: (t.points.flatMap writtenPoint ++ '"' :: rest) := by
  simp [writtenText]

theorem writtenFields_cons_append (k : Text) (w : Value) (fs : Fields) (s : List Char) :
    writtenFields depth ((k, w) :: fs) ++ s =
      ',' :: (lineBreak depth ++ (writtenText k ++ (':' :: ' ' ::
        (written depth w ++ (writtenFields depth fs ++ s))))) := by
  simp [writtenFields]

theorem skipBlanks_close_list (rest : List Char) :
    skipBlanks (lineBreak depth ++ ']' :: rest) = ']' :: rest :=
  (skipBlanks_lineBreak depth _).trans (skipBlanks_cons rfl rest)

theorem skipBlanks_close_table (rest : List Char) :
    skipBlanks (lineBreak depth ++ '\x7d' :: rest) = '\x7d' :: rest :=
  (skipBlanks_lineBreak depth _).trans (skipBlanks_cons rfl rest)

theorem endsNumber_comma (rest : List Char) : EndsNumber (',' :: rest) :=
  endsNumber_cons rfl (by decide) (by decide) (by decide)

/-- The items of a list, by induction on those after the first. -/
theorem items_written {vs : List Value} (hkept : ∀ w ∈ v :: vs, IsKept room w)
    (h : ∀ w ∈ v :: vs, ReadsBack room w) (rest : List Char)
    (hfuel : 2 * ((written depth v).length + (writtenItems depth vs).length) + 1 < fuel) :
    items fuel room
        (written depth v ++ (writtenItems depth vs ++ (lineBreak outer ++ ']' :: rest))) =
      .ok (v :: vs, rest) := by
  induction vs generalizing v fuel with
  | nil =>
    obtain ⟨fuel, rfl⟩ : ∃ n, fuel = n + 2 := ⟨fuel - 2, by omega⟩
    exact items_last (h v List.mem_cons_self depth fuel _ (endsNumber_lineBreak outer _) (by omega))
      (skipBlanks_close_list outer rest)
  | cons w vs ih =>
    obtain ⟨fuel, rfl⟩ : ∃ n, fuel = n + 2 := ⟨fuel - 2, by omega⟩
    have hlength := congrArg List.length (writtenItems_cons_append depth w vs [])
    simp only [List.length_append, List.length_cons, List.length_nil] at hlength
    rw [writtenItems_cons_append]
    refine items_more (h v List.mem_cons_self depth fuel _ (endsNumber_comma _) (by omega))
      (skipBlanks_cons rfl _) ?_
    rw [skipBlanks_lineBreak, skipBlanks_written (hkept w (by simp))]
    exact ih (fun x hx => hkept x (List.mem_cons_of_mem v hx))
      (fun x hx => h x (List.mem_cons_of_mem v hx)) (by omega)

/-- The value of a field, after the space that follows the colon. -/
theorem ReadsBack.after_space (h : ReadsBack room v) (hkept : IsKept room v) {rest : List Char}
    (hrest : EndsNumber rest) (hfuel : 2 * (written depth v).length ≤ fuel + 1) :
    value (fuel + 1) room (skipBlanks (' ' :: (written depth v ++ rest))) = .ok (v, rest) := by
  have hskip : skipBlanks (' ' :: (written depth v ++ rest)) = written depth v ++ rest :=
    skipBlanks_written hkept depth rest
  rw [hskip]
  exact h depth fuel rest hrest hfuel

/-- The fields of a table, by induction on those after the first. -/
theorem fields_written {k : Text} {fs : Fields} (hkept : ∀ f ∈ (k, v) :: fs, IsKept room f.2)
    (h : ∀ f ∈ (k, v) :: fs, ReadsBack room f.2) (rest : List Char)
    (hfuel : 2 * ((written depth v).length + (writtenFields depth fs).length) + 1 < fuel) :
    fields fuel room
        (writtenText k ++ (':' :: ' ' :: (written depth v ++
          (writtenFields depth fs ++ (lineBreak outer ++ '\x7d' :: rest))))) =
      .ok ((k, v) :: fs, rest) := by
  have hv : ReadsBack room v := h (k, v) List.mem_cons_self
  have hvkept : IsKept room v := hkept (k, v) List.mem_cons_self
  induction fs generalizing k v fuel with
  | nil =>
    obtain ⟨fuel, rfl⟩ : ∃ n, fuel = n + 2 := ⟨fuel - 2, by omega⟩
    rw [writtenText_append]
    exact fields_last (textTail_writtenText k _) (skipBlanks_cons rfl _)
      (hv.after_space depth hvkept (endsNumber_lineBreak outer _) (by omega))
      (skipBlanks_close_table outer rest)
  | cons f fs ih =>
    obtain ⟨fuel, rfl⟩ : ∃ n, fuel = n + 2 := ⟨fuel - 2, by omega⟩
    obtain ⟨k', w⟩ := f
    have hlength := congrArg List.length (writtenFields_cons_append depth k' w fs [])
    simp only [List.length_append, List.length_cons, List.length_nil] at hlength
    rw [writtenFields_cons_append, writtenText_append]
    refine fields_more (textTail_writtenText k _) (skipBlanks_cons rfl _)
      (hv.after_space depth hvkept (endsNumber_comma _) (by omega)) (skipBlanks_cons rfl _) ?_
    rw [skipBlanks_lineBreak, writtenText_append, skipBlanks_cons rfl, ← writtenText_append]
    have hmem : (k', w) ∈ (k, v) :: (k', w) :: fs := List.mem_cons_of_mem _ List.mem_cons_self
    exact ih (fun x hx => hkept x (List.mem_cons_of_mem _ hx))
      (fun x hx => h x (List.mem_cons_of_mem _ hx)) (by omega) (h _ hmem) (hkept _ hmem)

end Members

theorem readsBack_int {room : Nat} {n : Int}
    (h : (Nat.toDigits 10 n.natAbs).length ≤ maxIntegerDigits) : ReadsBack room (.int n) := by
  intro depth fuel rest hrest _
  obtain ⟨c, s, hcons, hc⟩ := exists_writtenInt_eq_cons n
  have hne : ∀ d : Char, d.isDigit = false → d ≠ '-' → c ≠ d := by
    intro d hd hminus
    rcases hc with rfl | hc
    · exact hminus.symm
    · exact ne_of_isDigit hc hd
  rw [← plain_writtenInt h hrest, written, hcons]
  exact value_plain (hne _ rfl (by decide)) (hne _ rfl (by decide)) (hne _ rfl (by decide)) _

theorem readsBack_text {room : Nat} (t : Text) : ReadsBack room (.text t) := by
  intro depth fuel rest _ _
  rw [written, writtenText_append]
  exact value_text (textTail_writtenText t rest)

theorem readsBack_list {room : Nat} {items : List Value} (h : ∀ v ∈ items, IsKept room v)
    (hread : ∀ v ∈ items, ReadsBack room v) : ReadsBack (room + 1) (.list items) := by
  intro depth fuel rest _ hfuel
  cases items with
  | nil => exact value_list_nil rfl
  | cons v vs =>
    have hv := h v List.mem_cons_self
    have htext : ∀ s, written depth (.list (v :: vs)) ++ s = '[' :: (lineBreak (depth + 1) ++
        (written (depth + 1) v ++ (writtenItems (depth + 1) vs ++
          (lineBreak depth ++ ']' :: s)))) := by
      intro s
      simp [written]
    have hlength := congrArg List.length (htext [])
    simp only [List.length_append, List.length_cons, List.length_nil] at hlength
    have hitems := items_written (depth + 1) depth h hread rest (show _ < fuel by omega)
    have hskip := (skipBlanks_lineBreak (depth + 1) _).trans (skipBlanks_written hv (depth + 1)
      (writtenItems (depth + 1) vs ++ (lineBreak depth ++ ']' :: rest)))
    obtain ⟨c, t, hcons, hc⟩ := written_eq_cons hv (depth + 1)
    rw [htext]
    -- the first item is not taken for the closing bracket of an empty list
    refine value_list ?_ ?_
    · rw [hskip, hcons]
      intro rest h
      exact hc.ne_bracket (List.cons.inj h).1
    · rw [hskip]
      exact hitems

theorem readsBack_table {room : Nat} {fields : Fields} (hkeys : (Keyed.keys fields).Nodup)
    (h : ∀ field ∈ fields, IsKept room field.2) (hread : ∀ field ∈ fields, ReadsBack room field.2) :
    ReadsBack (room + 1) (.table fields) := by
  intro depth fuel rest _ hfuel
  cases fields with
  | nil => exact value_table_nil rfl
  | cons f fs =>
    obtain ⟨k, v⟩ := f
    have htext : ∀ s, written depth (.table ((k, v) :: fs)) ++ s = '\x7b' ::
        (lineBreak (depth + 1) ++ (writtenText k ++ (':' :: ' ' ::
          (written (depth + 1) v ++ (writtenFields (depth + 1) fs ++
            (lineBreak depth ++ '\x7d' :: s)))))) := by
      intro s
      simp [written]
    have hlength := congrArg List.length (htext [])
    simp only [List.length_append, List.length_cons, List.length_nil] at hlength
    have hfields := fields_written (depth + 1) depth h hread rest (show _ < fuel by omega)
    have hskip : ∀ s, skipBlanks (lineBreak (depth + 1) ++ (writtenText k ++ s)) =
        writtenText k ++ s := by
      intro s
      rw [skipBlanks_lineBreak, writtenText_append, skipBlanks_cons rfl]
    rw [htext, ← Keyed.ofPairs_eq_self hkeys]
    refine value_table ?_ ?_
    · rw [hskip, writtenText_append]
      intro rest h
      cases h
    · rw [hskip]
      exact hfields

/-- **A value is read as it was written**, by induction on the value. -/
theorem value_written {room : Nat} {v : Value} (h : IsKept room v) : ReadsBack room v := by
  induction h with
  | null => exact fun _ _ _ _ _ => value_plain (by decide) (by decide) (by decide) _
  | bool b => cases b <;> exact fun _ _ _ _ _ => value_plain (by decide) (by decide) (by decide) _
  | int h => exact readsBack_int h
  | text t => exact readsBack_text t
  | list h ih => exact readsBack_list h ih
  | table hkeys h ih => exact readsBack_table hkeys h ih

/-- **What is written is read back**: a value that JSON keeps, with an end of line after
it. -/
theorem read_written {depth : Nat} {v : Value} (h : IsKept depth v) :
    read depth (written 0 v ++ ['\n']) = .ok v := by
  obtain ⟨c, s, hcons, hc⟩ := written_eq_cons h 0
  have hmark : (written 0 v ++ ['\n']).head? ≠ some '\uFEFF' := by
    rw [hcons]
    exact fun heq => hc.ne_mark (Option.some.inj heq)
  have hvalue := value_written h 0 (2 * (written 0 v ++ ['\n']).length + 1) ['\n']
    (endsNumber_cons rfl (by decide) (by decide) (by decide))
    (by rw [List.length_append]; omega)
  have hend : skipBlanks ['\n'] = [] := rfl
  rw [read, document, if_neg hmark, skipBlanks_written h]
  simp only [bind, Except.bind, hvalue, hend]
  rfl

end Reconcile.Json
