import Reconcile.Proofs.Json.Outline
import Reconcile.Proofs.Json.RoundTrip

/-!
# What stops the reader of JSON

Besides a complaint, reading stops at a whole number that is too long and at values that
are nested too deep, and both are in the outline of the text. Each reader either passes
to the place where it ends, or stops at such an excess (`Runs`); one lemma for each form
of value says so, with the room that its brackets leave. Main statement:
`exists_fault_of_read`.
-/

namespace Reconcile.Json

open Outline (exceeds_of_long exceeds_of_lt_opens passes_cons runs_error)

/-- What stops the reader, a complaint apart. -/
def Stop.excess? : Stop → Option Excess
  | .complaint _ _ => none
  | .longInteger _ => some .long
  | .tooDeep _ => some .deep

variable {α β : Type} {s rest close : List Char} {room : Nat}

/-- The reader passes from `s` to `close` before what follows, or stops on the way. -/
abbrev Runs (room : Nat) (s close : List Char) (found : Except Stop (α × List Char)) : Prop :=
  outline.Runs Stop.excess? (fun found => close ++ found.2) room s found

theorem runs_complain (c : Complaint) (t : List Char) :
    Runs room s close (complain c t : Except Stop (α × List Char)) := runs_error rfl

theorem runs_map {x : Except Stop (α × List Char)} {g : α → β} (h : Runs room s close x) :
    Runs room s close (x >>= fun found => pure (g found.1, found.2)) := by
  cases x <;> exact h

theorem runs_tooDeep {c : Char} (hc : outline.IsOpening c) (hopens : outline.opens c = 1)
    (nest : Nest) :
    Runs 0 (c :: s) close (.error (.tooDeep nest) : Except Stop (α × List Char)) := by
  rintro _ ⟨⟩
  exact exceeds_of_lt_opens hc (by omega) s

/-! ## Words and numbers -/

theorem length_wholePart_le (s : List Char) :
    (wholePart s).1.length ≤ (s.takeWhile Char.isDigit).length := by
  rw [wholePart.eq_def]
  split
  · rw [List.takeWhile_cons_of_pos rfl]
    exact Nat.le_add_left 1 _
  · rw [digitSpan, List.span_eq_takeWhile_dropWhile]

theorem runs_number (room : Nat) (s : List Char) : Runs room s [] (number s) := by
  rw [number.eq_def]
  split
  rename_i negative unsigned hsign
  have hunsigned : outline.Passes s unsigned := by
    split at hsign <;> obtain ⟨-, rfl⟩ := Prod.mk.inj hsign
    · exact passes_cons (by decide) _
    · exact .refl _
  refine Outline.Runs.of_passes hunsigned ?_
  have hwhole := passes_wholePart unsigned
  have hfraction := hwhole.trans (passes_fractionPart _)
  have hexponent := hfraction.trans (passes_exponentPart _)
  dsimp only
  split
  · exact runs_complain _ _
  · split
    · split
      · rintro _ ⟨⟩
        have hlong := Nat.lt_of_lt_of_le ‹_› (length_wholePart_le unsigned)
        exact exceeds_of_long (fun _ hd => (isFlat_of_isDigit hd).not_mark) hlong room
      · exact hexponent
    · exact hexponent

theorem isFlat_of_mem_words : ∀ w ∈ words, ∀ c ∈ w.1, outline.IsFlat c := by
  have h : (words.all fun w => w.1.all fun c => decide (outline.IsFlat c)) = true := by decide
  simpa only [List.all_eq_true, decide_eq_true_iff] using h

theorem runs_plain (room : Nat) (s : List Char) : Runs room s [] (plain s) := by
  rw [plain]
  cases hword : words.findSome? fun w => (after? w.1 s).map fun rest => (w.2, rest) with
  | none => exact runs_number room s
  | some found =>
    obtain ⟨w, hw, hfound⟩ := List.exists_of_findSome?_eq_some hword
    obtain ⟨rest, hafter, rfl⟩ := Option.map_eq_some_iff.1 hfound
    exact passes_of_after? (isFlat_of_mem_words w hw) hafter

/-! ## Values -/

theorem runs_textTail (room : Nat) (s : List Char) : Runs room ('"' :: s) [] (textTail s) := by
  cases h : textTail s with
  | ok found => exact passes_textTail h
  | error e =>
    rw [textTail] at h
    split at h <;> cases h <;> exact runs_error rfl

section Step

variable {fuel : Nat}

theorem runs_value_succ (hitems : ∀ room s, Runs room s [']'] (items fuel room s))
    (hfields : ∀ room s, Runs room s ['\x7d'] (fields fuel room s)) (room : Nat) (s : List Char) :
    Runs room s [] (value (fuel + 1) room s) := by
  rw [value.eq_def]
  dsimp only
  split
  · exact runs_complain _ _
  · rename_i c t
    split
    · subst c
      exact runs_map (g := Value.text) (runs_textTail room t)
    · split
      · subst c
        cases room with
        | zero => exact runs_tooDeep isOpening_bracket rfl .list
        | succ room =>
          dsimp only
          split
          · have hclose := ‹skipBlanks t = _› ▸ passes_skipBlanks t
            exact hclose.enclose isOpening_bracket isClosing_bracket
          · have hread := (hitems room _).of_passes (passes_skipBlanks t)
            exact (runs_map hread).enclose isOpening_bracket isClosing_bracket
      · split
        · subst c
          cases room with
          | zero => exact runs_tooDeep isOpening_brace rfl .table
          | succ room =>
            dsimp only
            split
            · have hclose := ‹skipBlanks t = _› ▸ passes_skipBlanks t
              exact hclose.enclose isOpening_brace isClosing_brace
            · have hread := (hfields room _).of_passes (passes_skipBlanks t)
              exact (runs_map (g := fun fs => Value.table (Keyed.ofPairs fs)) hread).enclose
                isOpening_brace isClosing_brace
        · exact runs_plain room _

theorem runs_items_succ (hvalue : ∀ room s, Runs room s [] (value fuel room s))
    (hitems : ∀ room s, Runs room s [']'] (items fuel room s)) (room : Nat) (s : List Char) :
    Runs room s [']'] (items (fuel + 1) room s) := by
  rw [items]
  refine (hvalue room s).bind fun found => .of_passes (passes_skipBlanks found.2) ?_
  dsimp only
  split
  · rw [‹skipBlanks found.2 = _›]
    exact Outline.Passes.refl _
  · rename_i rest hcomma
    rw [hcomma]
    refine .of_passes ((passes_cons (by decide) rest).trans (passes_skipBlanks rest)) ?_
    exact runs_map (hitems room _)
  · exact runs_complain _ _

theorem runs_fields_succ (hvalue : ∀ room s, Runs room s [] (value fuel room s))
    (hfields : ∀ room s, Runs room s ['\x7d'] (fields fuel room s)) (room : Nat) (s : List Char) :
    Runs room s ['\x7d'] (fields (fuel + 1) room s) := by
  rw [fields.eq_def]
  dsimp only
  split
  · rename_i t
    refine (runs_textTail room t).bind fun name => .of_passes (passes_skipBlanks name.2) ?_
    split
    · rename_i rest hcolon
      rw [hcolon]
      refine .of_passes ((passes_cons (by decide) rest).trans (passes_skipBlanks rest)) ?_
      refine (hvalue room _).bind fun found => .of_passes (passes_skipBlanks found.2) ?_
      split
      · rw [‹skipBlanks found.2 = _›]
        exact Outline.Passes.refl _
      · rename_i rest hcomma
        rw [hcomma]
        refine .of_passes ((passes_cons (by decide) rest).trans (passes_skipBlanks rest)) ?_
        exact runs_map (hfields room _)
      · exact runs_complain _ _
    · exact runs_complain _ _
  · exact runs_complain _ _

end Step

/-- **Each reader of values passes to where it ends, or stops at an excess**, by induction
on the fuel. -/
theorem runs_upTo (fuel : Nat) :
    (∀ room s, Runs room s [] (value fuel room s)) ∧
    (∀ room s, Runs room s [']'] (items fuel room s)) ∧
    ∀ room s, Runs room s ['\x7d'] (fields fuel room s) := by
  induction fuel with
  | zero =>
    exact ⟨fun _ _ => runs_complain _ _, fun _ _ => runs_complain _ _,
      fun _ _ => runs_complain _ _⟩
  | succ fuel ih =>
    obtain ⟨hvalue, hitems, hfields⟩ := ih
    exact ⟨runs_value_succ hitems hfields, runs_items_succ hvalue hitems,
      runs_fields_succ hvalue hfields⟩

/-! ## Whole texts -/

theorem runs_document (depth : Nat) (s : List Char) :
    outline.Runs Stop.excess? (fun _ => []) depth s (document depth s) := by
  rw [document]
  split
  · exact runs_error rfl
  · refine .of_passes (passes_skipBlanks s) (((runs_upTo _).1 _ _).bind fun found => ?_)
    refine .of_passes (passes_skipBlanks found.2) ?_
    dsimp only
    split
    · rw [‹skipBlanks found.2 = _›]
      exact Outline.Passes.refl _
    · exact runs_error rfl

/-- **A text within the limits is read, or complained about.** -/
theorem exists_fault_of_read {depth : Nat} {e : ReadError} (h : outline.Within depth s)
    (he : read depth s = .error e) : ∃ fault, e = .malformed fault := by
  have hruns := runs_document depth s
  cases hstop : document depth s with
  | ok v =>
    rw [read, hstop] at he
    cases he
  | error stop =>
    rw [read, hstop] at he
    rw [hstop] at hruns
    obtain rfl : stop.error s = e := Except.error.inj he
    have hrule := hruns.excess?_eq_none h
    cases stop with
    | complaint c remaining => exact ⟨_, rfl⟩
    | longInteger | tooDeep => cases hrule

/-- Brackets between quotes do not count. -/
example : outline.Within 1 "[12, \"[[\"]".toList :=
  ⟨by decide, fun _ ht =>
    (List.takeWhile_prefix _).length_le.trans (ht.length_le.trans (by decide))⟩

/-! ## A number that is too long -/

theorem number_of_long {c : Char} {ds : List Char} (h : ∀ d ∈ c :: ds, d.isDigit = true)
    (hc : c ≠ '0') (hlong : maxIntegerDigits < (c :: ds).length) :
    number (c :: ds) = .error (.longInteger (c :: ds).length) := by
  have hminus : c ≠ '-' := ne_of_isDigit (h c List.mem_cons_self) rfl
  have hwhole := wholePart_append h hc endsNumber_nil
  rw [List.append_nil] at hwhole
  rw [List.length_cons] at hlong ⊢
  simp [number, hminus, hwhole, fractionPart_of_endsNumber endsNumber_nil,
    exponentPart_of_endsNumber endsNumber_nil, hlong]

/-- A text that is nothing but a whole number stops the reader if it is too long. -/
theorem read_of_long {c : Char} {ds : List Char} (h : ∀ d ∈ c :: ds, d.isDigit = true)
    (hc : c ≠ '0') (hlong : maxIntegerDigits < (c :: ds).length) (depth : Nat) :
    read depth (c :: ds) = .error (.longInteger (c :: ds).length) := by
  have hdigit : c.isDigit = true := h c List.mem_cons_self
  have hne : ∀ d : Char, d.isDigit = false → c ≠ d := fun _ => ne_of_isDigit hdigit
  have hbegins := begins_of_isDigit hdigit
  have hmark : ¬(c :: ds).head? = some '\uFEFF' := fun heq => hbegins.ne_mark (Option.some.inj heq)
  rw [read, document, if_neg hmark, skipBlanks_cons hbegins.not_blank,
    value_plain (hne _ rfl) (hne _ rfl) (hne _ rfl), (plain_eq_number hdigit ds).1,
    number_of_long h hc hlong]
  rfl

end Reconcile.Json
