import Mathlib.Data.List.TakeDrop
import Reconcile.Json.Reader
import Reconcile.Proofs.Document.Outline

/-!
# The outline of a JSON text

What a JSON text has outside its quoted parts (`bare`). Each reader of a blank, a word, a
number or a quoted text passes to where it ends; a quoted text ends, as the reader has
it, at the quote that closes it (`quoted_of_unitsTail`).
-/

namespace Reconcile.Json

open Outline (isFlat_of_test level_singleton passes_cons passes_dropWhile)

/-! ## Outside the quotes -/

mutual

/-- The characters outside quotes, with the opening quote of each quoted part. -/
def bare : List Char → List Char
  | [] => []
  | '"' :: s => '"' :: quoted s
  | c :: s => c :: bare s

/-- `bare` from within a quoted part. -/
def quoted : List Char → List Char
  | [] => []
  | '"' :: s => bare s
  | '\\' :: _ :: s => quoted s
  | _ :: s => quoted s

end

theorem bare_cons {c : Char} (h : c ≠ '"') (s : List Char) : bare (c :: s) = c :: bare s := by
  rw [bare]
  exact h

theorem quoted_cons {c : Char} (hquote : c ≠ '"') (hslash : c ≠ '\\') (s : List Char) :
    quoted (c :: s) = quoted s := by
  rw [quoted]
  · exact hquote
  · intro _ _ h _
    exact hslash h

theorem quoted_escape (e : Char) (s : List Char) : quoted ('\\' :: e :: s) = quoted s := by
  rw [quoted]

/-- Lists and tables take the same room, and only quoted parts do not count. -/
def outline : Outline where
  bare := bare
  isMark c := c = '"'
  opens c := if c = '[' ∨ c = '\x7b' then 1 else 0
  closes c := if c = ']' ∨ c = '\x7d' then 1 else 0
  isNumeral := Char.isDigit
  special := ['"', '[', ']', '\x7b', '\x7d']
  bare_cons h s := bare_cons (of_decide_eq_false h) s
  eq_of_not_special h := by
    simp only [List.mem_cons, List.not_mem_nil, or_false, not_or] at h
    obtain ⟨hquote, hopen, hclose, hopen', hclose'⟩ := h
    exact ⟨decide_eq_false hquote, if_neg (not_or.2 ⟨hopen, hopen'⟩),
      if_neg (not_or.2 ⟨hclose, hclose'⟩)⟩

variable {s t rest : List Char}

theorem isOpening_bracket : outline.IsOpening '[' := ⟨rfl, rfl⟩

theorem isOpening_brace : outline.IsOpening '\x7b' := ⟨rfl, rfl⟩

theorem isClosing_bracket : outline.IsClosing '[' ']' := ⟨rfl, rfl, rfl⟩

theorem isClosing_brace : outline.IsClosing '\x7b' '\x7d' := ⟨rfl, rfl, rfl⟩

/-! ## Blanks, words and numbers -/

theorem isFlat_of_isDigit {c : Char} (h : c.isDigit = true) : outline.IsFlat c :=
  isFlat_of_test (by decide) h

theorem passes_skipBlanks (s : List Char) : outline.Passes s (skipBlanks s) :=
  passes_dropWhile (by decide) s

theorem passes_digitSpan (s : List Char) : outline.Passes s (digitSpan s).2 := by
  rw [digitSpan, List.span_eq_takeWhile_dropWhile]
  exact passes_dropWhile (by decide) s

theorem passes_wholePart (s : List Char) : outline.Passes s (wholePart s).2 := by
  rw [wholePart.eq_def]
  split
  · exact passes_cons (by decide) _
  · exact passes_digitSpan s

theorem passes_fractionPart (s : List Char) : outline.Passes s (fractionPart s).2 := by
  rw [fractionPart.eq_def]
  split
  · split
    · exact .refl _
    · exact (passes_cons (by decide) _).trans (passes_digitSpan _)
  · exact .refl _

theorem passes_exponentPart (s : List Char) : outline.Passes s (exponentPart s).2 := by
  cases s with
  | nil => exact .refl _
  | cons c rest =>
    rw [exponentPart.eq_def]
    dsimp only
    split
    case isFalse => exact .refl _
    case isTrue hc =>
      have hflat : outline.IsFlat c := by rcases hc with rfl | rfl <;> decide
      have hdigits : ∀ (digits : List Char) (size : Option Int), outline.Passes rest digits →
          outline.Passes (c :: rest) (if (digitSpan digits).1.isEmpty then (none, c :: rest)
            else (size, (digitSpan digits).2)).2 := by
        intro digits size hpasses
        split
        · exact .refl _
        · exact (passes_cons hflat _).trans (hpasses.trans (passes_digitSpan _))
      split
      · exact hdigits _ _ (passes_cons (by decide) _)
      · exact hdigits _ _ (passes_cons (by decide) _)
      · exact hdigits _ _ (.refl _)

theorem passes_of_after? {word : List Char} (hword : ∀ c ∈ word, outline.IsFlat c)
    (h : after? word s = some rest) : outline.Passes s rest := by
  induction word generalizing s with
  | nil =>
    obtain rfl : s = rest := Option.some.inj h
    exact .refl s
  | cons w word ih =>
    obtain ⟨hw, hword⟩ := List.forall_mem_cons.1 hword
    cases s with
    | nil => cases h
    | cons c s =>
      rw [after?] at h
      split at h
      · obtain rfl := ‹w = c›
        exact (passes_cons hw s).trans (ih hword h)
      · cases h

theorem hexValue?_isSome_of_mem {ds : List Char} {n m : Nat}
    (h : ds.foldlM (fun n c => (16 * n + ·) <$> hexValue? c) n = some m) :
    ∀ c ∈ ds, (hexValue? c).isSome = true := by
  induction ds generalizing n with
  | nil => exact List.forall_mem_nil _
  | cons d ds ih =>
    rw [List.foldlM_cons] at h
    cases hd : hexValue? d with
    | none =>
      rw [hd] at h
      cases h
    | some k =>
      rw [hd] at h
      refine List.forall_mem_cons.2 ⟨?_, ih h⟩
      rw [hd]
      rfl

/-- No digit of a numeric escape ends a text or begins another escape. -/
theorem ne_of_codeUnit? {h₁ h₂ h₃ h₄ : Char} {unit : Nat} (h : codeUnit? h₁ h₂ h₃ h₄ = some unit) :
    ∀ c ∈ [h₁, h₂, h₃, h₄], c ≠ '"' ∧ c ≠ '\\' := by
  intro c hc
  have hsome := hexValue?_isSome_of_mem h c hc
  constructor <;>
  · rintro rfl
    cases hsome

theorem exists_of_withUnit {unit : Nat} {read : Except TextStop (List Nat × List Char)}
    {units : List Nat} (h : withUnit unit read = .ok (units, rest)) :
    ∃ units', read = .ok (units', rest) := by
  cases read with
  | error e => cases h
  | ok found =>
    obtain ⟨units', rest'⟩ := found
    obtain rfl : rest' = rest := (Prod.mk.inj (Except.ok.inj h)).2
    exact ⟨units', rfl⟩

/-- A text ends at the quote that closes it. -/
theorem quoted_of_unitsTail {units : List Nat} (h : unitsTail s = .ok (units, rest)) :
    quoted s = bare rest := by
  revert units
  fun_induction unitsTail s with
  | case1 =>
    intro units h
    cases h
  | case2 t =>
    intro units h
    obtain rfl : t = rest := (Prod.mk.inj (Except.ok.inj h)).2
    rfl
  | case4 h₁ h₂ h₃ h₄ next t unit hunit ih =>
    intro units h
    obtain ⟨units', hread⟩ := exists_of_withUnit h
    have hne := ne_of_codeUnit? hunit
    simp only [List.forall_mem_cons] at hne
    obtain ⟨h1, h2, h3, h4, -⟩ := hne
    rw [quoted_escape, quoted_cons h1.1 h1.2, quoted_cons h2.1 h2.2, quoted_cons h3.1 h3.2,
      quoted_cons h4.1 h4.2]
    exact ih hread
  | case7 e t _ _ d hescape ih =>
    intro units h
    obtain ⟨units', hread⟩ := exists_of_withUnit h
    rw [quoted_escape]
    exact ih hread
  | case10 c t hquote _ _ hslash hlone hcontrol ih =>
    intro units h
    obtain ⟨units', hread⟩ := exists_of_withUnit h
    have hne : c ≠ '\\' := by
      rintro rfl
      cases t with
      | nil => exact hlone rfl rfl
      | cons e t => exact hslash e t rfl rfl
    rw [quoted_cons hquote hne]
    exact ih hread
  | case3 | case5 | case6 | case8 | case9 =>
    intro units h
    cases h

theorem passes_textTail {text : Text} (h : textTail s = .ok (text, rest)) :
    outline.Passes ('"' :: s) rest := by
  rw [textTail] at h
  cases hunits : unitsTail s with
  | error stop => rw [hunits] at h; cases stop <;> cases h
  | ok found =>
    obtain ⟨units, after⟩ := found
    rw [hunits] at h
    obtain rfl : after = rest := (Prod.mk.inj (Except.ok.inj h)).2
    refine ⟨['"'], ?_, level_singleton rfl rfl⟩
    show bare ('"' :: s) = '"' :: bare after
    rw [bare, quoted_of_unitsTail hunits]

end Reconcile.Json
