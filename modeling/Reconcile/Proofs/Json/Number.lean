import Mathlib.Data.List.TakeDrop
import Reconcile.Json.Reader
import Reconcile.Json.Writer

/-!
# Whole numbers are read as they were written

What follows a whole number must not go on with it (`EndsNumber`). Main statement:
`plain_writtenInt`.
-/

namespace Reconcile.Json

/-- Nothing at the front of `rest` goes on with a whole number. -/
def EndsNumber (rest : List Char) : Prop :=
  ∀ c ∈ rest.head?, c.isDigit = false ∧ c ≠ '.' ∧ c ≠ 'e' ∧ c ≠ 'E'

variable {rest : List Char}

theorem endsNumber_nil : EndsNumber [] := by
  intro c h
  cases h

theorem endsNumber_cons {c : Char} (hdigit : c.isDigit = false) (hpoint : c ≠ '.') (he : c ≠ 'e')
    (hE : c ≠ 'E') : EndsNumber (c :: rest) := by
  intro d h
  obtain rfl : c = d := Option.some.inj h
  exact ⟨hdigit, hpoint, he, hE⟩

/-! ## The parts of a number -/

theorem ne_of_isDigit {c d : Char} (hc : c.isDigit = true) (hd : d.isDigit = false) : c ≠ d := by
  rintro rfl
  rw [hc] at hd
  cases hd

/-- All digits at the front are taken. -/
theorem digitSpan_append {ds : List Char} (hds : ∀ c ∈ ds, c.isDigit = true)
    (hrest : EndsNumber rest) : digitSpan (ds ++ rest) = (ds, rest) := by
  rw [digitSpan, List.span_eq_takeWhile_dropWhile, List.takeWhile_append_of_pos hds,
    List.dropWhile_append_of_pos hds]
  cases rest with
  | nil => simp
  | cons c rest =>
    have hc := (hrest c rfl).1
    simp [hc]

theorem digits_toDigits {n : Nat} {c : Char} (h : c ∈ Nat.toDigits 10 n) : c.isDigit = true :=
  Nat.isDigit_of_mem_toDigits (by decide) (by decide) h

theorem ofDigits_toDigits (n : Nat) : ofDigits (Nat.toDigits 10 n) = n :=
  Nat.ofDigitChars_ten_toDigits

/-- Only zero is written with a zero in front. -/
theorem exists_toDigits_eq_cons {n : Nat} (h : 0 < n) :
    ∃ c ds, Nat.toDigits 10 n = c :: ds ∧ c ≠ '0' := by
  induction n using Nat.strongRecOn with
  | ind n ih =>
    rcases Nat.lt_or_ge n 10 with hlt | hge
    · refine ⟨n.digitChar, [], Nat.toDigits_of_lt_base hlt, ?_⟩
      intro hzero
      rw [Nat.digitChar_eq_zero] at hzero
      omega
    · obtain ⟨c, ds, hcons, hc⟩ := ih (n / 10) (by omega) (by omega)
      refine ⟨c, ds ++ [Nat.digitChar (n % 10)], ?_, hc⟩
      rw [Nat.toDigits_of_base_le (by decide) hge, hcons, List.cons_append]

/-- Digits that do not start with a zero are a whole part. -/
theorem wholePart_append {c : Char} {ds : List Char} (h : ∀ d ∈ c :: ds, d.isDigit = true)
    (hc : c ≠ '0') (hrest : EndsNumber rest) : wholePart (c :: ds ++ rest) = (c :: ds, rest) := by
  have hspan := digitSpan_append h hrest
  rw [List.cons_append] at hspan ⊢
  rw [wholePart, hspan]
  rintro _ heq
  exact hc (List.cons.inj heq).1

theorem wholePart_toDigits (n : Nat) (hrest : EndsNumber rest) :
    wholePart (Nat.toDigits 10 n ++ rest) = (Nat.toDigits 10 n, rest) := by
  rcases Nat.eq_zero_or_pos n with rfl | hpos
  · rfl
  · obtain ⟨c, ds, hcons, hc⟩ := exists_toDigits_eq_cons hpos
    rw [hcons]
    exact wholePart_append (fun _ h => digits_toDigits (hcons ▸ h)) hc hrest

theorem fractionPart_of_endsNumber (hrest : EndsNumber rest) : fractionPart rest = ([], rest) := by
  cases rest with
  | nil => rfl
  | cons c rest =>
    rw [fractionPart]
    rintro _ heq
    exact (hrest c rfl).2.1 (List.cons.inj heq).1

theorem exponentPart_of_endsNumber (hrest : EndsNumber rest) :
    exponentPart rest = (none, rest) := by
  cases rest with
  | nil => rfl
  | cons c rest =>
    obtain ⟨-, -, he, hE⟩ := hrest c rfl
    rw [exponentPart.eq_def]
    exact if_neg (not_or.2 ⟨he, hE⟩)

/-! ## Whole numbers -/

theorem isDigit_of_toDigits_eq_cons {n : Nat} {c : Char} {ds : List Char}
    (h : Nat.toDigits 10 n = c :: ds) : c.isDigit = true :=
  digits_toDigits (h ▸ List.mem_cons_self)

theorem number_toDigits {n : Nat} (hn : (Nat.toDigits 10 n).length ≤ maxIntegerDigits)
    (hrest : EndsNumber rest) : number (Nat.toDigits 10 n ++ rest) = .ok (.int n, rest) := by
  obtain ⟨c, ds, hcons⟩ := List.exists_cons_of_ne_nil (Nat.toDigits_ne_nil (n := n) (b := 10))
  have hminus : c ≠ '-' := ne_of_isDigit (isDigit_of_toDigits_eq_cons hcons) rfl
  have hwhole := wholePart_toDigits n hrest
  have hvalue := ofDigits_toDigits n
  rw [hcons] at hn hwhole hvalue ⊢
  rw [List.cons_append] at hwhole ⊢
  simpa [number, hminus, hwhole, fractionPart_of_endsNumber hrest,
    exponentPart_of_endsNumber hrest, hvalue] using hn

theorem number_minus_toDigits {n : Nat} (hn : (Nat.toDigits 10 n).length ≤ maxIntegerDigits)
    (hrest : EndsNumber rest) :
    number ('-' :: (Nat.toDigits 10 n ++ rest)) = .ok (.int (-n), rest) := by
  have hempty : (Nat.toDigits 10 n).isEmpty = false := by
    rw [List.isEmpty_eq_false_iff]
    exact Nat.toDigits_ne_nil
  simp only [number, wholePart_toDigits n hrest, fractionPart_of_endsNumber hrest,
    exponentPart_of_endsNumber hrest, ofDigits_toDigits, hempty, if_neg (Nat.not_lt.2 hn)]
  rfl

/-- No word that stands for a value begins with a digit, or with a minus and a digit. -/
theorem plain_eq_number {c : Char} (hc : c.isDigit = true) (s : List Char) :
    plain (c :: s) = number (c :: s) ∧ plain ('-' :: c :: s) = number ('-' :: c :: s) := by
  have hne : ∀ d : Char, d.isDigit = false → d ≠ c := fun _ hd => (ne_of_isDigit hc hd).symm
  constructor <;>
    simp [plain, words, after?, hne]

/-- **Whole numbers** are read as they were written. -/
theorem plain_writtenInt {n : Int} (hn : (Nat.toDigits 10 n.natAbs).length ≤ maxIntegerDigits)
    (hrest : EndsNumber rest) : plain (writtenInt n ++ rest) = .ok (.int n, rest) := by
  obtain ⟨c, ds, hcons⟩ :=
    List.exists_cons_of_ne_nil (Nat.toDigits_ne_nil (n := n.natAbs) (b := 10))
  have hplain := plain_eq_number (isDigit_of_toDigits_eq_cons hcons) (ds ++ rest)
  rw [← List.cons_append, ← hcons] at hplain
  rw [writtenInt]
  by_cases h : n < 0
  · rw [if_pos h, List.singleton_append, List.cons_append, hplain.2, number_minus_toDigits hn hrest,
      show -(n.natAbs : Int) = n by omega]
  · rw [if_neg h, List.nil_append, hplain.1, number_toDigits hn hrest,
      show (n.natAbs : Int) = n by omega]

end Reconcile.Json
