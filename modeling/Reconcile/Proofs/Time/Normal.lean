import Reconcile.Proofs.Time.Iso

/-!
# The normal form of a time stamp's text

A text that is a time stamp has many spellings, and one of them is that of UTC. Writing
in UTC puts rows of digits of a fixed width together (`isUtcForm_utcText`), and as its
text is read back as the same instant, different instants have different texts
(`utcText_injective`). Main statement: `normalized?_canonical`.
-/

namespace Reconcile.Time.Timestamp

/-- The text in UTC of the time stamp that a text is, if it is one and its instant is
within the calendar. -/
def normalized? (written : Text) : Option String := (read written).toOption.bind text?

/-- Whether `s` is a row of `width` digits. -/
def IsRow (width : Nat) (s : List Char) : Prop := s.length = width ∧ ∀ c ∈ s, c.isDigit = true

/-- The form of a text in UTC, which has a fraction of a second or none:
`YYYY-MM-DDTHH:MM:SS.ffffff+00:00` or `YYYY-MM-DDTHH:MM:SS+00:00`. -/
def IsUtcForm (s : List Char) : Prop :=
  ∃ year month day hour minute second fraction : List Char,
    s = year ++ '-' :: month ++ '-' :: day ++ 'T' :: hour ++ ':' :: minute ++ ':' :: second ++
      fraction ++ "+00:00".toList ∧
    IsRow 4 year ∧ IsRow 2 month ∧ IsRow 2 day ∧ IsRow 2 hour ∧ IsRow 2 minute ∧ IsRow 2 second ∧
    (fraction = [] ∨ ∃ digits, fraction = '.' :: digits ∧ IsRow 6 digits)

theorem isRow_padded (width n : Nat) : IsRow width (padded width n) :=
  ⟨length_padded width n, fun _ h => isDigit_of_mem_padded h⟩

theorem isUtcForm_utcText (n : Nat) : IsUtcForm (utcText n) := by
  let date := Date.ofDayNumber (n / dayLength)
  let seconds := n % dayLength / secondLength
  let fraction := n % dayLength % secondLength
  refine ⟨padded 4 date.year, padded 2 date.month, padded 2 date.day, padded 2 (seconds / 3600),
    padded 2 (seconds / 60 % 60), padded 2 (seconds % 60),
    if fraction = 0 then [] else '.' :: padded 6 fraction, ?_, isRow_padded _ _, isRow_padded _ _,
    isRow_padded _ _, isRow_padded _ _, isRow_padded _ _, isRow_padded _ _, ?_⟩
  · simp only [utcText, dateText, timeText, List.append_assoc, List.cons_append, date, seconds,
      fraction]
  · by_cases h : fraction = 0
    · exact .inl (if_pos h)
    · exact .inr ⟨padded 6 fraction, if_neg h, isRow_padded 6 fraction⟩

/-- Different instants have different texts, because each is read back. -/
theorem utcText_injective {m n : Nat} (hm : m < wallLimit) (hn : n < wallLimit)
    (h : utcText m = utcText n) : m = n := by
  have hread := read_utcText hm
  rw [h, read_utcText hn] at hread
  exact congrArg Timestamp.wall (Except.ok.inj hread).symm

theorem text?_eq_text?_iff {a b : Timestamp} (ha : a.InCalendar) (hb : b.InCalendar) :
    a.text? = b.text? ↔ a.instant = b.instant := by
  rw [text?_eq_some_iff.2 ⟨ha, rfl⟩, text?_eq_some_iff.2 ⟨hb, rfl⟩, Option.some_inj,
    String.ofList_inj]
  constructor
  · intro h
    have htoNat := utcText_injective ((Int.toNat_lt ha.1).2 ha.2) ((Int.toNat_lt hb.1).2 hb.2) h
    have ha0 := ha.1
    have hb0 := hb.1
    omega
  · intro h
    rw [h]

theorem normalized?_of_read {written : Text} {t : Timestamp} (h : read written = .ok t) :
    normalized? written = t.text? := by
  rw [normalized?, h]
  rfl

/-- **The text in UTC is a normal form** of the spellings of an instant of the calendar: it
has the form of UTC, it is read as that instant, it is its own normal form, and two texts
have the same one exactly if they stand for the same instant. -/
theorem normalized?_canonical {s t : Text} {a b : Timestamp} (hs : read s = .ok a)
    (ht : read t = .ok b) (ha : a.InCalendar) (hb : b.InCalendar) :
    ∃ x, normalized? s = some x ∧ IsUtcForm x.toList ∧
      (∃ u, read x = .ok u ∧ u.instant = a.instant) ∧ normalized? x = some x ∧
      (normalized? t = some x ↔ a.instant = b.instant) := by
  have hx := text?_eq_some_iff.2 ⟨ha, rfl⟩
  obtain ⟨u, hu, hinstant⟩ := exists_read_of_text? hx
  rw [beq_iff] at hinstant
  -- the text stands for the same instant, so its own text is the same
  have hcalendar : u.InCalendar := by
    rw [InCalendar, hinstant]
    exact ha
  have hself := (text?_eq_text?_iff hcalendar ha).2 hinstant
  refine ⟨_, (normalized?_of_read hs).trans hx, ?_, ⟨u, hu, hinstant⟩, ?_, ?_⟩
  · rw [String.toList_ofList]
    exact isUtcForm_utcText _
  · rw [normalized?_of_read hu, hself, hx]
  · rw [normalized?_of_read ht, ← hx, eq_comm]
    exact text?_eq_text?_iff ha hb

/-- A week date behind UTC and a calendar date of the next day, with more digits than
count. -/
theorem canonical_across_days :
    let a : Timestamp :=
      ⟨63745057800250000, by decide, some ⟨-86340000000, by decide, by decide⟩⟩
    let b : Timestamp := ⟨63745144140250000, by decide, some .utc⟩
    read "2020-W53-5T00:30:00,25-23:59" = .ok a ∧ read " 20210102x002900.250000999Z" = .ok b ∧
      a.InCalendar ∧ b.InCalendar ∧ normalized? "2020-W53-5T00:30:00,25-23:59" =
        normalized? " 20210102x002900.250000999Z" := by
  intro a b
  have hs : read "2020-W53-5T00:30:00,25-23:59" = .ok a := rfl
  have ht : read " 20210102x002900.250000999Z" = .ok b := rfl
  have ha : a.InCalendar := by decide
  have hb : b.InCalendar := by decide
  obtain ⟨x, hx, -, -, -, hsame⟩ := normalized?_canonical hs ht ha hb
  exact ⟨hs, ht, ha, hb, hx.trans (hsame.2 (by decide)).symm⟩

end Reconcile.Time.Timestamp
