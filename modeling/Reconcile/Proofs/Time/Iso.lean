import Mathlib.Data.Option.Basic
import Reconcile.Proofs.Text.Ascii
import Reconcile.Proofs.Time.Calendar
import Reconcile.Time.Iso

/-!
# The text of an instant is read as that instant

Writing pads the parts of a date and a time of day with zeros; reading takes as many
digits as were written (`fixedDigits?_padded`). What is written is put together from
such parts, and each reader takes its own part off (`readDate?_dateText`,
`readTime?_timeText`). Main statement: `read_utcText`; so a time stamp that has a text
is read back as the same instant (`exists_read_of_text?`).
-/

namespace Reconcile.Time.Timestamp

/-! ## Digits -/

theorem isDigit_digitChar_mod (n : Nat) : (Nat.digitChar (n % 10)).isDigit = true := by
  rw [Nat.isDigit_digitChar, decide_eq_true_iff]
  exact Nat.mod_lt _ (by decide)

theorem length_padded (width n : Nat) : (padded width n).length = width := by
  induction width generalizing n with
  | zero => rfl
  | succ width ih => rw [padded, List.length_append, ih, List.length_singleton]

theorem isDigit_of_mem_padded {width n : Nat} {c : Char} (h : c ∈ padded width n) :
    c.isDigit = true := by
  induction width generalizing n with
  | zero => cases h
  | succ width ih =>
    rcases List.mem_append.1 h with h | h
    · exact ih h
    · rw [List.mem_singleton.1 h]
      exact isDigit_digitChar_mod n

theorem ofDigits_append_singleton (ds : List Char) (c : Char) :
    ofDigits (ds ++ [c]) = 10 * ofDigits ds + (c.toNat - '0'.toNat) := by
  rw [ofDigits, List.foldl_append]
  rfl

/-- The digits that are written stand for the number, if they are enough. -/
theorem ofDigits_padded {width n : Nat} (h : n < Nat.pow 10 width) :
    ofDigits (padded width n) = n := by
  induction width generalizing n with
  | zero =>
    have hn : n < 1 := h
    rw [Nat.lt_one_iff.1 hn]
    rfl
  | succ width ih =>
    have hn : n < Nat.pow 10 width * 10 := h
    have hdigit : (Nat.digitChar (n % 10)).toNat - '0'.toNat = n % 10 :=
      Nat.toNat_digitChar_sub_48_of_lt_ten (Nat.mod_lt _ (by decide))
    rw [padded, ofDigits_append_singleton, ih (by omega), hdigit]
    exact Nat.div_add_mod n 10

theorem fixedDigits?_padded {width n : Nat} (h : n < Nat.pow 10 width) (rest : List Char) :
    fixedDigits? width (padded width n ++ rest) = some (n, rest) := by
  have htake : (padded width n ++ rest).take width = padded width n :=
    List.take_left' (length_padded width n)
  have hdrop : (padded width n ++ rest).drop width = rest := List.drop_left' (length_padded width n)
  have hall : (padded width n).all Char.isDigit = true :=
    List.all_eq_true.2 fun c hc => isDigit_of_mem_padded hc
  simp only [fixedDigits?, htake, hdrop, length_padded, hall, and_self, if_true, ofDigits_padded h]

/-! ## Dates and times -/

theorem fixedDigits?_four {n : Nat} (h : n < 10000) (rest : List Char) :
    fixedDigits? 4 (padded 4 n ++ rest) = some (n, rest) :=
  fixedDigits?_padded (show n < Nat.pow 10 4 from h) rest

theorem fixedDigits?_two {n : Nat} (h : n < 100) (rest : List Char) :
    fixedDigits? 2 (padded 2 n ++ rest) = some (n, rest) :=
  fixedDigits?_padded (show n < Nat.pow 10 2 from h) rest

/-- A date as it is written is read as that date. -/
theorem readDate?_dateText {d : Date} (hy : d.year < 10000) (hm : d.month < 100)
    (hd : d.day < 100) : readDate? (dateText d) = some d := by
  have hday := fixedDigits?_two hd []
  rw [List.append_nil] at hday
  rw [readDate?, dateText, List.append_assoc, fixedDigits?_four hy]
  simp only [Option.bind_eq_bind, Option.bind_some, List.cons_append, List.head?_cons, decide_true,
    afterHyphen?, if_true]
  split
  · -- a month does not begin like a week
    rename_i rest hweek
    have hletter : Nat.digitChar (d.month / 10 % 10) = 'W' := (List.cons.inj hweek).1
    have hdigit := isDigit_digitChar_mod (d.month / 10)
    rw [hletter] at hdigit
    cases hdigit
  · rw [fixedDigits?_two hm]
    simp only [Option.bind_some, hday]
    rfl

/-! ## Times of day -/

theorem exists_padded_eq_cons (width n : Nat) :
    ∃ c rest, padded (width + 1) n = c :: rest ∧ c.isDigit = true := by
  have hlength : 0 < (padded (width + 1) n).length := by
    rw [length_padded]
    exact Nat.succ_pos width
  obtain ⟨c, rest, hcons⟩ := List.exists_cons_of_length_pos hlength
  refine ⟨c, rest, hcons, isDigit_of_mem_padded (hcons ▸ List.mem_cons_self)⟩

/-- A number with a colon after it, and something else after that. -/
theorem readRow?_padded_colon {colons : Option Bool} (hcolons : colons.getD true = true) {n : Nat}
    (hn : n < 100) (count m : Nat) (rest : List Char) :
    readRow? (count + 1) colons (padded 2 n ++ ':' :: (padded 2 m ++ rest)) =
      (readRow? count (some true) (padded 2 m ++ rest)).bind fun row =>
        some (n :: row.1, row.2) := by
  obtain ⟨c, digits, hm, -⟩ := exists_padded_eq_cons 1 m
  rw [readRow?, fixedDigits?_two hn, hm]
  simp [hcolons]

/-- The seconds, with the fraction after them if there is one. -/
theorem readRow?_seconds {n : Nat} (hn : n < 100) (count fraction : Nat) :
    readRow? (count + 1) (some true)
        (padded 2 n ++ if fraction = 0 then [] else '.' :: padded 6 fraction) =
      some ([n], if fraction = 0 then .complete false else .fraction (padded 6 fraction)) := by
  rw [readRow?, fixedDigits?_two hn]
  by_cases h : fraction = 0
  · simp [h]
  · obtain ⟨c, digits, hfraction, -⟩ := exists_padded_eq_cons 5 fraction
    simp [h, hfraction]

/-- The time of day of some microseconds. -/
def clockOf (microseconds : Nat) : TimeOfDay :=
  let seconds := microseconds / secondLength
  ⟨seconds / 3600, seconds / 60 % 60, seconds % 60, microseconds % secondLength⟩

theorem microseconds_clockOf (n : Nat) : (clockOf n).microseconds = n := by
  simp only [clockOf, TimeOfDay.microseconds, secondLength]
  omega

/-- A time of day as it is written is read as that time, with nothing after it. -/
theorem readTime?_timeText {n : Nat} (h : n < dayLength) :
    readTime? (timeText n) = some (clockOf n, false) := by
  have hfraction : n % secondLength < Nat.pow 10 6 := Nat.mod_lt _ (by decide)
  simp only [dayLength, secondLength] at h
  have hrow : readRow? 3 none (timeText n) =
      some ([(clockOf n).hour, (clockOf n).minute, (clockOf n).second],
        if n % secondLength = 0 then .complete false
        else .fraction (padded 6 (n % secondLength))) := by
    simp only [timeText, List.append_assoc, List.cons_append]
    rw [readRow?_padded_colon rfl (by simp only [secondLength]; omega),
      readRow?_padded_colon rfl (by omega), readRow?_seconds (by omega)]
    rfl
  rw [readTime?, hrow]
  by_cases hzero : n % secondLength = 0
  · simp [hzero, clockOf]
  · have hdigits := fixedDigits?_padded hfraction []
    rw [List.append_nil] at hdigits
    simp [hzero, length_padded, hdigits, clockOf, isExcess]

/-! ## Time stamps -/

theorem length_dateText (d : Date) : (dateText d).length = 10 := by
  simp only [dateText, List.length_append, List.length_cons, length_padded]

/-- The date is told from what follows it by its first hyphen, after which there is no
week. -/
theorem dateLength?_dateText (d : Date) (c : Char) (rest : List Char) :
    dateLength? (dateText d ++ c :: rest) = some 10 := by
  have hdigit := isDigit_digitChar_mod (d.month / 10)
  have hweek : Nat.digitChar (d.month / 10 % 10) ≠ 'W' := by
    intro hletter
    rw [hletter] at hdigit
    cases hdigit
  have hlength : (dateText d ++ c :: rest).length = rest.length + 11 := by
    rw [List.length_append, length_dateText, List.length_cons]
    omega
  have hhyphen : (dateText d ++ c :: rest)[4]? = some '-' := rfl
  have hmonth : (dateText d ++ c :: rest)[5]? = some (Nat.digitChar (d.month / 10 % 10)) := rfl
  rw [dateLength?, hlength, hhyphen, hmonth, if_neg (by omega), if_neg (by omega), if_pos rfl,
    if_neg (fun h => hweek (Option.some.inj h))]

theorem mem_timeText {n : Nat} {c : Char} (h : c ∈ timeText n) :
    c.isDigit = true ∨ c = ':' ∨ c = '.' := by
  simp only [timeText, List.mem_append, List.mem_cons] at h
  rcases h with ((h | rfl | h) | rfl | h) | h
  · exact .inl (isDigit_of_mem_padded h)
  · exact .inr (.inl rfl)
  · exact .inl (isDigit_of_mem_padded h)
  · exact .inr (.inl rfl)
  · exact .inl (isDigit_of_mem_padded h)
  · split at h
    · cases h
    · rcases List.mem_cons.1 h with rfl | h
      · exact .inr (.inr rfl)
      · exact .inl (isDigit_of_mem_padded h)

theorem isOffsetMark_of_mem_timeText {n : Nat} {c : Char} (h : c ∈ timeText n) :
    isOffsetMark c = false := by
  rw [← Bool.not_eq_true]
  intro hmark
  simp only [isOffsetMark, Bool.or_eq_true, decide_eq_true_iff] at hmark
  rcases hmark with (rfl | rfl) | rfl <;> rcases mem_timeText h with h | h | h <;> cases h

/-- A time of day with the offset of UTC after it. -/
theorem readClock?_timeText {n : Nat} (h : n < dayLength) :
    readClock? (timeText n ++ "+00:00".toList) = some (clockOf n, some ⟨0, 0⟩) := by
  have hmarks : ∀ c ∈ timeText n, (!isOffsetMark c) = true := by
    intro c hc
    rw [isOffsetMark_of_mem_timeText hc]
    rfl
  have hoffset : readOffset? '+' "00:00".toList = some ⟨0, 0⟩ := rfl
  have htake : "+00:00".toList.takeWhile (!isOffsetMark ·) = [] := rfl
  have hdrop : "+00:00".toList.dropWhile (!isOffsetMark ·) = '+' :: "00:00".toList := rfl
  rw [readClock?, List.takeWhile_append_of_pos hmarks, List.dropWhile_append_of_pos hmarks, htake,
    hdrop, List.append_nil, readTime?_timeText h]
  simp only [Option.bind_eq_bind, Option.bind_some, hoffset]
  rfl

theorem valid_dateOf {n : Nat} (h : n < wallLimit) : (Date.ofDayNumber (n / dayLength)).Valid :=
  Date.valid_ofDayNumber ((Nat.div_lt_iff_lt_mul (by decide)).2 h)

theorem readDate?_dateText_of_valid {d : Date} (h : d.Valid) : readDate? (dateText d) = some d := by
  have hyear := h.year_le
  have hmonth := h.month_le
  have hday := Nat.le_trans h.day_le (monthLength_le _ _)
  rw [maxYear] at hyear
  exact readDate?_dateText (by omega) (by omega) (by omega)

/-- The fields of an instant of the calendar as it is written. -/
theorem readFields?_utcText {n : Nat} (h : n < wallLimit) :
    readFields? (utcText n) =
      some (Date.ofDayNumber (n / dayLength), clockOf (n % dayLength), some ⟨0, 0⟩) := by
  have htext : utcText n = dateText (Date.ofDayNumber (n / dayLength)) ++
      'T' :: (timeText (n % dayLength) ++ "+00:00".toList) := by
    rw [utcText, List.append_assoc, List.cons_append]
  have hskip : charSize 'T' = 1 := rfl
  rw [readFields?, htext, dateLength?_dateText]
  simp only [Option.bind_eq_bind, Option.bind_some, List.take_left' (length_dateText _),
    List.drop_left' (length_dateText _), readDate?_dateText_of_valid (valid_dateOf h), hskip,
    List.drop_one, List.tail_cons, readClock?_timeText (Nat.mod_lt n (by decide))]
  rfl

/-- A time of day within the calendar's days is put together from its fields. -/
theorem ofFields_clockOf {n : Nat} (h : n < wallLimit) (offset : Option Offset) :
    ofFields (Date.ofDayNumber (n / dayLength)) (clockOf (n % dayLength)) offset =
      .ok ⟨n, h, offset⟩ := by
  have hvalid := valid_dateOf h
  have hclock : n % dayLength < 86400 * 1000000 := Nat.mod_lt n (by decide)
  have hwall : (Date.ofDayNumber (n / dayLength)).dayNumber * dayLength +
      (clockOf (n % dayLength)).microseconds = n := by
    rw [Date.dayNumber_ofDayNumber, microseconds_clockOf]
    exact Nat.div_add_mod' n dayLength
  have hhour : (clockOf (n % dayLength)).hour ≤ 23 := by
    simp only [clockOf, secondLength]
    omega
  have hminute : (clockOf (n % dayLength)).minute ≤ 59 := by
    simp only [clockOf]
    omega
  have hsecond : (clockOf (n % dayLength)).second ≤ 59 := by
    simp only [clockOf]
    omega
  have hmicrosecond : (clockOf (n % dayLength)).microsecond ≤ 999999 := by
    simp only [clockOf, secondLength]
    omega
  rw [ofFields, dif_pos ⟨hvalid.one_le_year, hvalid.year_le⟩,
    dif_pos ⟨hvalid.one_le_month, hvalid.month_le⟩, dif_pos ⟨hvalid.one_le_day, hvalid.day_le⟩,
    dif_pos hhour, dif_pos hminute, dif_pos hsecond, dif_pos hmicrosecond]
  simp only [hwall]

/-! ## The whole text -/

theorem toNat_lt_of_isDigit {c : Char} (h : c.isDigit = true) : c.toNat < 0x80 := by
  simp only [Char.isDigit, Bool.and_eq_true, decide_eq_true_eq] at h
  have hle : c.toNat ≤ 57 := h.2
  omega

theorem isAscii_padded (width n : Nat) : Text.IsAscii (padded width n) :=
  fun _ h => toNat_lt_of_isDigit (isDigit_of_mem_padded h)

theorem isAscii_timeText (n : Nat) : Text.IsAscii (timeText n) := by
  intro c h
  rcases mem_timeText h with h | rfl | rfl
  · exact toNat_lt_of_isDigit h
  · decide
  · decide

theorem isAscii_utcText (n : Nat) : Text.IsAscii (utcText n) := by
  have hoffset : Text.IsAscii "+00:00".toList := by decide
  simp only [utcText, dateText, Text.isAscii_append, Text.isAscii_cons, isAscii_padded,
    isAscii_timeText, hoffset]
  decide

theorem byteChars_of_isAscii {s : List Char} (h : Text.IsAscii s) : byteChars s = s := by
  rw [byteChars, Utf8.encode_eq_map h, List.map_map]
  refine (List.map_congr_left ?_).trans (List.map_id s)
  intro c hc
  rw [Function.comp_apply, Utf8.toNat_ofNat_of_lt (h c hc), Char.ofNat_toNat, id]

/-- What neither begins nor ends with a blank is left as it is. -/
theorem trimWith_eq_self {α : Type} {isBlank : α → Bool} {first last : α}
    (hfirst : isBlank first = false) (hlast : isBlank last = false) (s : List α) :
    Text.trimWith isBlank (first :: (s ++ [last])) = first :: (s ++ [last]) := by
  have hreverse : (first :: (s ++ [last])).reverse = last :: (s.reverse ++ [first]) := by
    simp
  rw [Text.trimWith, List.dropWhile_cons_of_neg (by simp [hfirst]), hreverse,
    List.dropWhile_cons_of_neg (by simp [hlast]), ← hreverse, List.reverse_reverse]

theorem isBlank_of_isDigit {c : Char} (h : c.isDigit = true) : Text.isBlank c = false := by
  simp only [Char.isDigit, Bool.and_eq_true, decide_eq_true_eq] at h
  have hge : 48 ≤ c.toNat := h.1
  have hle : c.toNat ≤ 57 := h.2
  simp [Text.isBlank, Text.inRanges, Text.blankRanges]
  omega

theorem normalForm_utcText (n : Nat) :
    normalForm ((utcText n).map .char) = (utcText n).map .char := by
  -- a digit stands at either end, so nothing is trimmed and no `Z` is spelt out
  obtain ⟨c, digits, hyear, hdigit⟩ :=
    exists_padded_eq_cons 3 (Date.ofDayNumber (n / dayLength)).year
  obtain ⟨mid, hmid⟩ : ∃ mid, utcText n = c :: (mid ++ ['0']) := by
    refine ⟨digits ++ '-' :: padded 2 (Date.ofDayNumber (n / dayLength)).month ++ '-' ::
      padded 2 (Date.ofDayNumber (n / dayLength)).day ++ 'T' :: timeText (n % dayLength) ++
      "+00:0".toList, ?_⟩
    rw [utcText, dateText, hyear]
    simp
  have hlast : (Point.char c :: (mid.map .char ++ [.char '0'])).getLast? = some (.char '0') := by
    rw [← List.cons_append, List.getLast?_concat]
  have htrim : Text.trimPoints (.char c :: (mid.map .char ++ [.char '0'])) =
      .char c :: (mid.map .char ++ [.char '0']) := by
    have hfirst : (Point.char c).isBlank = false := isBlank_of_isDigit hdigit
    exact trimWith_eq_self hfirst rfl _
  rw [hmid, List.map_cons, List.map_append, List.map_singleton, normalForm, htrim]
  simp [hlast]

/-- Characters are read as they are. -/
theorem readable?_map_char (s : List Char) : readable? (s.map .char) = some s := by
  have hseparator : withSeparator (s.map .char) = s.map .char := by
    have hnone : ∀ i : Nat, (s.map Point.char)[i]?.any (·.char?.isNone) = false := by
      intro i
      rw [List.getElem?_map]
      cases s[i]? <;> rfl
    rw [withSeparator]
    simp only [hnone]
    rfl
  rw [readable?, hseparator]
  clear hseparator
  induction s with
  | nil => rfl
  | cons c s ih =>
    rw [List.map_cons, List.mapM_cons, ih]
    rfl

/-- **What is written is read back**: the text of an instant of the calendar is that
instant. -/
theorem read_utcText {n : Nat} (h : n < wallLimit) :
    read (String.ofList (utcText n)) = .ok ⟨n, h, some .utc⟩ := by
  rw [read, Text.points_ofString, String.toList_ofList, normalForm_utcText, readable?_map_char,
    Option.bind_some, byteChars_of_isAscii (isAscii_utcText n), readFields?_utcText h]
  have hoffset : WrittenOffset.offset ⟨0, 0⟩ = .ok .utc := rfl
  simp only [hoffset, ofFields_clockOf h]
  rfl

/-! ## Time stamps that have a text -/

/-- The instant is within the calendar, the years 1 to 9999 of UTC. -/
def InCalendar (t : Timestamp) : Prop := 0 ≤ t.instant ∧ t.instant < wallLimit

instance (t : Timestamp) : Decidable t.InCalendar :=
  inferInstanceAs (Decidable (0 ≤ t.instant ∧ t.instant < wallLimit))

theorem text?_eq_some_iff {t : Timestamp} {s : String} :
    t.text? = some s ↔ t.InCalendar ∧ String.ofList (utcText t.instant.toNat) = s := by
  rw [text?]
  by_cases h : 0 ≤ t.instant ∧ t.instant < wallLimit
  · rw [if_pos h, Option.some_inj]
    exact ⟨fun heq => ⟨h, heq⟩, fun heq => heq.2⟩
  · rw [if_neg h]
    exact ⟨fun heq => absurd heq (by simp), fun heq => absurd heq.1 h⟩

/-- The text of a time stamp stands for the same instant. -/
theorem exists_read_of_text? {t : Timestamp} {s : String} (h : t.text? = some s) :
    ∃ u, read s = .ok u ∧ (u == t) = true := by
  obtain ⟨⟨h0, hlimit⟩, rfl⟩ := text?_eq_some_iff.1 h
  have hwall : t.instant.toNat < wallLimit := (Int.toNat_lt h0).2 hlimit
  refine ⟨_, read_utcText hwall, beq_iff.2 ?_⟩
  show ((t.instant.toNat : Int) - 0) = t.instant
  rw [Int.sub_zero, Int.toNat_of_nonneg h0]

end Reconcile.Time.Timestamp
