import Reconcile.Proofs.Document.Outline
import Reconcile.Proofs.Toml.Text

/-!
# The outline of a TOML document

What a document has outside its texts and comments (`bare`). Each reader of a key, a
date, a time or a number passes to the place where it ends. A key is special: three
quotes in a row begin a text of several lines, but a key reads the first two as an empty
part, and then goes no further (`IsStuck`).
-/

namespace Reconcile.Toml

open Outline (isFlat_of_test level_singleton passes_cons passes_drop passes_dropWhile)

/-! ## Outside the texts and comments -/

/-- Whether a text begins with `c`. -/
def isQuote (c : Char) : Bool := c = '"' || c = literalMark

/-- The characters outside texts and comments after `skip` more, with the first mark of
each text and comment. A text ends where the reader ends it. -/
def bareAfter : (skip : Nat) → List Char → List Char
  | _, [] => []
  | skip + 1, _ :: s => bareAfter skip s
  | 0, c :: s =>
    if isQuote c then
      match text? (c :: s) with
      | some (_, rest) => c :: bareAfter (s.length - rest.length) s
      | none => [c]
    else if c = '#' then c :: bareAfter (s.length - (s.dropWhile (· ≠ '\n')).length) s
    else c :: bareAfter 0 s

/-- The characters outside texts and comments, with the first mark of each. -/
def bare (s : List Char) : List Char := bareAfter 0 s

/-- Whether `c` may stand in a row of decimal digits. -/
def isNumeral (c : Char) : Bool := c.isDigit || c = '_'

theorem bareAfter_eq (skip : Nat) (s : List Char) : bareAfter skip s = bare (s.drop skip) := by
  induction s generalizing skip with
  | nil => rw [List.drop_nil, bareAfter, bare, bareAfter]
  | cons c s ih =>
    cases skip with
    | zero => rfl
    | succ skip => rw [bareAfter, ih, List.drop_succ_cons]

theorem bare_cons {c : Char} (hquote : isQuote c = false) (hmark : c ≠ '#') (s : List Char) :
    bare (c :: s) = c :: bare s := by
  rw [bare, bareAfter, hquote, if_neg hmark]
  rfl

theorem bare_text {c : Char} {s rest t : List Char} (hquote : isQuote c = true)
    (h : text? (c :: s) = some (t, rest)) : bare (c :: s) = c :: bare rest := by
  have hend : HasEnd s rest := text?_cons_hasEnd c s (t, rest) h
  rw [bare, bareAfter, if_pos hquote, h]
  dsimp only
  rw [bareAfter_eq, hend.drop_eq]

theorem bare_comment (s : List Char) :
    bare ('#' :: s) = '#' :: bare (s.dropWhile (· ≠ '\n')) := by
  have hend : HasEnd s (s.dropWhile (· ≠ '\n')) := hasEnd_dropWhile _ s
  rw [bare, bareAfter, if_neg (by decide), if_pos rfl, bareAfter_eq, hend.drop_eq]

/-- Lists and tables take different room. -/
def outline : Outline where
  bare := bare
  isMark c := isQuote c || c = '#'
  opens c := if c = '[' then Nest.list.tomlSize else if c = '\x7b' then Nest.table.tomlSize else 0
  closes c := if c = ']' then Nest.list.tomlSize else if c = '\x7d' then Nest.table.tomlSize else 0
  isNumeral := isNumeral
  special := ['"', literalMark, '#', '[', ']', '\x7b', '\x7d']
  bare_cons h s := by
    obtain ⟨hquote, hmark⟩ := Bool.or_eq_false_iff.1 h
    exact bare_cons hquote (of_decide_eq_false hmark) s
  eq_of_not_special h := by
    simp only [List.mem_cons, List.not_mem_nil, or_false, not_or] at h
    obtain ⟨hquote, hliteral, hmark, hopen, hclose, hopen', hclose'⟩ := h
    simp [isQuote, *]

instance : IsTrans (List Char) outline.Passes := ⟨fun _ _ _ h h' => h.trans h'⟩

variable {α β : Type} {s t rest : List Char}

theorem isOpening_bracket : outline.IsOpening '[' := ⟨rfl, rfl⟩

theorem isOpening_brace : outline.IsOpening '\x7b' := ⟨rfl, rfl⟩

theorem isClosing_bracket : outline.IsClosing '[' ']' := ⟨rfl, rfl, rfl⟩

theorem isClosing_brace : outline.IsClosing '\x7b' '\x7d' := ⟨rfl, rfl, rfl⟩

/-! ## Blanks, texts and comments -/

theorem passes_skipBlanks (s : List Char) : outline.Passes s (skipBlanks s) :=
  passes_dropWhile (by decide) s

theorem passes_skipSpace (s : List Char) : outline.Passes s (skipSpace s) :=
  passes_dropWhile (by decide) s

theorem isFlat_of_isDigit {c : Char} (h : c.isDigit = true) : outline.IsFlat c :=
  isFlat_of_test (by decide) h

theorem passes_text {c : Char} {text : List Char} (hquote : isQuote c = true)
    (h : text? (c :: s) = some (text, rest)) : outline.Passes (c :: s) rest := by
  refine ⟨[c], bare_text hquote h, ?_⟩
  rcases Bool.or_eq_true_iff.1 hquote with hc | hc
  · obtain rfl := of_decide_eq_true hc
    exact level_singleton rfl rfl
  · obtain rfl := of_decide_eq_true hc
    exact level_singleton rfl rfl

theorem passes_comment (s : List Char) :
    outline.Passes ('#' :: s) (s.dropWhile (· ≠ '\n')) :=
  ⟨['#'], bare_comment s, level_singleton rfl rfl⟩

/-! ## Keys -/

/-- A quote is next, at which nothing that may follow a key begins. -/
def IsStuck (s : List Char) : Prop := ∃ c ∈ s.head?, isQuote c = true

theorem isStuck_cons {c : Char} (h : isQuote c = true) (s : List Char) : IsStuck (c :: s) :=
  ⟨c, rfl, h⟩

theorem IsStuck.skipBlanks_eq (h : IsStuck s) : skipBlanks s = s := by
  obtain ⟨c, hc, hquote⟩ := h
  cases s with
  | nil => cases hc
  | cons d rest =>
    obtain rfl : d = c := Option.some.inj hc
    refine List.dropWhile_cons_of_neg ?_
    intro hblank
    simp only [isBlank, Bool.or_eq_true, decide_eq_true_iff] at hblank
    rcases hblank with rfl | rfl <;> cases hquote

/-- Except before two more quotes, a quote begins the same text in a key and in a value. -/
theorem basicTail_of_quote (s : List Char) :
    ∀ found ∈ basicTail false (s.length + 1) s,
      IsStuck found.2 ∨ outline.Passes ('"' :: s) found.2 := by
  intro found hfound
  by_cases h : ∃ after, s = '"' :: '"' :: after
  · -- the part is empty, and the third quote is next
    obtain ⟨after, rfl⟩ := h
    obtain rfl : ([], '"' :: after) = found := Option.some.inj hfound
    exact .inl (isStuck_cons rfl after)
  · have htext : text? ('"' :: s) = some found := by
      rw [text?]
      · exact hfound
      · exact fun after heq => h ⟨after, heq⟩
    exact .inr (passes_text rfl htext)

theorem literalTail_of_quote (s : List Char) :
    ∀ found ∈ literalTail s, IsStuck found.2 ∨ outline.Passes (literalMark :: s) found.2 := by
  intro found hfound
  have htext : text? (literalMark :: s) = if s.take 2 = [literalMark, literalMark] then
      (literalLinesTail (skipLineEnd (s.drop 2))).map (withExtraMarks literalMark)
    else literalTail s := rfl
  by_cases h : s.take 2 = [literalMark, literalMark]
  · obtain ⟨after, rfl⟩ : ∃ after, s = literalMark :: literalMark :: after := by
      refine ⟨s.drop 2, ?_⟩
      have happend := List.take_append_drop 2 s
      rw [h] at happend
      exact happend.symm
    obtain rfl : ([], literalMark :: after) = found := Option.some.inj hfound
    exact .inl (isStuck_cons (by decide) after)
  · rw [if_neg h] at htext
    exact .inr (passes_text (by decide) (htext.trans hfound))

theorem passes_keyPart? (s : List Char) :
    ∀ found ∈ keyPart? s, IsStuck found.2 ∨ outline.Passes s found.2 := by
  cases s with
  | nil =>
    rintro _ ⟨⟩
  | cons c rest =>
    rw [keyPart?]
    split
    · rintro _ ⟨⟩
      exact .inr (passes_dropWhile (by decide) _)
    · split
      · subst c
        intro _ hfound
        obtain ⟨found, htext, rfl⟩ := Option.map_eq_some_iff.1 hfound
        exact basicTail_of_quote rest found htext
      · split
        · subst c
          intro _ hfound
          obtain ⟨found, htext, rfl⟩ := Option.map_eq_some_iff.1 hfound
          exact literalTail_of_quote rest found htext
        · rintro _ ⟨⟩

/-- Only the last part of a key can be stuck, since a point follows the others. -/
theorem passes_keyParts? (fuel : Nat) (s : List Char) :
    ∀ found ∈ keyParts? fuel s, IsStuck found.2 ∨ outline.Passes s found.2 := by
  induction fuel generalizing s with
  | zero => rintro _ ⟨⟩
  | succ fuel ih =>
    intro found hfound
    rw [keyParts?] at hfound
    obtain ⟨part, hpart, hrest⟩ := Option.bind_eq_some_iff.1 hfound
    dsimp only at hrest
    rcases passes_keyPart? s part hpart with hstuck | hpasses
    · -- a quote is neither a blank nor a point, so the key ends here
      rw [hstuck.skipBlanks_eq] at hrest
      split at hrest
      · rename_i after hpoint
        rw [hpoint] at hstuck
        obtain ⟨_, ⟨⟩, hquote⟩ := hstuck
        exact absurd hquote (by decide)
      · obtain rfl := Option.some.inj hrest
        exact .inl hstuck
    · have hblanks := hpasses.trans (passes_skipBlanks part.2)
      split at hrest
      · rename_i after hpoint
        rw [hpoint] at hblanks
        have hafter := hblanks.trans
          ((passes_cons (by decide) after).trans (passes_skipBlanks after))
        obtain ⟨parts, hparts, hfound⟩ := Option.bind_eq_some_iff.1 hrest
        obtain rfl := Option.some.inj hfound
        exact (ih _ parts hparts).imp_right hafter.trans
      · obtain rfl := Option.some.inj hrest
        exact .inr hblanks

/-! ## Dates and times -/

theorem Goes.getD_passes {found : Option (List Char)} (h : Goes outline.Passes id s found) :
    outline.Passes s (found.getD s) := by
  cases found with
  | none => exact .refl s
  | some t => exact h t rfl

theorem fixedNumber?_passes (count : Nat) (s : List Char) :
    Goes outline.Passes Prod.snd s (fixedNumber? count s) := by
  rw [fixedNumber?]
  split
  · rename_i hdigits
    exact goes_some (passes_drop fun c hc => isFlat_of_isDigit (List.all_eq_true.1 hdigits.2 c hc))
  · exact goes_none

theorem after?_passes {c : Char} (hc : outline.IsFlat c) (s : List Char) :
    Goes outline.Passes id s (after? c s) := by
  rw [after?.eq_def]
  split
  · split
    · subst c
      exact goes_some (passes_cons hc _)
    · exact goes_none
  · exact goes_none

/-- A number of some digits after a separator. -/
theorem after?_fixedNumber?_passes {place : β → List Char} {c : Char} (hc : outline.IsFlat c)
    (count : Nat) (s : List Char) {f : Nat × List Char → Option β}
    (hf : ∀ found, Goes outline.Passes place found.2 (f found)) :
    Goes outline.Passes place s (after? c s >>= fun rest => fixedNumber? count rest >>= f) :=
  (after?_passes hc s).bind fun rest => (fixedNumber?_passes count rest).bind hf

theorem afterTime?_passes (s : List Char) : Goes outline.Passes id s (afterTime? s) := by
  rw [afterTime?]
  refine (fixedNumber?_passes 2 s).bind fun hour => ?_
  refine after?_fixedNumber?_passes (c := ':') (by decide) 2 hour.2 fun minute => ?_
  refine after?_fixedNumber?_passes (c := ':') (by decide) 2 minute.2 fun second => ?_
  refine goes_guard fun _ => ?_
  split
  · rename_i c fraction hrest
    rw [hrest]
    refine goes_some ?_
    dsimp only [id]
    split
    · rename_i hdigit
      exact (passes_cons (by decide) _).trans ((passes_cons (isFlat_of_isDigit hdigit) _).trans
        (passes_dropWhile (by decide) fraction))
    · exact .refl _
  · exact goes_some (.refl _)

theorem afterOffset_passes (s : List Char) : outline.Passes s (afterOffset s) := by
  cases s with
  | nil => exact .refl _
  | cons c rest =>
    rw [afterOffset]
    split
    case isTrue hmark =>
      rcases hmark with rfl | rfl <;> exact passes_cons (by decide) rest
    case isFalse =>
      split
      case isFalse => exact .refl _
      case isTrue hsign =>
        have hflat : outline.IsFlat c := by rcases hsign with rfl | rfl <;> decide
        refine Goes.getD_passes (.after (passes_cons hflat rest) ?_)
        refine (fixedNumber?_passes 2 rest).bind fun hour => ?_
        refine after?_fixedNumber?_passes (c := ':') (by decide) 2 hour.2 fun minute => ?_
        exact goes_guard fun _ => goes_some (.refl _)

theorem date?_passes (s : List Char) : Goes outline.Passes Prod.snd s (date? s) := by
  rw [date?]
  refine (fixedNumber?_passes 4 s).bind fun year => ?_
  refine after?_fixedNumber?_passes (c := '-') (by decide) 2 year.2 fun month => ?_
  refine after?_fixedNumber?_passes (c := '-') (by decide) 2 month.2 fun day => ?_
  exact goes_guard fun _ => goes_some (.refl _)

/-! ## Numbers -/

/-- After a digit, a row ends, or goes on with the next character or the one after an
underscore. -/
theorem digitRun_cons {isDigit : Char → Bool} {c : Char} (h : isDigit c = true) (rest : List Char) :
    digitRun isDigit (c :: rest) = ([c], rest) ∨
      ∃ t, (rest = t ∨ rest = '_' :: t) ∧
        digitRun isDigit (c :: rest) = (c :: (digitRun isDigit t).1, (digitRun isDigit t).2) := by
  rw [digitRun.eq_def]
  dsimp only
  rw [if_pos h]
  split
  · rename_i d rest'
    split
    · exact .inr ⟨d :: rest', .inr rfl, rfl⟩
    · exact .inl rfl
  · exact .inr ⟨rest, .inl rfl, rfl⟩

/-- By induction on the length, since a row may go on two characters later. -/
theorem digitRun_spec {isDigit : Char → Bool} (hflat : ∀ c, isDigit c = true → outline.IsFlat c)
    (s : List Char) :
    outline.Passes s (digitRun isDigit s).2 ∧
      (digitRun isDigit s).1.length ≤ (s.takeWhile fun c => isDigit c || c = '_').length := by
  induction hn : s.length using Nat.strongRecOn generalizing s with
  | ind n ih =>
    cases s with
    | nil => exact ⟨.refl _, Nat.zero_le _⟩
    | cons c rest =>
      by_cases hc : isDigit c = true
      · have hcons : outline.Passes (c :: rest) rest := passes_cons (hflat c hc) rest
        have htake : ((c :: rest).takeWhile fun c => isDigit c || c = '_').length =
            (rest.takeWhile fun c => isDigit c || c = '_').length + 1 := by
          rw [List.takeWhile_cons_of_pos (by simp [hc]), List.length_cons]
        obtain hend | ⟨t, ht, hmore⟩ := digitRun_cons hc rest
        · rw [hend, htake]
          exact ⟨hcons, Nat.le_add_left 1 _⟩
        · have hlength : t.length < n := by
            rcases ht with rfl | rfl <;> simp only [List.length_cons] at hn <;> omega
          have hpasses : outline.Passes rest t := by
            rcases ht with rfl | rfl
            · exact .refl _
            · exact passes_cons (by decide) t
          have hshorter : (t.takeWhile fun c => isDigit c || c = '_').length ≤
              (rest.takeWhile fun c => isDigit c || c = '_').length := by
            rcases ht with rfl | rfl
            · exact Nat.le_refl _
            · rw [List.takeWhile_cons_of_pos (by simp), List.length_cons]
              exact Nat.le_add_right _ 1
          obtain ⟨hrest, hrow⟩ := ih t.length hlength t rfl
          rw [hmore, htake]
          exact ⟨hcons.trans (hpasses.trans hrest),
            Nat.succ_le_succ (Nat.le_trans hrow hshorter)⟩
      · rw [digitRun.eq_def]
        dsimp only
        rw [if_neg hc]
        exact ⟨.refl _, Nat.zero_le _⟩

theorem digitRun_passes (s : List Char) : outline.Passes s (digitRun Char.isDigit s).2 :=
  (digitRun_spec (fun _ => isFlat_of_isDigit) s).1

theorem isFlat_of_isDigitIn {base : Nat} {c : Char} (h : isDigitIn base c = true) :
    outline.IsFlat c := by
  have hvalue : (hexValue? c).isSome = true := by
    rw [isDigitIn] at h
    cases hn : hexValue? c with
    | none =>
      rw [hn] at h
      cases h
    | some n => rfl
  exact isFlat_of_test (p := fun c => (hexValue? c).isSome) (by decide) hvalue

/-- In base zero, there are no digits. -/
theorem digitRun_isDigitIn_zero (s : List Char) : (digitRun (isDigitIn 0) s).1 = [] := by
  cases s with
  | nil => rfl
  | cons c s =>
    have hnot : ¬isDigitIn 0 c = true := by
      rw [isDigitIn]
      cases hexValue? c <;> simp
    rw [digitRun.eq_def]
    dsimp only
    rw [if_neg hnot]

theorem withBase?_passes (s : List Char) : Goes outline.Passes Prod.snd s (withBase? s) := by
  rw [withBase?.eq_def]
  split
  · rename_i b rest
    have hrun : ∀ base, outline.Passes rest (digitRun (isDigitIn base) rest).2 :=
      fun _ => (digitRun_spec (fun _ => isFlat_of_isDigitIn) rest).1
    by_cases hb : b = 'x' ∨ b = 'o' ∨ b = 'b'
    · have hflat : outline.IsFlat b := by rcases hb with rfl | rfl | rfl <;> decide
      generalize (if b = 'x' then 16 else if b = 'o' then 8 else if b = 'b' then 2 else 0) = base
      dsimp only
      split
      · exact goes_none
      · exact goes_some
          ((passes_cons (by decide) _).trans ((passes_cons hflat rest).trans (hrun _)))
    · obtain ⟨hx, ho, hb⟩ := not_or.1 hb |>.imp_right not_or.1
      rw [if_neg hx, if_neg ho, if_neg hb]
      dsimp only
      rw [digitRun_isDigitIn_zero]
      exact goes_none
  · exact goes_none

theorem fractionPart_passes (s : List Char) : outline.Passes s (fractionPart s).2 := by
  rw [fractionPart.eq_def]
  split
  · dsimp only
    split
    · exact .refl _
    · exact (passes_cons (by decide) _).trans (digitRun_passes _)
  · exact .refl _

theorem signPart_passes (s : List Char) : outline.Passes s (signPart s).2 := by
  rw [signPart.eq_def]
  split
  · exact passes_cons (by decide) _
  · exact passes_cons (by decide) _
  · exact .refl _

theorem exponentPart_passes (s : List Char) : outline.Passes s (exponentPart s).2 := by
  cases s with
  | nil => exact .refl _
  | cons c rest =>
    rw [exponentPart.eq_def]
    dsimp only
    split
    case isFalse => exact .refl _
    case isTrue hc =>
      have hflat : outline.IsFlat c := by rcases hc with rfl | rfl <;> decide
      split
      · exact .refl _
      · exact (passes_cons hflat rest).trans ((signPart_passes rest).trans (digitRun_passes _))

/-- A word without marks and brackets is passed. -/
theorem passes_word (word : List Char) (hword : outline.special.all (!word.contains ·) = true)
    (h : s.take word.length = word) : outline.Passes s (s.drop word.length) := by
  refine passes_drop fun c hc => isFlat_of_test hword ?_
  rw [h] at hc
  exact List.contains_iff_mem.2 hc

theorem special?_passes (s : List Char) : Goes outline.Passes Prod.snd s (special? s) := by
  rw [special?]
  have hsign := signPart_passes s
  dsimp only
  split
  · exact goes_some (hsign.trans (passes_word "inf".toList (by decide) ‹_›))
  · split
    · exact goes_some (hsign.trans (passes_word "nan".toList (by decide) ‹_›))
    · exact goes_none

end Reconcile.Toml
