import Mathlib.Data.List.TakeWhile
import Reconcile.Document.Numeral

/-!
# What of a text stops its reader

A reader of documents can be stopped by a row of digits that is too long and by lists and
tables that stand in one another too deep. Both can be seen in the text without its
quoted parts and comments, its outline. A reader passes from one place to another if as
many brackets are open there (`Outline.Passes`); it runs from a place if it passes to the
next, or stops where the text exceeds what it has room for (`Outline.Runs`). Runs compose
(`Outline.Runs.bind`), and each pair of brackets takes its part of the room
(`Outline.Runs.enclose`).
-/

namespace Reconcile

/-- How the texts of a notation are seen by what can stop their reader. -/
structure Outline where
  /-- A text without the parts that do not count, where each mark that begins one stays. -/
  bare : List Char → List Char
  /-- Whether a part that does not count begins with the character. -/
  isMark : Char → Bool
  /-- The room that an opening bracket takes, and nothing for other characters. -/
  opens : Char → Nat
  /-- The room that a closing bracket gives back. -/
  closes : Char → Nat
  /-- Whether the character may stand in a row of digits. -/
  isNumeral : Char → Bool
  /-- The marks and brackets. -/
  special : List Char
  bare_cons : ∀ {c : Char}, isMark c = false → ∀ s, bare (c :: s) = c :: bare s
  eq_of_not_special : ∀ {c : Char}, c ∉ special → isMark c = false ∧ opens c = 0 ∧ closes c = 0

/-- What stops a reader, a broken rule apart. -/
inductive Excess
  | long
  | deep

namespace Outline

variable (o : Outline)

/-- The most room that is taken at one place of a text, where `depth` is taken at its
start. -/
def deepest : (depth : Nat) → List Char → Nat
  | depth, [] => depth
  | depth, c :: s => max depth (deepest (depth + o.opens c - o.closes c) s)

/-- A text in which nothing is too long or too deep for a reader with `room`. -/
structure Within (room : Nat) (s : List Char) : Prop where
  shallow : o.deepest 0 (o.bare s) ≤ room
  short : ∀ t, t <:+ o.bare s → (t.takeWhile o.isNumeral).length ≤ maxIntegerDigits

/-- What is in a text that stops its reader with `room` left. -/
def Exceeds (room : Nat) (s : List Char) : Excess → Prop
  | .long => ∃ t, t <:+ o.bare s ∧ maxIntegerDigits < (t.takeWhile o.isNumeral).length
  | .deep => ∀ depth, depth + room < o.deepest depth (o.bare s)

/-- The room that is taken before `pre` is taken after it. -/
def Level (pre : List Char) : Prop := ∀ depth s, o.deepest depth s ≤ o.deepest depth (pre ++ s)

/-- The reader gets from `s` to `rest`, and closes what it opens. -/
def Passes (s rest : List Char) : Prop := ∃ pre, o.bare s = pre ++ o.bare rest ∧ o.Level pre

/-- A character that begins no part that does not count, and is no bracket. -/
structure IsFlat (c : Char) : Prop where
  not_mark : o.isMark c = false
  opens_eq : o.opens c = 0
  closes_eq : o.closes c = 0

/-- A bracket that takes its part of the room and gives nothing back. -/
structure IsOpening (c : Char) : Prop where
  not_mark : o.isMark c = false
  closes_eq : o.closes c = 0

/-- The bracket that gives back what `c` takes. -/
structure IsClosing (c d : Char) : Prop where
  not_mark : o.isMark d = false
  opens_eq : o.opens d = 0
  closes_eq : o.closes d = o.opens c

variable {o}

theorem isFlat_iff {c : Char} :
    o.IsFlat c ↔ o.isMark c = false ∧ o.opens c = 0 ∧ o.closes c = 0 :=
  ⟨fun h => ⟨h.not_mark, h.opens_eq, h.closes_eq⟩, fun h => ⟨h.1, h.2.1, h.2.2⟩⟩

instance (c : Char) : Decidable (o.IsFlat c) := decidable_of_iff _ isFlat_iff.symm

/-- No character of a class without marks and brackets is one. -/
theorem isFlat_of_test {p : Char → Bool} (hp : o.special.all (!p ·) = true) {c : Char}
    (hc : p c = true) : o.IsFlat c := by
  refine isFlat_iff.2 (o.eq_of_not_special fun hmem => ?_)
  have hnot := List.all_eq_true.1 hp c hmem
  rw [hc] at hnot
  cases hnot

theorem le_deepest (depth : Nat) (s : List Char) : depth ≤ o.deepest depth s := by
  cases s with
  | nil => exact Nat.le_refl depth
  | cons c s => exact Nat.le_max_left _ _

theorem Within.not_exceeds {room : Nat} {s : List Char} (h : o.Within room s) (e : Excess) :
    ¬o.Exceeds room s e := by
  cases e with
  | long =>
    rintro ⟨t, ht, hlong⟩
    exact absurd (h.short t ht) (Nat.not_le.2 hlong)
  | deep =>
    intro hdeep
    have hdepth := hdeep 0
    rw [Nat.zero_add] at hdepth
    exact absurd h.shallow (Nat.not_le.2 hdepth)

/-! ## Parts that close what they open -/

section Level

variable {c d : Char} {pre mid : List Char}

theorem level_nil : o.Level [] := fun _ _ => Nat.le_refl _

theorem Level.append (h : o.Level pre) (h' : o.Level mid) : o.Level (pre ++ mid) := by
  intro depth s
  rw [List.append_assoc]
  exact Nat.le_trans (h' depth s) (h depth (mid ++ s))

theorem level_singleton (hopens : o.opens c = 0) (hcloses : o.closes c = 0) : o.Level [c] := by
  intro depth s
  rw [List.singleton_append, deepest, hopens, hcloses]
  exact Nat.le_max_right _ _

/-- An opening bracket takes its part from what follows it. -/
theorem deepest_cons_of_isOpening (hc : o.IsOpening c) (depth : Nat) (s : List Char) :
    o.deepest (depth + o.opens c) s ≤ o.deepest depth (c :: s) := by
  rw [deepest, hc.closes_eq]
  exact Nat.le_max_right _ _

theorem Level.enclose (hc : o.IsOpening c) (hd : o.IsClosing c d) (h : o.Level pre) :
    o.Level (c :: (pre ++ [d])) := by
  intro depth s
  -- at `d` there is taken what `c` takes, and after it no more than before `c`
  have hclosed : o.deepest depth s ≤ o.deepest (depth + o.opens c) (d :: s) := by
    rw [deepest, hd.opens_eq, hd.closes_eq, Nat.add_zero, Nat.add_sub_cancel]
    exact Nat.le_max_right _ _
  rw [List.cons_append, List.append_assoc, List.singleton_append]
  calc o.deepest depth s
    _ ≤ o.deepest (depth + o.opens c) (d :: s) := hclosed
    _ ≤ o.deepest (depth + o.opens c) (pre ++ d :: s) := h _ _
    _ ≤ o.deepest depth (c :: (pre ++ d :: s)) := deepest_cons_of_isOpening hc _ _

end Level

/-! ## From one place to another -/

variable {s t rest : List Char}

theorem Passes.refl (s : List Char) : o.Passes s s := ⟨[], rfl, level_nil⟩

theorem Passes.trans (h : o.Passes s t) (h' : o.Passes t rest) : o.Passes s rest := by
  obtain ⟨pre, hs, hpre⟩ := h
  obtain ⟨mid, ht, hmid⟩ := h'
  exact ⟨pre ++ mid, by rw [hs, ht, List.append_assoc], hpre.append hmid⟩

theorem passes_cons {c : Char} (h : o.IsFlat c) (s : List Char) : o.Passes (c :: s) s :=
  ⟨[c], o.bare_cons h.not_mark s, level_singleton h.opens_eq h.closes_eq⟩

theorem passes_append {pre : List Char} (h : ∀ c ∈ pre, o.IsFlat c) (rest : List Char) :
    o.Passes (pre ++ rest) rest := by
  induction pre with
  | nil => exact .refl rest
  | cons c pre ih =>
    obtain ⟨hc, hpre⟩ := List.forall_mem_cons.1 h
    exact (passes_cons hc _).trans (ih hpre)

theorem passes_drop {n : Nat} (h : ∀ c ∈ s.take n, o.IsFlat c) : o.Passes s (s.drop n) := by
  have hpasses := passes_append h (s.drop n)
  rwa [List.take_append_drop] at hpasses

theorem passes_dropWhile {p : Char → Bool} (hp : o.special.all (!p ·) = true) (s : List Char) :
    o.Passes s (s.dropWhile p) := by
  have hpre : ∀ c ∈ s.takeWhile p, o.IsFlat c :=
    fun c hc => isFlat_of_test hp (List.mem_takeWhile_imp hc)
  have hpasses := passes_append hpre (s.dropWhile p)
  rwa [List.takeWhile_append_dropWhile] at hpasses

/-- What stands between two brackets that belong together is passed with them. -/
theorem Passes.enclose {c d : Char} (hc : o.IsOpening c) (hd : o.IsClosing c d)
    (h : o.Passes s (d :: rest)) : o.Passes (c :: s) rest := by
  obtain ⟨pre, hs, hpre⟩ := h
  refine ⟨c :: (pre ++ [d]), ?_, hpre.enclose hc hd⟩
  rw [o.bare_cons hc.not_mark, hs, o.bare_cons hd.not_mark, List.cons_append, List.append_assoc,
    List.singleton_append]

/-- A row of digits stays whole in the outline. -/
theorem length_takeWhile_le_bare (h : ∀ c, o.isNumeral c = true → o.isMark c = false)
    (s : List Char) :
    (s.takeWhile o.isNumeral).length ≤ ((o.bare s).takeWhile o.isNumeral).length := by
  induction s with
  | nil => exact Nat.zero_le _
  | cons c s ih =>
    by_cases hc : o.isNumeral c = true
    · rw [o.bare_cons (h c hc), List.takeWhile_cons_of_pos hc, List.takeWhile_cons_of_pos hc]
      exact Nat.succ_le_succ ih
    · rw [List.takeWhile_cons_of_neg hc]
      exact Nat.zero_le _

/-! ## Where a reader stops -/

variable {room : Nat} {e : Excess}

theorem Exceeds.of_passes (hpasses : o.Passes s t) (h : o.Exceeds room t e) :
    o.Exceeds room s e := by
  obtain ⟨pre, hs, hpre⟩ := hpasses
  cases e with
  | long =>
    obtain ⟨u, hu, hlong⟩ := h
    exact ⟨u, hs ▸ hu.trans (List.suffix_append pre _), hlong⟩
  | deep =>
    intro depth
    rw [hs]
    exact Nat.lt_of_lt_of_le (h depth) (hpre depth _)

/-- A bracket takes its part of the room. -/
theorem Exceeds.enclose {c : Char} (hc : o.IsOpening c) (h : o.Exceeds room s e) :
    o.Exceeds (room + o.opens c) (c :: s) e := by
  cases e with
  | long =>
    obtain ⟨u, hu, hlong⟩ := h
    refine ⟨u, ?_, hlong⟩
    rw [o.bare_cons hc.not_mark]
    exact hu.trans (List.suffix_cons c _)
  | deep =>
    intro depth
    have hinner := h (depth + o.opens c)
    have hbracket := deepest_cons_of_isOpening hc depth (o.bare s)
    rw [o.bare_cons hc.not_mark]
    omega

/-- A bracket that there is no room for. -/
theorem exceeds_of_lt_opens {c : Char} (hc : o.IsOpening c) (h : room < o.opens c)
    (s : List Char) : o.Exceeds room (c :: s) .deep := by
  intro depth
  have hbracket := deepest_cons_of_isOpening hc depth (o.bare s)
  have hle := le_deepest (o := o) (depth + o.opens c) (o.bare s)
  rw [o.bare_cons hc.not_mark]
  omega

theorem exceeds_of_long (h : ∀ c, o.isNumeral c = true → o.isMark c = false)
    (hlong : maxIntegerDigits < (s.takeWhile o.isNumeral).length) (room : Nat) :
    o.Exceeds room s .long :=
  ⟨o.bare s, List.suffix_refl _, Nat.lt_of_lt_of_le hlong (length_takeWhile_le_bare h s)⟩

/-! ## What a reader does -/

section Runs

variable {α β ε : Type} {excess? : ε → Option Excess} {place : α → List Char}
  {place' : β → List Char} {x : Except ε α}

/-- The reader passes from `s` to the place where it ends, or stops on the way; `excess?`
tells which errors do not come from a broken rule. -/
def Runs (o : Outline) (excess? : ε → Option Excess) (place : α → List Char) (room : Nat)
    (s : List Char) : Except ε α → Prop
  | .ok a => o.Passes s (place a)
  | .error stop => ∀ e ∈ excess? stop, o.Exceeds room s e

/-- An error that comes from a broken rule. -/
theorem runs_error {stop : ε} (h : excess? stop = none) :
    o.Runs excess? place room s (.error stop) := by
  intro e he
  rw [h] at he
  cases he

theorem Runs.of_passes (hpasses : o.Passes s t) (h : o.Runs excess? place room t x) :
    o.Runs excess? place room s x := by
  cases x with
  | ok a => exact hpasses.trans h
  | error stop => exact fun e he => (h e he).of_passes hpasses

theorem Runs.bind {f : α → Except ε β} (hx : o.Runs excess? place room s x)
    (hf : ∀ a, o.Runs excess? place' room (place a) (f a)) :
    o.Runs excess? place' room s (x >>= f) := by
  cases x with
  | ok a => exact (hf a).of_passes hx
  | error stop => exact hx

/-- What stops a reader after another is in the text that the other began with. -/
theorem Runs.exceeds_of_bind {f : α → Except ε β} {stop : ε}
    (hx : o.Runs excess? place room s x) (h : x >>= f = .error stop)
    (hf : ∀ a, f a = .error stop → ∀ e ∈ excess? stop, o.Exceeds room (place a) e) :
    ∀ e ∈ excess? stop, o.Exceeds room s e := by
  cases x with
  | ok a => exact fun e he => (hf a h e he).of_passes hx
  | error stop' =>
    obtain rfl : stop' = stop := Except.error.inj h
    exact hx

/-- What is read, up to a closing bracket, with the room that an opening one leaves. -/
theorem Runs.enclose {c d : Char} (hc : o.IsOpening c) (hd : o.IsClosing c d)
    (h : o.Runs excess? (fun a => d :: place a) room s x) :
    o.Runs excess? place (room + o.opens c) (c :: s) x := by
  cases x with
  | ok a => exact Passes.enclose hc hd h
  | error stop => exact fun e he => (h e he).enclose hc

/-- A text within its limits is read, or breaks a rule. -/
theorem Runs.excess?_eq_none {stop : ε} (h : o.Runs excess? place room s (.error stop))
    (hs : o.Within room s) : excess? stop = none := by
  cases he : excess? stop with
  | none => rfl
  | some e => exact absurd (h e he) (hs.not_exceeds e)

end Runs

end Outline

end Reconcile
