import Mathlib.Data.Option.Basic
import Mathlib.Order.Defs.Unbundled
import Reconcile.Toml.Scalar

/-!
# Texts of TOML end after they begin

What a reader finds ends at some place of its input, and such places compose (`Goes`).
Of a text it is enough that it ends later than it begins. Main statement:
`text?_cons_hasEnd`.
-/

namespace Reconcile.Toml

variable {α β : Type} {s t : List Char}

/-- What is found, if anything, ends at a place to which `R` leads from `s`. -/
def Goes (R : List Char → List Char → Prop) (place : α → List Char) (s : List Char)
    (found : Option α) : Prop :=
  ∀ a ∈ found, R s (place a)

section Goes

variable {R : List Char → List Char → Prop} {place : α → List Char} {place' : β → List Char}
  {found : Option α}

theorem goes_none : Goes R place s none := by
  intro a h
  cases h

theorem goes_some {a : α} (h : R s (place a)) : Goes R place s (some a) := by
  intro b hb
  obtain rfl : a = b := Option.some.inj hb
  exact h

/-- A condition takes nothing. -/
theorem goes_guard {p : Prop} [Decidable p] (h : p → Goes R place s found) :
    Goes R place s (guard p >>= fun _ => found) := by
  by_cases hp : p
  · rw [guard, if_pos hp]
    exact h hp
  · rw [guard, if_neg hp]
    exact goes_none

theorem Goes.map {g : α → β} (h : Goes R place s found)
    (hg : ∀ a, place' (g a) = place a) : Goes R place' s (found.map g) := by
  cases found with
  | none => exact goes_none
  | some a =>
    refine goes_some ?_
    rw [hg]
    exact h a rfl

variable [IsTrans (List Char) R]

theorem Goes.after (hst : R s t) (h : Goes R place t found) : Goes R place s found :=
  fun a ha => trans_of R hst (h a ha)

theorem Goes.bind {f : α → Option β} (h : Goes R place s found)
    (hf : ∀ a, Goes R place' (place a) (f a)) : Goes R place' s (found >>= f) := by
  cases found with
  | none => exact goes_none
  | some a => exact (hf a).after (h a rfl)

end Goes

/-! ## Ends -/

/-- The characters `t` are an end of `s`. -/
def HasEnd (s t : List Char) : Prop := t <:+ s

instance : IsTrans (List Char) HasEnd := ⟨fun _ _ _ h h' => List.IsSuffix.trans h' h⟩

theorem HasEnd.refl (s : List Char) : HasEnd s s := List.suffix_refl s

theorem HasEnd.trans {u : List Char} (h : HasEnd s t) (h' : HasEnd t u) : HasEnd s u :=
  List.IsSuffix.trans h' h

theorem hasEnd_cons (c : Char) (s : List Char) : HasEnd (c :: s) s := List.suffix_cons c s

theorem hasEnd_drop (n : Nat) (s : List Char) : HasEnd s (s.drop n) := List.drop_suffix n s

theorem hasEnd_dropWhile (p : Char → Bool) (s : List Char) : HasEnd s (s.dropWhile p) :=
  List.dropWhile_suffix p

theorem HasEnd.drop_eq (h : HasEnd s t) : s.drop (s.length - t.length) = t :=
  (List.suffix_iff_eq_drop.1 h).symm

/-! ## Texts -/

theorem scalar?_hasEnd (count : Nat) (s : List Char) :
    Goes HasEnd Prod.snd s (scalar? count s) := by
  rw [scalar?]
  refine goes_guard fun _ => ?_
  cases ofHexDigits? (s.take count) with
  | none => exact goes_none
  | some n => exact goes_guard fun _ => goes_some (hasEnd_drop count s)

theorem escape?_hasEnd (multiline : Bool) (s : List Char) :
    Goes HasEnd Prod.snd s (escape? multiline s) := by
  cases s with
  | nil => exact goes_none
  | cons c rest =>
    have hcons := hasEnd_cons c rest
    rw [escape?]
    split
    · exact goes_some (hcons.trans (hasEnd_dropWhile _ rest))
    · split
      · have hblanks : HasEnd rest (skipBlanks rest) := hasEnd_dropWhile _ rest
        split
        · exact goes_some List.nil_suffix
        · rename_i after hline
          rw [hline] at hblanks
          have hafter := hcons.trans (hblanks.trans (hasEnd_cons '\n' after))
          exact goes_some (hafter.trans (hasEnd_dropWhile _ after))
        · exact goes_none
      · split
        · exact ((scalar?_hasEnd 4 rest).after hcons).map fun _ => rfl
        · split
          · exact ((scalar?_hasEnd 8 rest).after hcons).map fun _ => rfl
          · intro found hfound
            obtain ⟨d, -, rfl⟩ := Option.map_eq_some_iff.1 hfound
            exact hcons

theorem basicTail_hasEnd (multiline : Bool) (fuel : Nat) (s : List Char) :
    Goes HasEnd Prod.snd s (basicTail multiline fuel s) := by
  induction fuel generalizing s with
  | zero => exact goes_none
  | succ fuel ih =>
    rw [basicTail.eq_def]
    dsimp only
    split
    · exact goes_none
    · rename_i rest
      have hcons := hasEnd_cons '"' rest
      split
      · exact goes_some hcons
      · split
        · exact goes_some (hcons.trans ((hasEnd_cons '"' _).trans (hasEnd_cons '"' _)))
        · exact ((ih rest).after hcons).map fun _ => rfl
    · rename_i rest
      refine ((escape?_hasEnd multiline rest).after (hasEnd_cons '\\' rest)).bind fun found => ?_
      exact (ih found.2).bind fun _ => goes_some (.refl _)
    · rename_i c rest _ _
      generalize (if multiline then isControlInLines c else isControl c) = control
      cases control with
      | true => exact goes_none
      | false => exact ((ih rest).after (hasEnd_cons c rest)).map fun _ => rfl

theorem literalTail_hasEnd (s : List Char) : Goes HasEnd Prod.snd s (literalTail s) := by
  rw [literalTail]
  have hdrop := hasEnd_dropWhile (· ≠ literalMark) s
  split
  · exact goes_none
  · rename_i rest hmark
    rw [hmark] at hdrop
    split
    · exact goes_none
    · exact goes_some (hdrop.trans (hasEnd_cons _ rest))

theorem literalLinesTail_hasEnd (s : List Char) :
    Goes HasEnd Prod.snd s (literalLinesTail s) := by
  induction s with
  | nil => exact goes_none
  | cons c rest ih =>
    have hcons := hasEnd_cons c rest
    rw [literalLinesTail]
    split
    · exact goes_some (hcons.trans (hasEnd_drop 2 rest))
    · split
      · exact goes_none
      · exact (ih.after hcons).map fun _ => rfl

theorem withExtraMarks_hasEnd {found : Option (List Char × List Char)}
    (h : Goes HasEnd Prod.snd s found) (mark : Char) :
    Goes HasEnd Prod.snd s (found.map (withExtraMarks mark)) := by
  intro _ ha
  obtain ⟨b, hb, rfl⟩ := Option.map_eq_some_iff.1 ha
  exact (h b hb).trans (hasEnd_drop _ b.2)

theorem skipLineEnd_hasEnd (s : List Char) : HasEnd s (skipLineEnd s) := by
  rw [skipLineEnd.eq_def]
  split
  · exact hasEnd_cons _ _
  · exact .refl s

/-- **A text ends after the mark that begins it.** -/
theorem text?_cons_hasEnd (c : Char) (s : List Char) :
    Goes HasEnd Prod.snd s (text? (c :: s)) := by
  rw [text?.eq_def]
  split
  · rename_i rest heq
    obtain ⟨-, rfl⟩ := List.cons.inj heq
    have hlines := (hasEnd_cons '"' _).trans
      ((hasEnd_cons '"' rest).trans (skipLineEnd_hasEnd rest))
    exact withExtraMarks_hasEnd ((basicTail_hasEnd true _ _).after hlines) '"'
  · rename_i rest _ heq
    obtain ⟨-, rfl⟩ := List.cons.inj heq
    exact basicTail_hasEnd false _ s
  · rename_i d rest _ _ heq
    obtain ⟨-, rfl⟩ := List.cons.inj heq
    split
    · exact goes_none
    · split
      · have hlines := (hasEnd_drop 2 s).trans (skipLineEnd_hasEnd _)
        exact withExtraMarks_hasEnd ((literalLinesTail_hasEnd _).after hlines) literalMark
      · exact literalTail_hasEnd s
  · rename_i heq
    cases heq

end Reconcile.Toml
