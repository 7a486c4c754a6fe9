import Reconcile.Proofs.Toml.Outline
import Reconcile.Toml.Reader

/-!
# What stops the reader of TOML

Besides a broken rule, reading stops at a whole number that is too long and at values
that are nested too deep, and both are in the outline of the document. Each reader either
passes to the place where it ends, or stops at such an excess (`Runs`); one lemma for
each form of value says so, with the room that its brackets leave. Main statement:
`eq_malformed_of_read`.
-/

namespace Reconcile.Toml

open Outline (exceeds_of_long exceeds_of_lt_opens passes_cons runs_error)

/-- What stops the reader, a broken rule apart. -/
def Stop.excess? : Stop → Option Excess
  | .malformed => none
  | .longInteger _ => some .long
  | .tooDeep => some .deep

variable {α β : Type} {s t : List Char} {room : Nat}

/-- The reader passes from `s` to the place where it ends, or stops on the way. -/
abbrev Runs (place : α → List Char) (room : Nat) (s : List Char) (found : Except Stop α) : Prop :=
  outline.Runs Stop.excess? place room s found

section Runs

variable {place : α → List Char}

theorem runs_refuse : Runs place room s refuse := runs_error rfl

theorem runs_orRefuse {found : Option α} (h : Goes outline.Passes place s found) :
    Runs place room s (orRefuse found) := by
  cases found with
  | none => exact runs_refuse
  | some a => exact h a rfl

/-- Something that reads nothing goes first. -/
theorem runs_after_orRefuse {found : Option β} {f : β → Except Stop α}
    (hf : ∀ b, Runs place room s (f b)) : Runs place room s (orRefuse found >>= f) := by
  cases found with
  | none => exact runs_refuse
  | some b => exact hf b

/-- Whatever goes on after a key must refuse to go on at a quote. -/
theorem runs_key_bind {f : Key × List Char → Except Stop α}
    (hstuck : ∀ k, IsStuck k.2 → f k = refuse) (hf : ∀ k, Runs place room k.2 (f k)) :
    Runs place room s (key s >>= f) := by
  rw [key]
  cases hparts : keyParts? (s.length + 1) s with
  | none => exact runs_refuse
  | some k =>
    show Runs place room s (f k)
    rcases passes_keyParts? _ s k hparts with hk | hk
    · rw [hstuck k hk]
      exact runs_refuse
    · exact (hf k).of_passes hk

/-- What is read between two brackets has the room that they leave. -/
theorem runs_roomWithin {c d : Char} {nest : Nest} {f : Nat → Except Stop α}
    (hc : outline.IsOpening c) (hd : outline.IsClosing c d)
    (hsize : outline.opens c = nest.tomlSize)
    (hf : ∀ inner, Runs (fun a => d :: place a) inner s (f inner)) :
    Runs place room (c :: s) (roomWithin room nest >>= f) := by
  rw [roomWithin, ← hsize]
  split
  · rintro _ ⟨⟩
    exact exceeds_of_lt_opens hc ‹_› s
  · have henclosed := (hf (room - outline.opens c)).enclose hc hd
    rw [Nat.sub_add_cancel (Nat.not_lt.1 ‹_›)] at henclosed
    exact henclosed

end Runs

/-! ## Scalars -/

theorem runs_skipComment (s : List Char) : Runs id room s (skipComment s) := by
  rw [skipComment.eq_def]
  split
  · rename_i rest
    split
    · exact runs_refuse
    · exact passes_comment rest
  · exact Outline.Passes.refl s

theorem runs_skipFiller (s : List Char) : Runs id room s (skipFiller s) := by
  suffices h : ∀ fuel s, Runs id room s (skipSpaceAndComments fuel s) from h _ s
  intro fuel
  induction fuel with
  | zero => exact fun s => Outline.Passes.refl s
  | succ fuel ih =>
    intro s
    rw [skipSpaceAndComments]
    have hspace := passes_skipSpace s
    split
    · rename_i rest hmark
      rw [hmark] at hspace
      exact .of_passes hspace ((runs_skipComment _).bind fun rest => ih rest)
    · exact hspace

theorem runs_afterEquals (s : List Char) : Runs id room s (afterEquals s) := by
  rw [afterEquals.eq_def]
  split
  · rename_i rest
    exact (passes_cons (by decide) rest).trans (passes_skipBlanks rest)
  · exact runs_refuse

theorem afterEquals_of_isStuck (h : IsStuck s) : afterEquals s = refuse := by
  obtain ⟨c, hc, hquote⟩ := h
  rw [afterEquals.eq_def]
  split
  · obtain rfl := Option.some.inj hc
    exact absurd hquote (by decide)
  · rfl

theorem runs_moment? {found : Except Stop (MomentKind × List Char)} (h : moment? s = some found) :
    Runs Prod.snd room s found := by
  rw [moment?] at h
  split at h
  · rename_i d rest hdate
    have hrest : outline.Passes s rest := date?_passes s (d, rest) hdate
    split at h
    · obtain rfl := Option.some.inj h
      exact runs_refuse
    · dsimp only at h
      split at h
      · rename_i after hclock
        obtain rfl := Option.some.inj h
        have hafter : outline.Passes rest after := by
          split at hclock
          · rename_i c clock
            split at hclock
            case isTrue hmark =>
              have hflat : outline.IsFlat c := by rcases hmark with rfl | rfl | rfl <;> decide
              exact (passes_cons hflat clock).trans (afterTime?_passes clock after hclock)
            case isFalse => cases hclock
          · cases hclock
        exact (hrest.trans hafter).trans (afterOffset_passes after)
      · obtain rfl := Option.some.inj h
        exact hrest
  · obtain ⟨rest, hrest, rfl⟩ := Option.map_eq_some_iff.1 h
    exact afterTime?_passes s rest hrest

/-- The digits of a whole part, and what follows them. -/
def wholePart (s : List Char) : List Char × List Char :=
  match s with
  | '0' :: rest => (['0'], rest)
  | _ => digitRun Char.isDigit s

/-- A number in decimal after its sign, from the digits of its whole part on. -/
def decimalFrom (negative : Bool) (whole : List Char × List Char) :
    Option (Except Stop (Value × List Char)) :=
  if whole.1.isEmpty then none
  else
    let fraction := fractionPart whole.2
    let exponent := exponentPart fraction.2
    if fraction.1.isEmpty && exponent.1.isNone then
      if maxIntegerDigits < whole.1.length then some (.error (.longInteger whole.1.length))
      else
        let n : Int := ofDigits whole.1
        some (.ok (.int (if negative then -n else n), exponent.2))
    else
      let x := Binary64.ofDecimal negative (ofDigits (whole.1 ++ fraction.1))
        (exponent.1.getD 0 - fraction.1.length)
      some (.ok (.float x, exponent.2))

theorem decimal?_eq (s : List Char) :
    decimal? s = decimalFrom (signPart s).1 (wholePart (signPart s).2) := rfl

theorem wholePart_spec (s : List Char) :
    outline.Passes s (wholePart s).2 ∧
      (wholePart s).1.length ≤ (s.takeWhile isNumeral).length := by
  rw [wholePart.eq_def]
  split
  · rename_i rest
    refine ⟨passes_cons (by decide) rest, ?_⟩
    rw [List.takeWhile_cons_of_pos rfl]
    exact Nat.le_add_left 1 _
  · exact digitRun_spec (fun _ => isFlat_of_isDigit) s

theorem runs_decimal? {found : Except Stop (Value × List Char)} (h : decimal? s = some found) :
    Runs Prod.snd room s found := by
  have hunsigned := signPart_passes s
  obtain ⟨hwhole, hrow⟩ := wholePart_spec (signPart s).2
  have hrest := (hunsigned.trans hwhole).trans
    ((fractionPart_passes _).trans (exponentPart_passes _))
  rw [decimal?_eq, decimalFrom] at h
  split at h
  · cases h
  · dsimp only at h
    split at h
    · split at h
      · obtain rfl := Option.some.inj h
        rintro _ ⟨⟩
        have hnumeral : ∀ c, isNumeral c = true → outline.isMark c = false :=
          fun c hc => (Outline.isFlat_of_test (o := outline) (by decide) hc).not_mark
        exact (exceeds_of_long hnumeral (Nat.lt_of_lt_of_le ‹_› hrow) room).of_passes hunsigned
      · obtain rfl := Option.some.inj h
        exact hrest
    · obtain rfl := Option.some.inj h
      exact hrest

theorem runs_unquoted (s : List Char) : Runs Prod.snd room s (unquoted s) := by
  rw [unquoted]
  split
  · rename_i found hmoment
    exact (runs_moment? hmoment).bind fun _ => Outline.Passes.refl _
  · split
    · rename_i n rest hbase
      exact withBase?_passes s (n, rest) hbase
    · split
      · exact runs_decimal? ‹_›
      · exact runs_orRefuse (special?_passes s)

/-! ## Values -/

section Step

variable {fuel : Nat}

theorem runs_value_succ
    (hitems : ∀ room s, Runs (fun found => ']' :: found.2) room s (items fuel room s))
    (hfields : ∀ room closed table s,
      Runs (fun found => '\x7d' :: found.2) room s (inlineFields fuel room closed table s))
    (room : Nat) (s : List Char) : Runs Prod.snd room s (value (fuel + 1) room s) := by
  rw [value.eq_def]
  dsimp only
  split
  · exact runs_refuse
  · rename_i c rest
    split
    case isTrue hquote =>
      have hquote : isQuote c = true := by simpa only [isQuote, Bool.or_eq_true, decide_eq_true_iff]
      refine (runs_orRefuse ?_).bind fun _ => Outline.Passes.refl _
      exact fun found hfound => passes_text hquote hfound
    split
    · subst c
      refine runs_roomWithin isOpening_bracket isClosing_bracket rfl fun inner => ?_
      refine (runs_skipFiller rest).bind fun after => ?_
      exact (hitems inner after).bind fun _ => Outline.Passes.refl _
    split
    · subst c
      refine runs_roomWithin isOpening_brace isClosing_brace rfl fun inner => ?_
      refine .of_passes (passes_skipBlanks rest) ?_
      split
      · rw [‹skipBlanks rest = _›]
        exact Outline.Passes.refl _
      · exact (hfields inner [] [] _).bind fun _ => Outline.Passes.refl _
    split
    · exact passes_word "true".toList (by decide) ‹_›
    split
    · exact passes_word "false".toList (by decide) ‹_›
    · exact runs_unquoted _

theorem runs_items_succ (hvalue : ∀ room s, Runs Prod.snd room s (value fuel room s))
    (hitems : ∀ room s, Runs (fun found => ']' :: found.2) room s (items fuel room s))
    (room : Nat) (s : List Char) :
    Runs (fun found => ']' :: found.2) room s (items (fuel + 1) room s) := by
  rw [items.eq_def]
  dsimp only
  split
  · exact Outline.Passes.refl _
  · refine (hvalue room s).bind fun found => (runs_skipFiller found.2).bind fun after => ?_
    split
    · exact Outline.Passes.refl _
    · rename_i rest
      refine .of_passes (passes_cons (by decide) rest) ((runs_skipFiller rest).bind fun after => ?_)
      exact (hitems room after).bind fun _ => Outline.Passes.refl _
    · exact runs_refuse

theorem runs_inlineFields_succ (hvalue : ∀ room s, Runs Prod.snd room s (value fuel room s))
    (hfields : ∀ room closed table s,
      Runs (fun found => '\x7d' :: found.2) room s (inlineFields fuel room closed table s))
    (room : Nat) (closed : List Key) (table : Fields) (s : List Char) :
    Runs (fun found => '\x7d' :: found.2) room s
      (inlineFields (fuel + 1) room closed table s) := by
  rw [inlineFields]
  refine runs_key_bind (fun k hk => ?_) fun k => ?_
  · dsimp only
    rw [afterEquals_of_isStuck hk]
    rfl
  refine (runs_afterEquals k.2).bind fun after => (hvalue room after).bind fun v => ?_
  dsimp only
  split
  · exact runs_refuse
  · refine runs_after_orRefuse fun table => .of_passes (passes_skipBlanks v.2) ?_
    split
    · rw [‹skipBlanks v.2 = _›]
      exact Outline.Passes.refl _
    · rename_i rest hcomma
      rw [hcomma]
      refine .of_passes ((passes_cons (by decide) rest).trans (passes_skipBlanks rest)) ?_
      exact hfields room _ table _
    · exact runs_refuse

end Step

/-- **Each reader of values passes to where it ends, or stops at an excess**, by induction
on the fuel. -/
theorem runs_upTo (fuel : Nat) :
    (∀ room s, Runs Prod.snd room s (value fuel room s)) ∧
    (∀ room s, Runs (fun found => ']' :: found.2) room s (items fuel room s)) ∧
    ∀ room closed table s,
      Runs (fun found => '\x7d' :: found.2) room s (inlineFields fuel room closed table s) := by
  induction fuel with
  | zero => exact ⟨fun _ _ => runs_refuse, fun _ _ => runs_refuse, fun _ _ _ _ => runs_refuse⟩
  | succ fuel ih =>
    obtain ⟨hvalue, hitems, hfields⟩ := ih
    exact ⟨runs_value_succ hitems hfields, runs_items_succ hvalue hitems,
      runs_inlineFields_succ hvalue hfields⟩

/-! ## Statements -/

/-- What changes the table of a document reads nothing. -/
theorem runs_addField (d : Document) (k : Key) (v : Value) :
    Runs (fun _ => s) room s (d.addField k v) := by
  rw [Document.addField]
  dsimp only
  split
  · exact runs_refuse
  · exact runs_after_orRefuse fun _ => Outline.Passes.refl s

theorem runs_beginTable (d : Document) (k : Key) :
    Runs (fun _ => s) room s (d.beginTable k) := by
  rw [Document.beginTable]
  dsimp only
  split
  · exact runs_refuse
  · exact runs_after_orRefuse fun _ => Outline.Passes.refl s

theorem runs_beginItem (d : Document) (k : Key) :
    Runs (fun _ => s) room s (d.beginItem k) := by
  rw [Document.beginItem]
  dsimp only
  split
  · exact runs_refuse
  · exact runs_after_orRefuse fun _ => Outline.Passes.refl s

/-- The key of a header is followed by the brackets that close it. -/
theorem runs_headerKey {c : Char} (hc : isQuote c = false) (closing s : List Char) :
    Runs (fun found => c :: closing ++ found.2) room s (headerKey (c :: closing) s) := by
  rw [headerKey]
  refine .of_passes (passes_skipBlanks s) (runs_key_bind (fun k hk => ?_) fun k => ?_)
  · obtain ⟨d, hd, hquote⟩ := hk
    have hne : k.2.take (c :: closing).length ≠ c :: closing := by
      intro heq
      cases hrest : k.2 with
      | nil =>
        rw [hrest] at hd
        cases hd
      | cons e rest =>
        rw [hrest] at hd heq
        obtain rfl : e = d := Option.some.inj hd
        obtain rfl : e = c := (List.cons.inj heq).1
        rw [hc] at hquote
        cases hquote
    exact if_neg hne
  · dsimp only
    split
    · rename_i hclosing
      have happend := List.take_append_drop (c :: closing).length k.2
      rw [hclosing] at happend
      show outline.Passes k.2 (c :: closing ++ k.2.drop (c :: closing).length)
      rw [happend]
      exact .refl _
    · exact runs_refuse

/-- One header: what it opens, it closes. -/
theorem runs_header (hroom : 4 ≤ room) (d : Document) (s : List Char) :
    Runs Prod.snd room ('[' :: s) (do
      let (k, rest) ← headerKey [']'] s
      return (← d.beginTable k, rest)) := by
  have hopens : outline.opens '[' = 2 := rfl
  obtain ⟨inner, rfl⟩ : ∃ inner, room = inner + outline.opens '[' := ⟨room - 2, by omega⟩
  refine Outline.Runs.enclose isOpening_bracket isClosing_bracket ?_
  refine (runs_headerKey (c := ']') rfl [] s).bind fun k => ?_
  exact (runs_beginTable d k.1).bind fun _ => Outline.Passes.refl _

theorem runs_itemHeader (hroom : 4 ≤ room) (d : Document) (s : List Char) :
    Runs Prod.snd room ('[' :: '[' :: s) (do
      let (k, rest) ← headerKey [']', ']'] s
      return (← d.beginItem k, rest)) := by
  have hopens : outline.opens '[' = 2 := rfl
  obtain ⟨inner, rfl⟩ : ∃ inner, room = inner + outline.opens '[' + outline.opens '[' :=
    ⟨room - 4, by omega⟩
  refine Outline.Runs.enclose isOpening_bracket isClosing_bracket ?_
  refine Outline.Runs.enclose isOpening_bracket isClosing_bracket ?_
  refine (runs_headerKey (c := ']') rfl [']'] s).bind fun k => ?_
  exact (runs_beginItem d k.1).bind fun _ => Outline.Passes.refl _

theorem runs_statement (hroom : 4 ≤ room) (d : Document) (s : List Char) :
    Runs Prod.snd room s (statement room d s) := by
  rw [statement.eq_def]
  split
  · exact Outline.Passes.refl _
  · rename_i c rest
    split
    · exact Outline.Passes.refl _
    split
    · refine runs_key_bind (fun k hk => ?_) fun k => ?_
      · dsimp only
        rw [afterEquals_of_isStuck hk]
        rfl
      refine (runs_afterEquals k.2).bind fun after => ?_
      refine ((runs_upTo _).1 room after).bind fun v => ?_
      exact (runs_addField d k.1 v.1).bind fun _ => Outline.Passes.refl _
    split
    · subst c
      split
      · exact runs_itemHeader hroom d _
      · exact runs_header hroom d rest
    · exact runs_refuse

/-- An error that a statement or a later one stops at is in the document from there on. -/
theorem exceeds_of_statements (hroom : 4 ≤ room) {fuel : Nat} {d : Document} {s : List Char}
    {stop : Stop} (h : statements room fuel d s = .error stop) :
    ∀ e ∈ stop.excess?, outline.Exceeds room s e := by
  -- where the document ends is not followed, since without fuel it is any place
  induction fuel generalizing d s with
  | zero => cases h
  | succ fuel ih =>
    rw [statements] at h
    refine fun e he => .of_passes (passes_skipBlanks s) ?_
    refine (runs_statement hroom d _).exceeds_of_bind h (fun found h => ?_) e he
    refine fun e he => .of_passes (passes_skipBlanks found.2) ?_
    refine (runs_skipComment _).exceeds_of_bind h (fun after h => ?_) e he
    split at h
    · cases h
    · rename_i rest
      exact fun e he => (ih h e he).of_passes (passes_cons (by decide) rest)
    · cases h
      rintro _ ⟨⟩

/-- **A document within the limits is read, or breaks a rule.** The brackets of a header
count in the outline as well. -/
theorem eq_malformed_of_read {stop : Stop} (hroom : 4 ≤ room) (h : outline.Within room s)
    (hstop : read room s = .error stop) : stop = .malformed := by
  have hexceeds : ∀ e ∈ stop.excess?, outline.Exceeds room s e := by
    rw [read] at hstop
    cases hread : statements room (s.length + 1) {} s with
    | ok d =>
      rw [hread] at hstop
      cases hstop
    | error e =>
      rw [hread] at hstop
      cases hstop
      exact exceeds_of_statements hroom hread
  cases stop with
  | malformed => rfl
  | longInteger n => exact absurd (hexceeds _ rfl) (h.not_exceeds _)
  | tooDeep => exact absurd (hexceeds _ rfl) (h.not_exceeds _)

/-- Brackets in a text or a comment do not count. -/
example : outline.Within 2 "x = [1_000, \"[[[\"] # [[[".toList :=
  ⟨by decide, fun _ ht =>
    (List.takeWhile_prefix _).length_le.trans (ht.length_le.trans (by decide))⟩

/-! ## A number that is too long -/

/-- A row of digits ends before a character that is neither a digit nor an underscore. -/
theorem digitRun_append {isDigit : Char → Bool} {ds rest : List Char} {c : Char}
    (hds : ∀ d ∈ ds, isDigit d = true ∧ d ≠ '_') (hc : isDigit c = false) (hmark : c ≠ '_') :
    digitRun isDigit (ds ++ c :: rest) = (ds, c :: rest) := by
  induction ds with
  | nil =>
    rw [List.nil_append, digitRun.eq_def]
    dsimp only
    rw [hc]
    rfl
  | cons d ds ih =>
    obtain ⟨⟨hd, -⟩, hds⟩ := List.forall_mem_cons.1 hds
    have hnext : ∀ e t, ds ++ c :: rest ≠ '_' :: e :: t := by
      intro e t heq
      cases ds with
      | nil => exact hmark (List.cons.inj heq).1
      | cons d' ds => exact (hds d' List.mem_cons_self).2 (List.cons.inj heq).1
    rw [List.cons_append, digitRun, ih hds, if_pos hd]
    exact hnext

theorem unquoted_of_long {n : Nat} (h : maxIntegerDigits < n) :
    unquoted (List.replicate n '1' ++ ['\n']) = .error (.longInteger n) := by
  have hones : ∀ d ∈ List.replicate n '1', d.isDigit = true ∧ d ≠ '_' := by
    intro d hd
    rw [List.eq_of_mem_replicate hd]
    decide
  have hrun : digitRun Char.isDigit (List.replicate n '1' ++ ['\n']) =
      (List.replicate n '1', ['\n']) := digitRun_append hones rfl (by decide)
  obtain ⟨m, rfl⟩ : ∃ m, n = m + 5 := ⟨n - 5, by simp only [maxIntegerDigits] at h; omega⟩
  have hwhole : wholePart (List.replicate (m + 5) '1' ++ ['\n']) =
      (List.replicate (m + 5) '1', ['\n']) := hrun
  have hdecimal : decimal? (List.replicate (m + 5) '1' ++ ['\n']) =
      some (.error (.longInteger (m + 5))) := by
    rw [decimal?_eq]
    have hsign : signPart (List.replicate (m + 5) '1' ++ ['\n']) =
        (false, List.replicate (m + 5) '1' ++ ['\n']) := rfl
    have hfrom : decimalFrom false (List.replicate (m + 5) '1', ['\n']) =
        if maxIntegerDigits < (List.replicate (m + 5) '1').length then
          some (.error (.longInteger (List.replicate (m + 5) '1').length))
        else some (.ok (.int (ofDigits (List.replicate (m + 5) '1')), ['\n'])) := rfl
    rw [hsign, hwhole, hfrom, List.length_replicate, if_pos h]
  rw [unquoted, hdecimal]
  rfl

/-- The statement `x = 11…1`. -/
theorem read_of_long {n : Nat} (h : maxIntegerDigits < n) (room : Nat) :
    read room ('x' :: ' ' :: '=' :: ' ' :: (List.replicate n '1' ++ ['\n'])) =
      .error (.longInteger n) := by
  have hlong := unquoted_of_long h
  obtain ⟨m, rfl⟩ : ∃ m, n = m + 5 := ⟨n - 5, by simp only [maxIntegerDigits] at h; omega⟩
  have hstatement :
      statement room {} ('x' :: ' ' :: '=' :: ' ' :: (List.replicate (m + 5) '1' ++ ['\n'])) =
        unquoted (List.replicate (m + 5) '1' ++ ['\n']) >>= fun found => do
          return (← Document.addField {} ["x"] found.1, found.2) := rfl
  have hskip : skipBlanks ('x' :: ' ' :: '=' :: ' ' :: (List.replicate (m + 5) '1' ++ ['\n'])) =
      'x' :: ' ' :: '=' :: ' ' :: (List.replicate (m + 5) '1' ++ ['\n']) := rfl
  rw [read, statements, hskip, hstatement, hlong]
  rfl

end Reconcile.Toml
