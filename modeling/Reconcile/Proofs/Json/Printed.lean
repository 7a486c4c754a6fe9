import Reconcile.Proofs.Json.RoundTrip
import Reconcile.Proofs.Text.Ascii

/-!
# JSON is written in printed ASCII

Beside ends of lines, a written value holds only the characters from the blank to the
tilde, because all others are escaped (`isPrinted_writtenChar`). Main statement:
`isPrinted_written`; in particular such a text is ASCII and has no carriage return.
-/

namespace Reconcile.Json

/-- A text of printed ASCII characters and ends of lines. -/
def IsPrinted (s : List Char) : Prop := ∀ c ∈ s, c = '\n' ∨ (0x20 ≤ c.toNat ∧ c.toNat ≤ 0x7E)

instance (s : List Char) : Decidable (IsPrinted s) :=
  List.decidableBAll (fun c : Char => c = '\n' ∨ (0x20 ≤ c.toNat ∧ c.toNat ≤ 0x7E)) s

theorem isPrinted_nil : IsPrinted [] := List.forall_mem_nil _

theorem isPrinted_cons {c : Char} {s : List Char} :
    IsPrinted (c :: s) ↔ (c = '\n' ∨ (0x20 ≤ c.toNat ∧ c.toNat ≤ 0x7E)) ∧ IsPrinted s :=
  List.forall_mem_cons

theorem isPrinted_append {s t : List Char} : IsPrinted (s ++ t) ↔ IsPrinted s ∧ IsPrinted t :=
  List.forall_mem_append

theorem IsPrinted.isAscii {s : List Char} (h : IsPrinted s) : Text.IsAscii s := by
  intro c hc
  rcases h c hc with rfl | hc
  · decide
  · omega

theorem IsPrinted.return_not_mem {s : List Char} (h : IsPrinted s) : '\r' ∉ s := by
  intro hc
  revert h
  simp only [IsPrinted]
  intro h
  exact absurd (h _ hc) (by decide)

/-! ## Texts and numbers -/

theorem isPrinted_of_isDigit {s : List Char} (h : ∀ c ∈ s, c.isDigit = true) : IsPrinted s := by
  intro c hc
  have hdigit := h c hc
  simp only [Char.isDigit, Bool.and_eq_true, decide_eq_true_eq] at hdigit
  have hge : 48 ≤ c.toNat := hdigit.1
  have hle : c.toNat ≤ 57 := hdigit.2
  exact .inr ⟨by omega, by omega⟩

theorem isPrinted_writtenInt (n : Int) : IsPrinted (writtenInt n) := by
  rw [writtenInt, isPrinted_append]
  refine ⟨?_, isPrinted_of_isDigit fun _ h => digits_toDigits h⟩
  by_cases h : n < 0
  · rw [if_pos h]
    decide
  · rw [if_neg h]
    exact isPrinted_nil

theorem isPrinted_hexDigits (width n : Nat) : IsPrinted (Text.hexDigits width n) := by
  have hdigit : ∀ d : Fin 16, IsPrinted [Text.hexDigit d] := by decide
  induction width generalizing n with
  | zero => exact isPrinted_nil
  | succ width ih =>
    exact isPrinted_append.2 ⟨ih _, hdigit ⟨n % 16, Nat.mod_lt n (by decide)⟩⟩

theorem isPrinted_unitEscape (unit : Nat) : IsPrinted (unitEscape unit) :=
  isPrinted_cons.2 ⟨by decide, isPrinted_cons.2 ⟨by decide, isPrinted_hexDigits 4 unit⟩⟩

theorem isPrinted_writtenChar (c : Char) : IsPrinted (writtenChar c) := by
  rw [writtenChar]
  split_ifs with hmark hn hr ht hf hb hprint hsmall
  · rcases hmark with rfl | rfl <;> decide
  · decide
  · decide
  · decide
  · decide
  · decide
  · exact isPrinted_cons.2 ⟨.inr ⟨hprint.1, hprint.2⟩, isPrinted_nil⟩
  · exact isPrinted_unitEscape _
  · exact isPrinted_append.2 ⟨isPrinted_unitEscape _, isPrinted_unitEscape _⟩

theorem isPrinted_writtenPoint (p : Point) : IsPrinted (writtenPoint p) := by
  cases p with
  | char c => exact isPrinted_writtenChar c
  | half h => exact isPrinted_unitEscape h.code

theorem isPrinted_writtenText (t : Text) : IsPrinted (writtenText t) := by
  rw [writtenText, List.cons_append, isPrinted_cons, isPrinted_append]
  refine ⟨by decide, ?_, by decide⟩
  intro c hc
  obtain ⟨p, -, hp⟩ := List.mem_flatMap.1 hc
  exact isPrinted_writtenPoint p c hp

/-! ## Values -/

theorem isPrinted_lineBreak (depth : Nat) : IsPrinted (lineBreak depth) := by
  refine isPrinted_cons.2 ⟨.inl rfl, ?_⟩
  intro c hc
  rw [List.eq_of_mem_replicate hc]
  decide

theorem isPrinted_writtenItems {vs : List Value} {depth : Nat}
    (h : ∀ v ∈ vs, IsPrinted (written depth v)) : IsPrinted (writtenItems depth vs) := by
  induction vs with
  | nil => exact isPrinted_nil
  | cons v vs ih =>
    obtain ⟨hv, hvs⟩ := List.forall_mem_cons.1 h
    rw [← List.append_nil (writtenItems depth _), writtenItems_cons_append, List.append_nil]
    simp only [isPrinted_cons, isPrinted_append, isPrinted_lineBreak, hv, ih hvs]
    decide

theorem isPrinted_writtenFields {fs : Fields} {depth : Nat}
    (h : ∀ f ∈ fs, IsPrinted (written depth f.2)) : IsPrinted (writtenFields depth fs) := by
  induction fs with
  | nil => exact isPrinted_nil
  | cons f fs ih =>
    obtain ⟨k, v⟩ := f
    obtain ⟨hv, hfs⟩ := List.forall_mem_cons.1 h
    rw [← List.append_nil (writtenFields depth _), writtenFields_cons_append, List.append_nil]
    simp only [isPrinted_cons, isPrinted_append, isPrinted_lineBreak, isPrinted_writtenText, hv,
      ih hfs]
    decide

/-- **Only printed ASCII is written**, by induction on the value. -/
theorem isPrinted_written {room : Nat} {v : Value} (h : IsKept room v) (depth : Nat) :
    IsPrinted (written depth v) := by
  induction h generalizing depth with
  | null => exact show IsPrinted "null".toList by decide
  | bool b => cases b <;> exact show IsPrinted (written 0 (.bool _)) by decide
  | int h => exact isPrinted_writtenInt _
  | text t => exact isPrinted_writtenText t
  | @list _ items h ih =>
    cases items with
    | nil => exact show IsPrinted "[]".toList by decide
    | cons v vs =>
      obtain ⟨hv, hvs⟩ := List.forall_mem_cons.1 ih
      rw [written]
      simp only [isPrinted_cons, isPrinted_append, isPrinted_lineBreak, hv,
        isPrinted_writtenItems fun w hw => hvs w hw (depth + 1)]
      decide
  | @table _ fields hkeys h ih =>
    cases fields with
    | nil => exact show IsPrinted "\x7b\x7d".toList by decide
    | cons f fs =>
      obtain ⟨k, v⟩ := f
      obtain ⟨hv, hfs⟩ := List.forall_mem_cons.1 ih
      rw [written]
      simp only [isPrinted_cons, isPrinted_append, isPrinted_lineBreak, isPrinted_writtenText, hv,
        isPrinted_writtenFields fun f hf => hfs f hf (depth + 1)]
      decide

end Reconcile.Json
