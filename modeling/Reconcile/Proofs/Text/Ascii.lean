import Reconcile.Storage

/-!
# ASCII texts

A text of ASCII characters is encoded with one byte a character, so that its bytes
read as characters are the text again. Main statement: what is read from a file with
the bytes of such a text is the text, if it has no carriage return
(`FileState.readText_encode`).
-/

namespace Reconcile

namespace Text

/-- A text of ASCII characters only. -/
def IsAscii (s : List Char) : Prop := ∀ c ∈ s, c.toNat < 0x80

instance (s : List Char) : Decidable (IsAscii s) :=
  List.decidableBAll (fun c : Char => c.toNat < 0x80) s

theorem isAscii_cons {c : Char} {s : List Char} :
    IsAscii (c :: s) ↔ c.toNat < 0x80 ∧ IsAscii s := List.forall_mem_cons

theorem isAscii_append {s t : List Char} : IsAscii (s ++ t) ↔ IsAscii s ∧ IsAscii t :=
  List.forall_mem_append

/-- A text without carriage returns has its ends of lines as they are wanted. -/
theorem unifyLines_eq_self {s : List Char} (h : '\r' ∉ s) : unifyLines s = s := by
  induction s with
  | nil => rfl
  | cons c s ih =>
    obtain ⟨hc, hs⟩ := not_or.1 fun hmem => h (List.mem_cons.2 hmem)
    rw [unifyLines, if_neg (Ne.symm hc), ih hs]
    rintro rest rfl
    exact absurd rfl hc

end Text

namespace Utf8

theorem encodeChar_of_lt {c : Char} (h : c.toNat < 0x80) :
    String.utf8EncodeChar c = [UInt8.ofNat c.toNat] := by
  have hle : c.val.toNat ≤ 0x7f := Nat.le_of_lt_succ h
  exact if_pos hle

theorem encode_cons (c : Char) (s : List Char) :
    encode (c :: s) = String.utf8EncodeChar c ++ encode s := List.flatMap_cons

theorem toNat_ofNat_of_lt {n : Nat} (h : n < 0x80) : (UInt8.ofNat n).toNat = n := by
  rw [UInt8.toNat_ofNat']
  exact Nat.mod_eq_of_lt (by omega)

/-- The bytes of an ASCII text are its characters. -/
theorem encode_eq_map {s : List Char} (h : Text.IsAscii s) :
    encode s = s.map fun c => UInt8.ofNat c.toNat := by
  induction s with
  | nil => rfl
  | cons c s ih =>
    obtain ⟨hc, hs⟩ := Text.isAscii_cons.1 h
    rw [encode_cons, encodeChar_of_lt hc, ih hs, List.map_cons, List.singleton_append]

theorem lt_of_mem_encode {s : List Char} (h : Text.IsAscii s) {byte : UInt8}
    (hbyte : byte ∈ encode s) : byte < 0x80 := by
  rw [encode_eq_map h, List.mem_map] at hbyte
  obtain ⟨c, hc, rfl⟩ := hbyte
  rw [UInt8.lt_iff_toNat_lt, toNat_ofNat_of_lt (h c hc)]
  exact h c hc

theorem decodeFrom_encode {s : List Char} (h : Text.IsAscii s) (offset : Nat) :
    decodeFrom offset (encode s) = .ok s := by
  induction s generalizing offset with
  | nil => rfl
  | cons c s ih =>
    obtain ⟨hc, hs⟩ := Text.isAscii_cons.1 h
    have hsmall : UInt8.ofNat c.toNat < 0x80 := by
      rw [UInt8.lt_iff_toNat_lt, toNat_ofNat_of_lt hc]
      exact hc
    rw [encode_cons, encodeChar_of_lt hc, List.singleton_append, decodeFrom.eq_def]
    simp only [if_pos hsmall, ih hs, toNat_ofNat_of_lt hc, Char.ofNat_toNat]
    rfl

/-- **Decoding inverts encoding** on ASCII texts. -/
theorem decode_encode {s : List Char} (h : Text.IsAscii s) : decode (encode s) = .ok s :=
  decodeFrom_encode h 0

end Utf8

theorem FileState.readText_encode {s : List Char} (h : Text.IsAscii s) (hcr : '\r' ∉ s) :
    (FileState.file (Utf8.encode s)).readText = .ok s := by
  rw [FileState.readText, Utf8.decode_encode h]
  exact congrArg Except.ok (Text.unifyLines_eq_self hcr)

end Reconcile
