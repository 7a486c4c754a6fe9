import Reconcile.Text
import Reconcile.Text.CaseTable
import Reconcile.Text.Ranges

/-!
# Lower case

The lower-case form of a text under Unicode's full mapping. Each character is
mapped on its own but for two rules. The dotted capital I becomes `i` and a
combining dot above. A capital sigma becomes the final small sigma at the end of
a word: a cased letter stands before it and none after it, where some
characters, such as the full stop, are passed over on both sides. A half of a
surrogate pair is no letter and has no other form.
-/

namespace Reconcile

namespace Text

/-- Whether `c` is passed over when the letters around a sigma are looked for. -/
def isCaseIgnorable (c : Char) : Bool :=
  if c.toNat < 0x80 then c.toNat ∈ [0x27, 0x2E, 0x3A, 0x5E, 0x60]
  else inRanges caseIgnorableRanges c

/-- Whether `c` is a cased letter. -/
def isCased (c : Char) : Bool :=
  if c.toNat < 0x80 then c.isAlpha else inRanges casedRanges c

/-- The capital that `range` makes of `c` a small letter of, if any. -/
def CapitalRange.lower? (range : CapitalRange) (c : Char) : Option Char :=
  if range.first ≤ c.toNat ∧ c.toNat ≤ range.last ∧ (c.toNat - range.first) % range.step = 0 then
    some (Char.ofNat (c.toNat + range.shift).toNat)
  else none

/-- The lower-case form of one character that is no sigma. -/
def lowerChar (c : Char) : List Char :=
  if c.toNat < 0x80 then [c.toLower]
  else if c = 'İ' then ['i', '\u0307']
  else [(capitalRanges.findSome? (·.lower? c)).getD c]

end Text

namespace Point

/-- Whether a code point is passed over when the letters around a sigma are looked for. -/
def isCaseIgnorable : Point → Bool
  | char c => Text.isCaseIgnorable c
  | half _ => false

/-- Whether a code point is a cased letter. -/
def isCased : Point → Bool
  | char c => Text.isCased c
  | half _ => false

/-- The lower-case form of one code point that is no sigma. -/
def lower : Point → List Point
  | char c => (Text.lowerChar c).map char
  | half h => [half h]

/-- The capital sigma. -/
def sigma : Point := char 'Σ'

end Point

namespace Text

/-- Whether the next code point that is not passed over is a cased letter. -/
def startsCased (s : List Point) : Bool :=
  (s.dropWhile Point.isCaseIgnorable).head?.any Point.isCased

/-- The lower-case form of `s`, where `inWord` tells whether the last code point
before `s` that is not passed over is a cased letter. -/
def lowerFrom (inWord : Bool) : List Point → List Point
  | [] => []
  | p :: rest =>
    (if p = .sigma then (if inWord && !startsCased rest then [.char 'ς'] else [.char 'σ'])
      else p.lower) ++
      lowerFrom (if p.isCaseIgnorable then inWord else p.isCased) rest

/-- The lower-case form of some code points. -/
def lower (s : List Point) : List Point := lowerFrom false s

/-- The lower-case form of some characters. -/
def lowerChars (s : List Char) : List Char := (lower (s.map .char)).filterMap Point.char?

end Text

end Reconcile
