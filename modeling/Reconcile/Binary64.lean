/-!
# Binary floating-point numbers

The 64-bit format: a finite number is `± mantissa * 2 ^ exponent` with a
mantissa below `2 ^ 53`. A quotient of whole numbers is rounded to the nearest
number of the format, a half to the even mantissa, in exact arithmetic.
-/

namespace Reconcile

/-- A number of the 64-bit format. -/
inductive Binary64
  | finite (negative : Bool) (mantissa : Nat) (exponent : Int)
  | infinite (negative : Bool)
  | nan
deriving DecidableEq, Inhabited

namespace Binary64

/-- The power of a base; a negative exponent counts as zero. -/
def power (base : Nat) (exponent : Int) : Nat := Nat.pow base exponent.toNat

/-- The least number that is too great for a mantissa. -/
def mantissaLimit : Nat := power 2 53

/-- The whole number nearest to `n / d`; of two equally near, the even one. -/
def roundHalfEven (n d : Nat) : Nat :=
  let q := n / d
  let r := n % d
  if 2 * r < d then q else if d < 2 * r then q + 1 else q + q % 2

/-- The exponent of the greatest power of two that is at most `n / d`. -/
def binade (n d : Nat) : Int :=
  let k := (n.log2 : Int) - d.log2
  if d * power 2 k ≤ n * power 2 (-k) then k else k - 1

/-- The exponent of the last mantissa bit for a number the size of `n / d`. -/
def quantum (n d : Nat) : Int := max (binade n d - 52) (-1074)

/-- The greatest exponent of the last mantissa bit. -/
def maxExponent : Int := 971

/-- The number nearest to `± n / d`, where `d` is not zero. -/
def ofQuotient (negative : Bool) (n d : Nat) : Binary64 :=
  if n = 0 then .finite negative 0 (-1074) else
  let e := quantum n d
  let m := roundHalfEven (n * power 2 (-e)) (d * power 2 e)
  let (m, e) := if m = mantissaLimit then (mantissaLimit / 2, e + 1) else (m, e)
  if maxExponent < e then .infinite negative else .finite negative m e

/-- The number nearest to `n / d`, where `d` is not zero. -/
def ofRatio (n : Int) (d : Nat) : Binary64 := ofQuotient (n < 0) n.natAbs d

/-- The number of decimal digits of `n`, one for zero. -/
def digitCount (n : Nat) : Nat := (Nat.toDigits 10 n).length

/-- The number nearest to `± digits * 10 ^ exponent`. A power of ten beyond the
format's range is not computed. -/
def ofDecimal (negative : Bool) (digits : Nat) (exponent : Int) : Binary64 :=
  if digits = 0 then ofQuotient negative 0 1
  else if 310 < digitCount digits + exponent then .infinite negative
  else if digitCount digits + exponent < -330 then ofQuotient negative 0 1
  else ofQuotient negative (digits * power 10 exponent) (power 10 (-exponent))

/-- The whole part of a finite number, its fraction dropped; zero for the
others. -/
def truncate : Binary64 → Int
  | .finite negative m e =>
    let whole : Nat := m * power 2 e / power 2 (-e)
    if negative then -whole else whole
  | .infinite _ => 0
  | .nan => 0

end Binary64

end Reconcile
