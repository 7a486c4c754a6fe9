import Reconcile.Binary64

/-!
# Shortest decimal text of a binary number

The fewest decimal digits that read back as the same number, and of those the
nearest to it. The text is positional for numbers from `10 ^ -4` up to `10 ^ 16`
and has an exponent otherwise.
-/

namespace Reconcile.Binary64

/-- A positive number and the ends of the interval of numbers that round to it,
as numerators over one denominator. The ends belong to the interval if the
mantissa is even. -/
structure Neighbourhood where
  low : Nat
  value : Nat
  high : Nat
  denominator : Nat
  closed : Bool

/-- The neighbourhood of `mantissa * 2 ^ exponent`. Below a power of two the
numbers of the format lie twice as dense. -/
def neighbourhood (mantissa : Nat) (exponent : Int) : Neighbourhood :=
  let unit := power 2 (exponent - 2)
  let below := if 2 * mantissa = mantissaLimit ∧ -1074 < exponent then 1 else 2
  { low := (4 * mantissa - below) * unit
    value := 4 * mantissa * unit
    high := (4 * mantissa + 2) * unit
    denominator := power 2 (2 - exponent)
    closed := mantissa % 2 = 0 }

/-- Whether `n / d` rounds to the number. -/
def Neighbourhood.holds (v : Neighbourhood) (n d : Nat) : Bool :=
  let n := n * v.denominator
  if v.closed then v.low * d ≤ n && n ≤ v.high * d else v.low * d < n && n < v.high * d

/-- The least `k` such that the number is below `10 ^ k`. -/
def Neighbourhood.magnitude (v : Neighbourhood) : Int :=
  let k := (digitCount v.value : Int) - digitCount v.denominator
  if v.value * power 10 (-k) < v.denominator * power 10 k then k else k + 1

/-- The whole number of `count` digits nearest to the number in units of its
`count`-th digit, if it rounds to the number. -/
def Neighbourhood.onGrid (v : Neighbourhood) (count : Nat) : Option Nat :=
  let e := v.magnitude - count
  let n := v.value * power 10 (-e)
  let d := v.denominator * power 10 e
  let q := n / d
  let fits (q : Nat) := v.holds (q * power 10 e) (power 10 (-e))
  let near := roundHalfEven n d
  let far := if near = q then q + 1 else q
  if fits near then some near else if fits far then some far else none

/-- The fewest digits for the number, with the exponent of their unit. -/
def Neighbourhood.shortest (v : Neighbourhood) : Nat × Int :=
  ((List.range' 1 17).findSome? fun count =>
    (v.onGrid count).map fun q => (q, v.magnitude - count)).getD (0, 0)

/-- The decimal digits of `n`. -/
def digits (n : Nat) : List Char := Nat.toDigits 10 n

/-- The text of `coefficient * 10 ^ exponent`. -/
def decimalText (coefficient : Nat) (exponent : Int) : List Char :=
  let ds := ((digits coefficient).reverse.dropWhile (· = '0')).reverse
  let ds := if ds.isEmpty then ['0'] else ds
  let point : Int := (digits coefficient).length + exponent
  if -4 < point ∧ point ≤ 16 then
    if point ≤ 0 then '0' :: '.' :: List.replicate (-point).toNat '0' ++ ds
    else if ds.length ≤ point.toNat then
      ds ++ List.replicate (point.toNat - ds.length) '0' ++ ['.', '0']
    else ds.take point.toNat ++ '.' :: ds.drop point.toNat
  else
    let e := point - 1
    let size := digits e.natAbs
    ds.take 1 ++ (if ds.length = 1 then [] else '.' :: ds.drop 1) ++
      'e' :: (if e < 0 then '-' else '+') ::
        (if size.length = 1 then '0' :: size else size)

/-- The shortest text of a number. -/
def text : Binary64 → List Char
  | .nan => "nan".toList
  | .infinite negative => (if negative then ['-'] else []) ++ "inf".toList
  | .finite negative m e =>
    (if negative then ['-'] else []) ++
      if m = 0 then "0.0".toList
      else
        let (coefficient, exponent) := (neighbourhood m e).shortest
        decimalText coefficient exponent

end Reconcile.Binary64
