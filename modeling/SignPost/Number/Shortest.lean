import SignPost.Number.Binary64

/-!
# Numbers in their shortest form

A binary number is written with the fewest decimal digits that read back as the same number, and
among those with the nearest ones. Notation is positional, without an exponent.
-/

namespace SignPost.Number.Binary64

/-- How many digits stand before the point: negative where zeros follow the point. -/
def decimalPoint (x : Fraction) : Int :=
  if x.den ≤ x.num then Int.ofNat (Nat.toDigits 10 (x.num / x.den)).length
  else
    let zeros := (List.range 400).find? fun j => x.den ≤ x.num * Nat.pow 10 (j + 1)
    Int.negOfNat (zeros.getD 0)

/-- The fractions that are read as `mantissa * 2 ^ exponent` lie between these two. -/
def bounds (mantissa : Nat) (exponent : Int) : Fraction × Fraction :=
  let below := if mantissa = 1 <<< 52 ∧ minExponent < exponent then 1 else 2
  (Fraction.ofScaled (4 * mantissa - below) (exponent - 2),
    Fraction.ofScaled (4 * mantissa + 2) (exponent - 2))

/-- An integer over `10 ^ scale` is read as `mantissa * 2 ^ exponent`. -/
def readsBack (mantissa : Nat) (exponent scale : Int) (n : Nat) : Bool :=
  let (low, high) := bounds mantissa exponent
  let y := Fraction.timesPow10 ⟨n, 1⟩ (-scale)
  if mantissa % 2 = 0 then low.le y && y.le high else low.lt y && y.lt high

/-- An integer that over `10 ^ scale` is read as `mantissa * 2 ^ exponent`, if there is one: the
nearer of the two neighbours. -/
def neighbour? (mantissa : Nat) (exponent scale : Int) : Option Nat :=
  let x := (Fraction.ofScaled mantissa exponent).timesPow10 scale
  let q := x.num / x.den
  let upFirst := x.den < 2 * (x.num % x.den)
  let candidates := if upFirst then [q + 1, q] else [q, q + 1]
  candidates.find? (readsBack mantissa exponent scale)

/-- The shortest digits of `mantissa * 2 ^ exponent`, as an integer and the power of ten that it
is to be divided by. -/
def shortest (mantissa : Nat) (exponent : Int) : Nat × Int :=
  let point := decimalPoint (Fraction.ofScaled mantissa exponent)
  let found := (List.range 17).findSome? fun i =>
    let scale := Int.ofNat (i + 1) - point
    (neighbour? mantissa exponent scale).map (·, scale)
  found.getD (0, 0)

def trimZeros (digits : List Char) : List Char :=
  (digits.reverse.dropWhile (· = '0')).reverse

/-- Digits with a point after the first `point` of them. -/
def placePoint (digits : List Char) (point : Int) : List Char :=
  if point ≤ 0 then '0' :: '.' :: List.replicate (-point).toNat '0' ++ digits
  else
    let n := point.toNat
    if digits.length ≤ n then digits ++ List.replicate (n - digits.length) '0'
    else digits.take n ++ '.' :: digits.drop n

def render : Binary64 → String
  | .nan => "NaN"
  | .infinite negative => if negative then "-inf" else "inf"
  | .finite negative mantissa exponent =>
    let sign := if negative then "-" else ""
    if mantissa = 0 then sign ++ "0"
    else
      let (n, scale) := shortest mantissa exponent
      let digits := Nat.toDigits 10 n
      sign ++ String.ofList (placePoint (trimZeros digits) (Int.ofNat digits.length - scale))

end SignPost.Number.Binary64
