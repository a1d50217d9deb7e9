/-!
# Binary floating point numbers

Numbers of the format binary64, kept as an integer times a power of two. An exact fraction is
rounded to the nearest of them, a half to the even neighbour, and products and quotients are
rounded from their exact values. A decimal literal stands for the number nearest to it; powers
beyond the range of the format are not computed.
-/

namespace SignPost.Number

structure Fraction where
  num : Nat
  den : Nat
deriving Repr

/-- `n * 2 ^ e` as a fraction. -/
def Fraction.ofScaled (n : Nat) (e : Int) : Fraction :=
  if 0 ≤ e then ⟨n <<< e.toNat, 1⟩ else ⟨n, 1 <<< (-e).toNat⟩

def Fraction.timesPow10 (x : Fraction) (e : Int) : Fraction :=
  if 0 ≤ e then ⟨x.num * Nat.pow 10 e.toNat, x.den⟩ else ⟨x.num, x.den * Nat.pow 10 (-e).toNat⟩

def Fraction.overPow2 (x : Fraction) (e : Int) : Fraction :=
  if 0 ≤ e then ⟨x.num, x.den <<< e.toNat⟩ else ⟨x.num <<< (-e).toNat, x.den⟩

/-- The integer nearest to a fraction, a half going to the even one. -/
def Fraction.round (x : Fraction) : Nat :=
  let q := x.num / x.den
  let r := x.num % x.den
  if 2 * r < x.den ∨ (2 * r = x.den ∧ q % 2 = 0) then q else q + 1

def Fraction.le (x y : Fraction) : Bool :=
  x.num * y.den ≤ y.num * x.den

def Fraction.lt (x y : Fraction) : Bool :=
  x.num * y.den < y.num * x.den

/-- A number of the format: `mantissa * 2 ^ exponent` with a sign, an infinity, or no number. A
mantissa has at most 53 bits, and as many where the exponent is not the least, -1074. -/
inductive Binary64 where
  | finite (negative : Bool) (mantissa : Nat) (exponent : Int)
  | infinite (negative : Bool)
  | nan
deriving DecidableEq, Repr

namespace Binary64

def minExponent : Int := -1074

def maxExponent : Int := 971

def zero (negative : Bool) : Binary64 :=
  .finite negative 0 minExponent

/-- The exponent at which a fraction has 53 bits before its point, or the least one. -/
def exponentOf (x : Fraction) : Int :=
  let guess := Int.ofNat (Nat.log2 x.num) - Int.ofNat (Nat.log2 x.den) - 52
  let y := x.overPow2 guess
  max (if y.num / y.den < 1 <<< 52 then guess - 1 else guess) minExponent

/-- The number nearest to a fraction with a sign; an infinity for one that is too large. -/
def ofFraction (negative : Bool) (x : Fraction) : Binary64 :=
  if x.num = 0 then zero negative
  else
    let e := exponentOf x
    let m := (x.overPow2 e).round
    let (m, e) := if m = 1 <<< 53 then (1 <<< 52, e + 1) else (m, e)
    if maxExponent < e then .infinite negative else .finite negative m e

def ofNat (n : Nat) : Binary64 :=
  ofFraction false ⟨n, 1⟩

def neg : Binary64 → Binary64
  | .finite negative m e => .finite (!negative) m e
  | .infinite negative => .infinite (!negative)
  | .nan => .nan

def isInfinite : Binary64 → Bool
  | .infinite _ => true
  | _ => false

def isZero : Binary64 → Bool
  | .finite _ m _ => m = 0
  | _ => false

def pow10 (e : Nat) : Binary64 :=
  ofNat (Nat.pow 10 e)

/-- The rounded product of two non-negative numbers. -/
def mul : Binary64 → Binary64 → Binary64
  | .finite _ m e, .finite _ n f => ofFraction false (Fraction.ofScaled (m * n) (e + f))
  | .infinite _, .finite _ _ _ => .infinite false
  | .finite _ _ _, .infinite _ => .infinite false
  | .infinite _, .infinite _ => .infinite false
  | _, _ => .nan

/-- The rounded quotient of two non-negative numbers, the second not zero. -/
def div : Binary64 → Binary64 → Binary64
  | .finite _ m e, .finite _ n f =>
    let x := Fraction.ofScaled m (e - f)
    ofFraction false ⟨x.num, x.den * n⟩
  | .infinite _, .finite _ _ _ => .infinite false
  | .finite _ _ _, .infinite _ => zero false
  | _, _ => .nan

/-- The number nearest to `digits * 10 ^ exponent`; an infinity for one that is too large. -/
def ofDecimal (negative : Bool) (digits : Nat) (exponent : Int) : Binary64 :=
  let size := Int.ofNat (Nat.toDigits 10 digits).length + exponent
  if digits = 0 ∨ size < -330 then zero negative
  else if 330 < size then .infinite negative
  else ofFraction negative (Fraction.timesPow10 ⟨digits, 1⟩ exponent)

end Binary64

end SignPost.Number
