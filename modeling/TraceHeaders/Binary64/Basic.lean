/-! Floating-point numbers of 64 bits as exact values. Decimals are rounded to the nearest such
number, ties to the even mantissa. -/

namespace TraceHeaders

inductive Binary64 where
  | finite (negative : Bool) (mantissa : Nat) (exponent : Int)
  | infinite (negative : Bool)
  | nan
  deriving Repr, DecidableEq

namespace Binary64

def leastExponent : Int := -1074

def greatestExponent : Int := 971

def leastFull : Nat := 0x10000000000000

def roundDiv (num den : Nat) : Nat :=
  let q := num / den
  if 2 * (num % den) < den then q
  else if den < 2 * (num % den) then q + 1
  else q + q % 2

def scaled (num den : Nat) (e : Int) : Nat × Nat :=
  if 0 ≤ e then (num, den * Nat.pow 2 e.toNat) else (num * Nat.pow 2 (-e).toNat, den)

def exponentOf (num den : Nat) : Int :=
  let e : Int := Nat.log2 num - Nat.log2 den
  let (n, d) := scaled num den e
  max leastExponent (if d ≤ n then e - 52 else e - 53)

def nearest (num den : Nat) : Nat × Int :=
  let e := exponentOf num den
  let (n, d) := scaled num den e
  let m := roundDiv n d
  if m = 2 * leastFull then (leastFull, e + 1) else (m, e)

def ofRatio (negative : Bool) (num den : Nat) : Binary64 :=
  if num = 0 then finite negative 0 0
  else
    let (m, e) := nearest num den
    if greatestExponent < e then infinite negative else finite negative m e

/-- The number nearest to `digits * 10 ^ exponent`. Exponents far outside the range are decided
without computing the power. -/
def ofDecimal (negative : Bool) (digits : Nat) (exponent : Int) : Binary64 :=
  let size : Int := exponent + (Nat.toDigits 10 digits).length
  if digits = 0 ∨ size < -400 then finite negative 0 0
  else if 400 < size then infinite negative
  else if 0 ≤ exponent then ofRatio negative (digits * Nat.pow 10 exponent.toNat) 1
  else ofRatio negative digits (Nat.pow 10 (-exponent).toNat)

def isZero : Binary64 → Bool
  | finite _ m _ => m = 0
  | _ => false

def isAlmostOne : Binary64 → Bool
  | finite false m e =>
    let (n, d) := scaled m 1 (-e)
    n != 0 && leastFull * n < (leastFull + 1) * d && (leastFull - 1) * d < leastFull * n
  | _ => false

end Binary64

end TraceHeaders
