import TraceHeaders.Binary64.Basic
import TraceHeaders.Text.Numeral

/-! Decimal text of floating-point numbers: the fewest digits that read back as the same number, and
of two such texts the nearer one. -/

namespace TraceHeaders.Binary64

structure Digits where
  digits : Text
  point : Int
  deriving Repr, DecidableEq

def leadingZeros (num den : Nat) : Nat → Nat
  | 0 => 0
  | fuel + 1 => if 10 * num < den then leadingZeros (10 * num) den fuel + 1 else 0

def pointOf (num den : Nat) : Int :=
  if den ≤ num then (Nat.toDigits 10 (num / den)).length else -(leadingZeros num den 400 : Int)

def scaledDecimal (num den : Nat) (e : Int) : Nat × Nat :=
  if 0 ≤ e then (num * Nat.pow 10 e.toNat, den) else (num, den * Nat.pow 10 (-e).toNat)

/-- Which of two neighbours counts, if both are equally near. -/
inductive Tie where
  | up
  | even
  deriving Repr, DecidableEq

def Tie.takesLower : Tie → Nat → Bool
  | up, _ => false
  | even, lower => lower % 2 = 0

/-- The neighbour of a quotient on the grid of `count` digits that reads back as the number with
mantissa `m` and exponent `e`; of two, the nearer. -/
def onGrid? (tie : Tie) (m : Nat) (e : Int) (num den : Nat) (count : Nat) : Option Nat :=
  let shift := count - pointOf num den
  let (n, d) := scaledDecimal num den shift
  let readsBack (c : Nat) : Bool :=
    let (a, b) := scaledDecimal c 1 (-shift)
    c != 0 && nearest a b == (m, e)
  let lower := n / d
  match readsBack lower, readsBack (lower + 1) with
  | true, true =>
    if 2 * (n % d) < d || (2 * (n % d) = d && tie.takesLower lower) then some lower
    else some (lower + 1)
  | true, false => some lower
  | false, true => some (lower + 1)
  | false, false => none

def dropTrailingZeros (t : Text) : Text := (t.reverse.dropWhile (· = '0')).reverse

def shortest (tie : Tie) (m : Nat) (e : Int) : Digits :=
  let (num, den) := scaled m 1 (-e)
  let digits := ((List.range 17).findSome? fun i =>
    (onGrid? tie m e num den (i + 1)).map fun c =>
      (⟨Nat.toDigits 10 c, pointOf num den + (Nat.toDigits 10 c).length - (i + 1)⟩ : Digits))
  match digits with
  | some d => ⟨dropTrailingZeros d.digits, d.point⟩
  | none => ⟨['0'], 1⟩

def Digits.positional (d : Digits) : Text × Text :=
  if d.point ≤ 0 then (['0'], List.replicate (-d.point).toNat '0' ++ d.digits)
  else
    let whole := d.digits.take d.point.toNat
    (whole ++ List.replicate (d.point.toNat - whole.length) '0', d.digits.drop d.point.toNat)

def Digits.scientific (d : Digits) : Text :=
  d.digits.take 1 ++
    (if d.digits.length ≤ 1 then [] else '.' :: d.digits.drop 1) ++
    'e' :: (if 1 ≤ d.point then ['+'] else []) ++ Text.ofInt (d.point - 1)

def sign (negative : Bool) : Text := if negative then ['-'] else []

def digitsOf (tie : Tie) (m : Nat) (e : Int) : Digits :=
  if m = 0 then ⟨['0'], 1⟩ else shortest tie m e

def plain : Binary64 → Text
  | finite negative m e =>
    let (whole, fraction) := (digitsOf .up m e).positional
    sign negative ++ whole ++ if fraction.isEmpty then [] else '.' :: fraction
  | infinite negative => sign negative ++ "inf".toList
  | nan => "NaN".toList

def Digits.pointed (d : Digits) (negative : Bool) : Text :=
  sign negative ++ d.positional.1 ++
    '.' :: if d.positional.2.isEmpty then ['0'] else d.positional.2

def pointed : Binary64 → Text
  | finite negative m e => (digitsOf .up m e).pointed negative
  | x => plain x

def compact : Binary64 → Text
  | finite negative m e =>
    let d := digitsOf .even m e
    if -5 < d.point ∧ d.point ≤ 16 then d.pointed negative else sign negative ++ d.scientific
  | x => plain x

end TraceHeaders.Binary64
