import TraceHeaders.Binary64.Basic
import TraceHeaders.Text.Numeral

namespace TraceHeaders.Binary64

def isDigit (c : Char) : Bool := (Text.decimalDigit? c).isSome

def cutSign : Text → Bool × Text
  | '-' :: r => (true, r)
  | '+' :: r => (false, r)
  | t => (false, t)

def exponent? : Text → Option Int
  | [] => some 0
  | c :: r =>
    if c = 'e' ∨ c = 'E' then
      let (negative, t) := cutSign r
      (Text.decimal? t).map fun n => if negative then -(n : Int) else n
    else none

def ofUnsigned? (negative : Bool) (t : Text) : Option Binary64 :=
  let whole := t.takeWhile isDigit
  let rest := t.dropWhile isDigit
  let (fraction, tail) :=
    match rest with
    | '.' :: r => (r.takeWhile isDigit, r.dropWhile isDigit)
    | r => ([], r)
  match Text.decimal? (whole ++ fraction), exponent? tail with
  | some n, some e => some (ofDecimal negative n (e - fraction.length))
  | _, _ => none

def ofText? (t : Text) : Option Binary64 :=
  let (negative, r) := cutSign t
  let name := Text.asciiLower r
  if name = "inf".toList ∨ name = "infinity".toList then some (infinite negative)
  else if name = "nan".toList then some nan
  else ofUnsigned? negative r

end TraceHeaders.Binary64
