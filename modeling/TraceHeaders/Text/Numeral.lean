import TraceHeaders.Text.Basic

namespace TraceHeaders.Text

def decimalDigit? (c : Char) : Option Nat :=
  if '0' ≤ c ∧ c ≤ '9' then some (c.toNat - '0'.toNat) else none

def hexDigit? (c : Char) : Option Nat :=
  if '0' ≤ c ∧ c ≤ '9' then some (c.toNat - '0'.toNat)
  else if 'a' ≤ c ∧ c ≤ 'f' then some (c.toNat - 'a'.toNat + 10)
  else if 'A' ≤ c ∧ c ≤ 'F' then some (c.toNat - 'A'.toNat + 10)
  else none

def isHexDigit (c : Char) : Bool := (hexDigit? c).isSome

def isLowerHexDigit (c : Char) : Bool := ('0' ≤ c && c ≤ '9') || ('a' ≤ c && c ≤ 'f')

def digitsFrom (base : Nat) (digit? : Char → Option Nat) (n : Nat) (t : Text) : Option Nat :=
  t.foldlM (fun n c => (digit? c).map (base * n + ·)) n

def digits? (base : Nat) (digit? : Char → Option Nat) (t : Text) : Option Nat :=
  if t = [] then none else digitsFrom base digit? 0 t

def decimal? (t : Text) : Option Nat := digits? 10 decimalDigit? t

def hex? (t : Text) : Option Nat := digits? 16 hexDigit? t

def natural? : Text → Option Nat
  | '+' :: r => decimal? r
  | t => decimal? t

def integer? : Text → Option Int
  | '-' :: r => (decimal? r).map fun n => -(n : Int)
  | t => (natural? t).map (↑·)

def uint8? (t : Text) : Option UInt8 :=
  (natural? t).bind fun n => if n < UInt8.size then some (.ofNat n) else none

def uint64? (t : Text) : Option UInt64 :=
  (natural? t).bind fun n => if n < UInt64.size then some (.ofNat n) else none

def int8? (t : Text) : Option Int8 :=
  (integer? t).bind fun z => if -128 ≤ z ∧ z < 128 then some (.ofInt z) else none

def int64? (t : Text) : Option Int :=
  (integer? t).filter fun z => Int64.minValue.toInt ≤ z && z ≤ Int64.maxValue.toInt

def hexDigit (n : Nat) : Char :=
  if n < 10 then Char.ofNat ('0'.toNat + n) else Char.ofNat ('a'.toNat + (n - 10))

def upperHexDigit (n : Nat) : Char :=
  if n < 10 then Char.ofNat ('0'.toNat + n) else Char.ofNat ('A'.toNat + (n - 10))

def hexPadded : (width n : Nat) → Text
  | 0, _ => []
  | width + 1, n => hexPadded width (n / 16) ++ [hexDigit (n % 16)]

def hexPlain (n : Nat) : Text := Nat.toDigits 16 n

def ofNat (n : Nat) : Text := Nat.toDigits 10 n

def ofInt : Int → Text
  | .ofNat n => ofNat n
  | .negSucc n => '-' :: ofNat (n + 1)

def hexWord (w : UInt64) : Text := hexPadded 16 w.toNat

@[simp] theorem length_hexPadded (width n : Nat) : (hexPadded width n).length = width := by
  induction width generalizing n with
  | zero => rfl
  | succ w ih => simp [hexPadded, ih]

theorem digitsFrom_append (base : Nat) (digit? : Char → Option Nat) (n : Nat) (s t : Text) :
    digitsFrom base digit? n (s ++ t) =
      (digitsFrom base digit? n s).bind fun m => digitsFrom base digit? m t := by
  simp [digitsFrom, List.foldlM_append]

theorem hexDigit?_hexDigit {n : Nat} (h : n < 16) : hexDigit? (hexDigit n) = some n := by
  revert n; decide

theorem isLowerHexDigit_hexDigit {n : Nat} (h : n < 16) : isLowerHexDigit (hexDigit n) := by
  revert n; decide

theorem digitsFrom_hexPadded (width n m : Nat) :
    digitsFrom 16 hexDigit? m (hexPadded width n) = some (m * Nat.pow 16 width + n % Nat.pow 16 width) := by
  induction width generalizing n with
  | zero => simp [hexPadded, digitsFrom, Nat.mod_one]
  | succ w ih =>
    rw [hexPadded, digitsFrom_append, ih]
    simp only [digitsFrom, List.foldlM_cons, List.foldlM_nil, Option.bind_some,
      hexDigit?_hexDigit (Nat.mod_lt n (by decide : 16 > 0))]
    simp only [Option.map_some, Option.bind_eq_bind, Option.bind_some, pure]
    have hm : m * (16 * Nat.pow 16 w) = 16 * (m * Nat.pow 16 w) := Nat.mul_left_comm ..
    rw [show Nat.pow 16 (w + 1) = 16 * Nat.pow 16 w from Nat.mul_comm .., Nat.mod_mul, hm]
    congr 1
    omega

theorem hex?_hexPadded {width n : Nat} (hw : 0 < width) (hn : n < Nat.pow 16 width) :
    hex? (hexPadded width n) = some n := by
  have hne : hexPadded width n ≠ [] := by
    intro h
    have := length_hexPadded width n
    simp [h] at this
    omega
  rw [hex?, digits?, if_neg hne, digitsFrom_hexPadded, Nat.zero_mul, Nat.zero_add,
    Nat.mod_eq_of_lt hn]

end TraceHeaders.Text
