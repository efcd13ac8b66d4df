import TraceHeaders.Text.Numeral

/-! Identifiers of different widths match when their low halves are equal, because the narrow one is
what a hop that knows 64 bits leaves of a wide one. Matching is not transitive. -/

namespace TraceHeaders

inductive TraceId where
  | narrow (low : UInt64)
  | wide (high low : UInt64)
  deriving Repr, DecidableEq

namespace TraceId

instance : Inhabited TraceId := ⟨narrow 0⟩

def ofParts (high low : UInt64) : TraceId := if high = 0 then narrow low else wide high low

def ofNat (n : Nat) : TraceId := ofParts (.ofNat (n / UInt64.size)) (.ofNat n)

def low : TraceId → UInt64
  | narrow low => low
  | wide _ low => low

def high : TraceId → UInt64
  | narrow _ => 0
  | wide high _ => high

def isWide : TraceId → Bool
  | narrow _ => false
  | wide .. => true

def toNat (t : TraceId) : Nat := t.high.toNat * UInt64.size + t.low.toNat

def isZero (t : TraceId) : Bool := t.toNat = 0

def matched : TraceId → TraceId → Bool
  | narrow a, narrow b => a == b
  | wide a b, wide c d => a == c && b == d
  | s, t => s.low == t.low

def hex (t : TraceId) : Text := Text.hexPadded (if t.isWide then 32 else 16) t.toNat

def shown (t : TraceId) : Text := if t.isWide then t.hex else Text.ofNat t.low.toNat

theorem high_ofParts (h l : UInt64) : (ofParts h l).high = h := by
  unfold ofParts
  split
  · next e => simp [high, e]
  · rfl

theorem low_ofParts (h l : UInt64) : (ofParts h l).low = l := by
  unfold ofParts
  split <;> rfl

theorem toNat_lt (t : TraceId) : t.toNat < UInt64.size * UInt64.size := by
  have := t.high.toNat_lt
  have := t.low.toNat_lt
  simp only [toNat, UInt64.size]
  omega

theorem toNat_ofNat {n : Nat} (h : n < UInt64.size * UInt64.size) : (ofNat n).toNat = n := by
  rw [toNat, ofNat, high_ofParts, low_ofParts]
  simp only [UInt64.toNat_ofNat', UInt64.size] at h ⊢
  omega

theorem matched_self (t : TraceId) : t.matched t := by cases t <;> simp [matched]

theorem matched_comm (s t : TraceId) : s.matched t = t.matched s := by
  cases s <;> cases t <;> simp only [matched, low, Bool.beq_comm]

end TraceId

end TraceHeaders
