import TraceHeaders.TraceId
import TraceHeaders.Proofs.Text.Numeral

namespace TraceHeaders.TraceId

section Words

variable (high low : UInt64) (x : BitVec 128)

def joined : BitVec 128 := high.toBitVec.setWidth 128 <<< 64 ||| low.toBitVec.setWidth 128

def split : UInt64 × UInt64 := (.ofBitVec ((x >>> 64).setWidth 64), .ofBitVec (x.setWidth 64))

lemma toNat_joined : (joined high low).toNat = high.toNat * UInt64.size + low.toNat := by
  have hh := high.toNat_lt
  have hl := low.toNat_lt
  have hs : high.toNat <<< 64 < 2 ^ 128 := by
    rw [Nat.shiftLeft_eq]
    omega
  rw [joined, BitVec.toNat_or, BitVec.toNat_shiftLeft, BitVec.toNat_setWidth_of_le (by decide),
    BitVec.toNat_setWidth_of_le (by decide), UInt64.toNat_toBitVec, UInt64.toNat_toBitVec,
    Nat.mod_eq_of_lt hs, ← Nat.shiftLeft_add_eq_or_of_lt hl, Nat.shiftLeft_eq]

lemma toNat_split :
    (split x).1.toNat = x.toNat / UInt64.size ∧ (split x).2.toNat = x.toNat % UInt64.size := by
  have hd : x.toNat / UInt64.size < UInt64.size := Nat.div_lt_of_lt_mul x.isLt
  constructor
  · rw [split, UInt64.toNat_ofBitVec, BitVec.toNat_setWidth, BitVec.toNat_ushiftRight,
      Nat.shiftRight_eq_div_pow]
    exact Nat.mod_eq_of_lt hd
  · rw [split, UInt64.toNat_ofBitVec, BitVec.toNat_setWidth]

lemma split_joined : split (joined high low) = (high, low) := by
  have hl := low.toNat_lt
  have hd : (high.toNat * UInt64.size + low.toNat) / UInt64.size = high.toNat := by
    simp only [UInt64.size]
    omega
  have hm : (high.toNat * UInt64.size + low.toNat) % UInt64.size = low.toNat := by
    simp only [UInt64.size]
    omega
  obtain ⟨h1, h2⟩ := toNat_split (joined high low)
  rw [toNat_joined] at h1 h2
  exact Prod.ext (UInt64.toNat_inj.mp (h1.trans hd)) (UInt64.toNat_inj.mp (h2.trans hm))

lemma ofNat_eq_split : ofNat x.toNat = ofParts (split x).1 (split x).2 := by
  obtain ⟨h1, h2⟩ := toNat_split x
  have hl : UInt64.ofNat x.toNat = (split x).2 := by
    apply UInt64.toNat_inj.mp
    rw [h2, UInt64.toNat_ofNat']
  rw [ofNat, ← h1, UInt64.ofNat_toNat, hl]

end Words

lemma isZero_iff {t : TraceId} : t.isZero ↔ t.high = 0 ∧ t.low = 0 := by
  rw [isZero, decide_eq_true_eq, toNat, ← UInt64.toNat_inj, ← UInt64.toNat_inj, UInt64.toNat_zero]
  simp only [UInt64.size]
  omega

lemma isZero_of_low {t : TraceId} (h : t.low ≠ 0) : t.isZero = false := by
  rw [Bool.eq_false_iff]
  exact fun hz => h (isZero_iff.mp hz).2

lemma isZero_ofNat {n : Nat} (h : n < UInt64.size * UInt64.size) (hn : n ≠ 0) :
    (ofNat n).isZero = false := by
  rw [isZero, toNat_ofNat h, decide_eq_false_iff_not]
  exact hn

lemma ofParts_ofNat (n : Nat) : ofParts (ofNat n).high (ofNat n).low = ofNat n := by
  rw [ofNat, high_ofParts, low_ofParts]

lemma ofParts_eq_iff {h : UInt64} {t : TraceId} (ht : ofParts t.high t.low = t) :
    ofParts h t.low = t ↔ h = t.high := by
  constructor
  · intro he
    have hh := congrArg high he
    rwa [high_ofParts] at hh
  · rintro rfl
    exact ht

lemma high_ne_zero {t : TraceId} (ht : ofParts t.high t.low = t) (hw : t.isWide) : t.high ≠ 0 := by
  intro h
  rw [ofParts, if_pos h] at ht
  rw [← ht] at hw
  cases hw

lemma high_eq_zero {t : TraceId} (hw : t.isWide = false) : t.high = 0 := by
  cases t with
  | narrow l => rfl
  | wide h l => cases hw

lemma ofParts_of_high {t : TraceId} (h : t.isWide → t.high ≠ 0) : ofParts t.high t.low = t := by
  cases t with
  | narrow l => exact if_pos rfl
  | wide a l => exact if_neg (h rfl)

lemma toNat_eq_joined (t : TraceId) : t.toNat = (joined t.high t.low).toNat :=
  (toNat_joined t.high t.low).symm

lemma split_toNat (t : TraceId) : split (.ofNat 128 t.toNat) = (t.high, t.low) := by
  rw [toNat_eq_joined, BitVec.ofNat_toNat, BitVec.setWidth_eq, split_joined]

lemma ofNat_toNat {t : TraceId} (ht : ofParts t.high t.low = t) : ofNat t.toNat = t := by
  rw [toNat_eq_joined, ofNat_eq_split, split_joined, ht]

lemma matched_narrow (t : TraceId) : t.matched (narrow t.low) := by
  cases t <;> simp [matched, low]

structure Denotes (t s : Text) (traceId : TraceId) (spanId : UInt64) : Prop where
  traceId_eq : traceId = .ofNat (Text.hexValue t)
  toNat_traceId : traceId.toNat = Text.hexValue t
  toNat_spanId : spanId.toNat = Text.hexValue s

lemma denotes_iff {t s : Text} {traceId : TraceId} {spanId : UInt64}
    (ht : Text.hexValue t < UInt64.size * UInt64.size) (hs : Text.hexValue s < UInt64.size) :
    Denotes t s traceId spanId ↔
      traceId = .ofNat (Text.hexValue t) ∧ spanId = .ofNat (Text.hexValue s) := by
  constructor
  · intro h
    refine ⟨h.traceId_eq, ?_⟩
    rw [← h.toNat_spanId, UInt64.ofNat_toNat]
  · rintro ⟨rfl, rfl⟩
    refine ⟨rfl, toNat_ofNat ht, ?_⟩
    rw [UInt64.toNat_ofNat', Nat.mod_eq_of_lt hs]

section Widths

variable {s t : TraceId}

lemma matched_iff :
    s.matched t ↔
      s.low = t.low ∧ (s.high = t.high ∨ s.isWide = false ∨ t.isWide = false) := by
  cases s with
  | narrow a => cases t <;> simp [matched, low, isWide]
  | wide a b => cases t <;> simp [matched, low, high, isWide, and_comm]

lemma toNat_lt_of_narrow (h : t.isWide = false) : t.toNat < UInt64.size := by
  have hl := t.low.toNat_lt
  rw [toNat, high_eq_zero h, UInt64.toNat_zero, Nat.zero_mul, Nat.zero_add]
  exact hl

lemma hex?_hex (t : TraceId) : Text.hex? t.hex = some t.toNat := by
  rw [hex]
  by_cases h : t.isWide
  · rw [if_pos h]
    exact Text.hex?_hexPadded (by decide) t.toNat_lt
  · rw [if_neg h]
    exact Text.hex?_hexPadded (by decide) (toNat_lt_of_narrow (eq_false_of_ne_true h))

/-- Nothing of an identifier is lost between its halves, its number and its digits, except that one
with a high half of zero becomes narrow. -/
theorem halves_matched_hex (high low : UInt64) (x y : BitVec 128) (s t : TraceId) :
    ((ofParts high low).high = high ∧ (ofParts high low).low = low ∧
      (ofParts high low).toNat = (joined high low).toNat) ∧
    (ofNat x.toNat = ofParts (split x).1 (split x).2 ∧ (ofNat x.toNat).toNat = x.toNat ∧
      (ofNat x.toNat = ofNat y.toNat ↔ x = y)) ∧
    (split (.ofNat 128 t.toNat) = (t.high, t.low) ∧
      (ofParts t.high t.low = t ↔ (t.isWide → t.high ≠ 0))) ∧
    (t.matched t ∧ s.matched t = t.matched s ∧
      (s.matched t ↔
        s.low = t.low ∧ (s.high = t.high ∨ s.isWide = false ∨ t.isWide = false))) ∧
    t.hex.length = (if t.isWide then 32 else 16) ∧ (∀ c ∈ t.hex, Text.isLowerHexDigit c) ∧
      Text.hex? t.hex = some t.toNat := by
  have hp : (ofParts high low).toNat = (joined high low).toNat := by
    rw [toNat_eq_joined, high_ofParts, low_ofParts]
  have hn : ∀ x : BitVec 128, (ofNat x.toNat).toNat = x.toNat := fun x => toNat_ofNat x.isLt
  have hi : ofNat x.toNat = ofNat y.toNat ↔ x = y := by
    constructor
    · intro h
      apply BitVec.eq_of_toNat_eq
      rw [← hn x, h, hn y]
    · rintro rfl
      rfl
  exact ⟨⟨high_ofParts _ _, low_ofParts _ _, hp⟩, ⟨ofNat_eq_split x, hn x, hi⟩,
    ⟨split_toNat t, high_ne_zero, ofParts_of_high⟩,
    ⟨matched_self t, matched_comm s t, matched_iff⟩,
    Text.length_hexPadded _ _, fun _ => Text.mem_hexPadded, hex?_hex t⟩

theorem halves_matched_hex_mixedWidths :
    let s := wide 0x640cb94a00000000 0x4e0f6ab6f3cc9a57
    let t := narrow 0x4e0f6ab6f3cc9a57
    let u := wide 1 0x4e0f6ab6f3cc9a57
    s.matched t ∧ t.matched u ∧ ¬ s.matched u ∧
      s.high ≠ 0 ∧ ofParts s.high s.low = s ∧
      'b' ∈ s.hex ∧ Text.isLowerHexDigit 'b' ∧
      s.hex = "640cb94a000000004e0f6ab6f3cc9a57".toList ∧ Text.hex? s.hex = some s.toNat := by
  intro s t u
  have hm : ∀ a b : TraceId, a.matched b ↔
      a.low = b.low ∧ (a.high = b.high ∨ a.isWide = false ∨ b.isWide = false) :=
    fun a b => (halves_matched_hex 0 0 0 0 a b).2.2.2.1.2.2
  obtain ⟨-, -, ⟨-, hp⟩, -, -, hd, hx⟩ := halves_matched_hex 0 0 0 0 t s
  have hh : s.high ≠ 0 := by decide
  have hb : 'b' ∈ s.hex := by decide
  exact ⟨(hm s t).mpr (by decide), (hm t u).mpr (by decide), (hm s u).not.mpr (by decide), hh,
    hp.mpr fun _ => hh, hb, hd 'b' hb, by decide, hx⟩

end Widths

end TraceHeaders.TraceId
