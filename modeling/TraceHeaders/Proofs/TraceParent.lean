import TraceHeaders.Format.TraceParent
import TraceHeaders.Proofs.Text.Numeral
import TraceHeaders.Proofs.Text.Trim
import TraceHeaders.Proofs.TraceId

namespace TraceHeaders.TraceParent

lemma takeHex?_eq_some_iff {n : Nat} {t s r : Text} :
    takeHex? n t = some (s, r) ↔ t = s ++ r ∧ s.length = n ∧ ∀ c ∈ s, Text.isHexDigit c := by
  unfold takeHex?
  constructor
  · intro h
    split at h
    · next hs =>
      obtain ⟨rfl, rfl⟩ := Prod.mk.inj (Option.some.inj h)
      exact ⟨(List.take_append_drop n t).symm, hs.1, List.all_eq_true.mp hs.2⟩
    · cases h
  · rintro ⟨rfl, hl, hs⟩
    rw [List.take_left' hl, List.drop_left' hl, if_pos ⟨hl, List.all_eq_true.mpr hs⟩]

lemma takeHyphen?_eq_some_iff {t r : Text} : takeHyphen? t = some r ↔ t = '-' :: r := by
  unfold takeHyphen?
  split
  · simp
  · next h =>
    constructor
    · intro hn
      cases hn
    · rintro rfl
      exact absurd rfl (h r)

structure Parts.Formed (p : Parts) : Prop where
  version : p.version.length = 2 ∧ ∀ c ∈ p.version, Text.isHexDigit c
  traceId : p.traceId.length = 32 ∧ ∀ c ∈ p.traceId, Text.isHexDigit c
  spanId : p.spanId.length = 16 ∧ ∀ c ∈ p.spanId, Text.isHexDigit c
  flags : p.flags.length = 2 ∧ ∀ c ∈ p.flags, Text.isHexDigit c
  tail : isTail p.tail

def Parts.text (p : Parts) : Text :=
  p.version ++ '-' :: (p.traceId ++ '-' :: (p.spanId ++ '-' :: (p.flags ++ p.tail)))

lemma parts?_eq_some_iff {t : Text} {p : Parts} : parts? t = some p ↔ p.Formed ∧ t = p.text := by
  unfold parts?
  simp only [Option.bind_eq_bind, Option.bind_eq_some_iff, Prod.exists, takeHex?_eq_some_iff,
    takeHyphen?_eq_some_iff, Option.ite_none_right_eq_some]
  constructor
  · rintro ⟨v, _, ⟨rfl, hv⟩, _, rfl, t, _, ⟨rfl, ht⟩, _, rfl, s, _, ⟨rfl, hs⟩, _, rfl, f, r,
      ⟨rfl, hf⟩, hr, hp⟩
    obtain rfl := Option.some.inj hp
    exact ⟨⟨hv, ht, hs, hf, hr⟩, rfl⟩
  · rintro ⟨h, rfl⟩
    exact ⟨_, _, ⟨rfl, h.version⟩, _, rfl, _, _, ⟨rfl, h.traceId⟩, _, rfl, _, _, ⟨rfl, h.spanId⟩,
      _, rfl, _, _, ⟨rfl, h.flags⟩, h.tail, rfl⟩

def flags (isSampled : Bool) : Text := if isSampled then "01".toList else "00".toList

lemma encode_eq (traceId : TraceId) (spanId : UInt64) (isSampled : Bool) :
    encode traceId spanId isSampled =
      "00".toList ++ '-' :: (Text.hexPadded 32 traceId.toNat ++
        '-' :: (Text.hexWord spanId ++ '-' :: flags isSampled)) := by
  have hj : ∀ a b : Text, "00-".toList ++ a ++ '-' :: b ++
      (if isSampled then "-01".toList else "-00".toList) =
      "00".toList ++ '-' :: (a ++ '-' :: (b ++ '-' :: flags isSampled)) := by
    intro a b
    cases isSampled <;> simp [flags]
  exact hj _ _

lemma parts?_encode (traceId : TraceId) (spanId : UInt64) (isSampled : Bool) :
    parts? (encode traceId spanId isSampled) = some
      ⟨"00".toList, Text.hexPadded 32 traceId.toNat, Text.hexWord spanId, flags isSampled, []⟩ := by
  have hx : ∀ width n : Nat, (Text.hexPadded width n).length = width ∧
      ∀ c ∈ Text.hexPadded width n, Text.isHexDigit c := fun width n =>
    ⟨Text.length_hexPadded width n,
      fun c hc => Text.isHexDigit_of_isLowerHexDigit (Text.mem_hexPadded hc)⟩
  have hv : ∀ c ∈ "00".toList, Text.isHexDigit c := Text.forall_mem_of_all (by decide)
  have hf : ∀ c ∈ flags isSampled, Text.isHexDigit c := by
    apply Text.forall_mem_of_all
    cases isSampled <;> decide
  have hl : (flags isSampled).length = 2 := by cases isSampled <;> rfl
  refine parts?_eq_some_iff.mpr ⟨⟨⟨rfl, hv⟩, hx 32 _, hx 16 _, ⟨hl, hf⟩, rfl⟩, ?_⟩
  rw [encode_eq, Parts.text, List.append_nil]

lemma ofParts_eq_ok_iff {p : Parts} {q : TraceParent} :
    ofParts p = .ok q ↔
      (Text.hex? p.traceId).getD 0 ≠ 0 ∧ (Text.hex? p.spanId).getD 0 ≠ 0 ∧
        q = ⟨(Text.hex? p.traceId).getD 0, .ofNat ((Text.hex? p.spanId).getD 0),
          (Text.hex? p.flags).getD 0 % 2 = 1⟩ := by
  unfold ofParts
  by_cases ht : (Text.hex? p.traceId).getD 0 = 0
  · simp [ht]
  by_cases hs : (Text.hex? p.spanId).getD 0 = 0
  · simp [ht, hs]
  · simp [ht, hs, eq_comm]

lemma value_ofText_eq_ok_iff {t : Text} {q : TraceParent} :
    (ofText t).value = .ok q ↔ ∃ p, parts? t = some p ∧ ¬ Text.sameName p.version "ff".toList ∧
      (p.version = "00".toList → p.tail = []) ∧ ofParts p = .ok q := by
  unfold ofText
  cases parts? t with
  | none =>
    constructor
    · intro h
      cases h
    · rintro ⟨p, hp, -⟩
      cases hp
  | some p =>
    simp only [Option.some.injEq, exists_eq_left']
    by_cases hf : Text.sameName p.version "ff".toList
    · rw [if_pos hf]
      constructor
      · intro h
        cases h
      · exact fun h => absurd hf h.1
    rw [if_neg hf]
    by_cases hv : p.version = "00".toList
    · rw [if_pos hv, Logged.value_pure]
      by_cases ht : p.tail = []
      · rw [if_pos ht]
        exact ⟨fun h => ⟨hf, fun _ => ht, h⟩, fun h => h.2.2⟩
      · rw [if_neg ht]
        constructor
        · intro h
          cases h
        · exact fun h => absurd (h.2.1 hv) ht
    · rw [if_neg hv]
      exact ⟨fun h => ⟨hf, fun h0 => absurd h0 hv, h⟩, fun h => h.2.2⟩

lemma exists_parts_of_ofText {t : Text} {q : TraceParent} (h : (ofText t).value = .ok q) :
    ∃ p, parts? t = some p ∧ ofParts p = .ok q := by
  obtain ⟨p, hp, -, -, hq⟩ := value_ofText_eq_ok_iff.mp h
  exact ⟨p, hp, hq⟩

lemma getD_hex?_lt (t : Text) : (Text.hex? t).getD 0 < 16 ^ t.length := by
  cases hx : Text.hex? t with
  | none => exact Nat.pow_pos (by decide)
  | some n => exact Text.hex?_lt hx

lemma isZero_of_ofText {t : Text} {q : TraceParent} (h : (ofText t).value = .ok q) :
    (TraceId.ofNat q.traceId).isZero = false := by
  obtain ⟨p, hp, hq⟩ := exists_parts_of_ofText h
  obtain ⟨hz, -, rfl⟩ := ofParts_eq_ok_iff.mp hq
  have hlt := getD_hex?_lt p.traceId
  rw [(parts?_eq_some_iff.mp hp).1.traceId.1] at hlt
  exact TraceId.isZero_ofNat hlt hz

lemma spanId_ne_zero_of_ofText {t : Text} {q : TraceParent} (h : (ofText t).value = .ok q) :
    q.spanId ≠ 0 := by
  obtain ⟨p, hp, hq⟩ := exists_parts_of_ofText h
  obtain ⟨-, hz, rfl⟩ := ofParts_eq_ok_iff.mp hq
  have hlt := getD_hex?_lt p.spanId
  rw [(parts?_eq_some_iff.mp hp).1.spanId.1] at hlt
  exact mt (Text.ofNat_eq_zero_iff hlt).mp hz

def flagDigits (t : Text) : Text := (t.drop 53).take 2

lemma Parts.Formed.flagDigits_text {p : Parts} (h : p.Formed) : flagDigits p.text = p.flags := by
  have hj : p.text =
      (p.version ++ '-' :: (p.traceId ++ '-' :: (p.spanId ++ ['-']))) ++ (p.flags ++ p.tail) := by
    simp [Parts.text]
  have hl : (p.version ++ '-' :: (p.traceId ++ '-' :: (p.spanId ++ ['-']))).length = 53 := by
    simp [h.version.1, h.traceId.1, h.spanId.1]
  rw [flagDigits, hj, List.drop_left' hl, List.take_left' h.flags.1]

lemma exists_flags_of_ofText {t : Text} {q : TraceParent} (h : (ofText t).value = .ok q) :
    ∃ flags, Text.hex? (flagDigits t) = some flags ∧ q.isSampled = flags.testBit 0 := by
  obtain ⟨p, hp, hq⟩ := exists_parts_of_ofText h
  obtain ⟨-, -, rfl⟩ := ofParts_eq_ok_iff.mp hq
  obtain ⟨hf, rfl⟩ := parts?_eq_some_iff.mp hp
  obtain ⟨n, hn⟩ := Text.exists_digitsFrom hf.flags.2 0
  have hx : Text.hex? p.flags = some n := by
    refine Text.hex?_eq_some_iff.mpr ⟨?_, hn⟩
    exact List.ne_nil_of_length_pos (by rw [hf.flags.1]; decide)
  refine ⟨n, ?_, ?_⟩
  · rw [hf.flagDigits_text, hx]
  · simp only [hx, Option.getD_some, Nat.testBit_zero]

lemma ofText_encode {traceId : TraceId} {spanId : UInt64} (ht : traceId.isZero = false)
    (hs : spanId ≠ 0) (isSampled : Bool) :
    (ofText (encode traceId spanId isSampled)).value = .ok ⟨traceId.toNat, spanId, isSampled⟩ := by
  have hw : Text.hex? (Text.hexPadded 32 traceId.toNat) = some traceId.toNat :=
    Text.hex?_hexPadded (by decide) traceId.toNat_lt
  have hf : Text.hex? (flags isSampled) = some isSampled.toNat := by cases isSampled <;> decide
  have hb : decide (isSampled.toNat % 2 = 1) = isSampled := by cases isSampled <;> rfl
  have hz : spanId.toNat ≠ 0 := fun h => hs (UInt64.toNat_inj.mp h)
  have hv : ¬ Text.sameName "00".toList "ff".toList := by decide
  refine value_ofText_eq_ok_iff.mpr
    ⟨_, parts?_encode traceId spanId isSampled, hv, fun _ => rfl, ?_⟩
  rw [ofParts_eq_ok_iff]
  simp only [hw, Text.hex?_hexWord, hf, Option.getD_some, hb, UInt64.ofNat_toNat]
  exact ⟨of_decide_eq_false ht, hz, trivial⟩

lemma trim_encode (traceId : TraceId) (spanId : UInt64) (isSampled : Bool) :
    Text.trim (encode traceId spanId isSampled) = encode traceId spanId isSampled := by
  have hf : ∀ c ∈ flags isSampled, Text.isBlank c = false := by
    apply Text.forall_mem_of_all
    cases isSampled <;> decide
  apply Text.trim_of_not_blank
  intro c hc
  rw [encode_eq] at hc
  simp only [List.mem_append, List.mem_cons] at hc
  obtain hc | rfl | hc | rfl | hc | rfl | hc := hc
  · revert c
    apply Text.forall_mem_of_all
    decide
  · rfl
  · exact Text.not_blank_of_isLowerHexDigit (Text.mem_hexPadded hc)
  · rfl
  · exact Text.not_blank_of_isLowerHexDigit (Text.mem_hexPadded hc)
  · rfl
  · exact hf c hc

end TraceHeaders.TraceParent
