import TraceHeaders.Format.Baggage
import TraceHeaders.Proofs.Text.Trim

/-! No reader that a header passes on its way changes what percent coding writes. -/

namespace TraceHeaders.Text.Percent

def upperDigits : Text := "0123456789ABCDEF".toList

inductive Coded : Text → Prop
  | nil : Coded []
  | plain {c : Char} {t : Text} : c.isAlphanum ∨ c ∈ ['.', '-', '*', '_'] → Coded t → Coded (c :: t)
  | escape {high low : Char} {t : Text} : high ∈ upperDigits → low ∈ upperDigits → Coded t →
      Coded ('%' :: high :: low :: t)

structure Inert (t : Text) : Prop where
  trim : trim t = t
  comma : t.splitOn ',' = [t]
  semicolon : t.splitOn ';' = [t]
  plus : replace '+' ' ' t = t

section Coded

variable {s t : Text} {c : Char}

lemma isPlain_iff : isPlain c ↔ c.isAlphanum ∨ c ∈ ['.', '-', '*', '_'] := by
  simp [isPlain, or_assoc]

lemma isPlain_of_mem_upperDigits (h : c ∈ upperDigits) : isPlain c := by
  revert c
  apply forall_mem_of_all
  decide

lemma upperHexDigit_mem {n : Nat} (h : n < 16) : upperHexDigit n ∈ upperDigits := by
  revert n
  decide

lemma toNat_of_isPlain (h : isPlain c) : 0x20 < c.toNat ∧ c.toNat < 0x7F := by
  rw [isPlain_iff] at h
  rcases h with h | h
  · -- The classes of letters and digits are ranges of code points.
    have hr : (decide (65 ≤ c.val ∧ c.val ≤ 90) ||
        decide (97 ≤ c.val) && decide (c.val ≤ 122)) ||
        decide (48 ≤ c.val) && decide (c.val ≤ 57) := h
    simp only [Bool.or_eq_true, Bool.and_eq_true, decide_eq_true_eq, UInt32.le_iff_toNat_le] at hr
    change ((65 ≤ c.toNat ∧ c.toNat ≤ 90) ∨ (97 ≤ c.toNat ∧ c.toNat ≤ 122)) ∨
      (48 ≤ c.toNat ∧ c.toNat ≤ 57) at hr
    omega
  · revert c
    apply forall_mem_of_all
    decide

namespace Coded

lemma append (hs : Coded s) (ht : Coded t) : Coded (s ++ t) := by
  induction hs with
  | nil => exact ht
  | plain hc _ ih => exact .plain hc ih
  | escape hh hl _ ih => exact .escape hh hl ih

lemma of_mem (h : Coded t) (hc : c ∈ t) : isPlain c ∨ c = '%' := by
  induction h with
  | nil => cases hc
  | plain hp _ ih =>
    rcases List.mem_cons.mp hc with rfl | hc
    · exact .inl (isPlain_iff.mpr hp)
    · exact ih hc
  | escape hh hl _ ih =>
    rw [List.mem_cons, List.mem_cons, List.mem_cons] at hc
    rcases hc with rfl | rfl | rfl | hc
    · exact .inr rfl
    · exact .inl (isPlain_of_mem_upperDigits hh)
    · exact .inl (isPlain_of_mem_upperDigits hl)
    · exact ih hc

lemma not_mem (h : Coded t) (hp : isPlain c = false) (hc : c ≠ '%') : c ∉ t := by
  intro hm
  rcases h.of_mem hm with hf | hf
  · exact ne_of_isPlain hf hp rfl
  · exact hc hf

lemma inert (h : Coded t) : Inert t where
  trim := by
    apply trim_of_not_blank
    intro c hc
    rcases h.of_mem hc with hp | rfl
    · exact not_blank_of_toNat (toNat_of_isPlain hp).1 (toNat_of_isPlain hp).2
    · rfl
  comma := List.splitOn_eq_singleton (h.not_mem (by decide) (by decide))
  semicolon := List.splitOn_eq_singleton (h.not_mem (by decide) (by decide))
  plus := replace_of_not_mem (h.not_mem (by decide) (by decide))

end Coded

lemma coded_escapeByte (b : UInt8) : Coded (escapeByte b) := by
  have hb := b.toNat_lt
  exact .escape (upperHexDigit_mem (by omega)) (upperHexDigit_mem (by omega)) .nil

lemma coded_flatMap {α : Type} {f : α → Text} (xs : List α) (h : ∀ x ∈ xs, Coded (f x)) :
    Coded (xs.flatMap f) := by
  induction xs with
  | nil => exact .nil
  | cons x xs ih =>
    obtain ⟨hx, h⟩ := List.forall_mem_cons.mp h
    rw [List.flatMap_cons]
    exact hx.append (ih h)

lemma coded_encodeChar (c : Char) : Coded (encodeChar c) := by
  rw [encodeChar]
  split
  · next h => exact .plain (isPlain_iff.mp h) .nil
  · exact coded_flatMap _ fun b _ => coded_escapeByte b

lemma coded_encode (t : Text) : Coded (encode t) := coded_flatMap t fun c _ => coded_encodeChar c

end Coded

theorem decode_encode_inert (t : Text) :
    Baggage.decode (encode t) = pure t ∧ Coded (encode t) ∧ Inert (encode t) := by
  have hd : Baggage.decode (encode t) = pure t := by rw [Baggage.decode, decode_encode]
  exact ⟨hd, coded_encode t, (coded_encode t).inert⟩

end TraceHeaders.Text.Percent
