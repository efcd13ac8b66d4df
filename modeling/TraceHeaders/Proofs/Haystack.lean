import TraceHeaders.Proofs.Delivery
import TraceHeaders.Proofs.Findings
import TraceHeaders.Proofs.Text.Numeral

namespace TraceHeaders.Haystack

variable {v : HeaderView}

lemma length_digits? {t d : Text} (h : digits? t = some d) : d.length = 16 := by
  unfold digits? at h
  split at h
  · split at h
    · next hs =>
      simp only [isHex, Bool.and_eq_true, decide_eq_true_eq] at hs
      obtain rfl := Option.some.inj h
      rw [List.length_append, hs.1.2.1, hs.2.1]
    · cases h
  · split at h
    · next hs =>
      simp only [isHex, Bool.and_eq_true, decide_eq_true_eq] at hs
      obtain rfl := Option.some.inj h
      exact hs.1
    · cases h

lemma id_eq_ok_iff {name : Text} {w : UInt64} :
    id v name = .ok w ↔
      ∃ t n, v.get? name = some t ∧ (digits? (Text.trim t)).bind Text.hex? = some n ∧ n ≠ 0 ∧
        w = .ofNat n := by
  unfold id
  cases v.get? name with
  | none => simp
  | some t =>
    rcases hd : (digits? (Text.trim t)).bind Text.hex? with _ | n
    · simp [hd]
    · by_cases hn : n = 0 <;> simp [hd, hn, eq_comm]

lemma id_ne_zero {name : Text} {w : UInt64} (h : id v name = .ok w) : w ≠ 0 := by
  obtain ⟨t, n, -, hd, hn, rfl⟩ := id_eq_ok_iff.mp h
  obtain ⟨d, hl, hx⟩ := Option.bind_eq_some_iff.mp hd
  have hlt := Text.hex?_lt hx
  rw [length_digits? hl] at hlt
  exact mt (Text.ofNat_eq_zero_iff hlt).mp hn

lemma ids_eq_ok_iff {t s : UInt64} :
    ids v = .ok (t, s) ↔
      id v traceIdName = .ok t ∧ id v spanIdName = .ok s ∧
        ((v.get? parentIdName).isSome → ∃ p, id v parentIdName = .ok p) := by
  unfold ids
  rcases id v traceIdName with e | a
  · simp [bind, Except.bind]
  rcases id v spanIdName with e | b
  · simp [bind, Except.bind]
  by_cases hp : (v.get? parentIdName).isSome
  · rcases id v parentIdName with e | d <;> simp [bind, Except.bind, pure, Except.pure, hp]
  · simp [bind, Except.bind, pure, Except.pure, hp]

section Written

variable {c : Context}

lemma hex?_uuidDigits (w : UInt64) :
    Text.hex? (Text.hexPadded 4 (w.toNat / 0x1000000000000) ++ Text.hexPadded 12 w.toNat) =
      some w.toNat := by
  have hlt := w.toNat_lt
  refine Text.hex?_eq_some_iff.mpr ⟨?_, ?_⟩
  · apply List.append_ne_nil_of_left_ne_nil
    exact List.ne_nil_of_length_pos (by rw [Text.length_hexPadded]; decide)
  · rw [Text.digitsFrom_append, Text.digitsFrom_hexPadded, Option.bind_some,
      Text.digitsFrom_hexPadded]
    have h₄ : Nat.pow 16 4 = 0x10000 := rfl
    have h₁₂ : Nat.pow 16 12 = 0x1000000000000 := rfl
    rw [h₄, h₁₂]
    congr 1
    omega

lemma isHex_hexPadded (width n : Nat) : isHex width (Text.hexPadded width n) :=
  Text.formed_hexPadded width n

lemma digits?_uuid (w : UInt64) : digits? (uuid w) =
    some (Text.hexPadded 4 (w.toNat / 0x1000000000000) ++ Text.hexPadded 12 w.toNat) := by
  have hd : ∀ width n, '-' ∉ Text.hexPadded width n := Text.not_mem_hexPadded (by decide)
  have hf := isHex_hexPadded 4 (w.toNat / 0x1000000000000)
  have ht := isHex_hexPadded 12 w.toNat
  have hx := hd 4 (w.toNat / 0x1000000000000)
  have hy := hd 12 w.toNat
  rw [uuid]
  generalize Text.hexPadded 4 (w.toNat / 0x1000000000000) = x at hf hx ⊢
  generalize Text.hexPadded 12 w.toNat = y at ht hy ⊢
  have hj : ['-'].intercalate ["44617461".toList, "646f".toList, "6721".toList, x, y] =
      uuidStart ++ x ++ '-' :: y := by
    rw [List.intercalate_cons_cons, List.intercalate_cons_cons, List.intercalate_cons_cons,
      List.intercalate_cons_cons, List.intercalate_singleton, List.append_assoc x,
      List.append_assoc uuidStart]
    rfl
  have hn : ∀ p ∈ ["44617461".toList, "646f".toList, "6721".toList, x, y], '-' ∉ p := by
    simp only [List.forall_mem_cons]
    exact ⟨by decide, by decide, by decide, hx, hy, fun _ h => nomatch h⟩
  have hs : isHex 8 "44617461".toList ∧ isHex 4 "646f".toList ∧ isHex 4 "6721".toList := by
    decide
  rw [digits?, ← hj, List.splitOn_intercalate '-' hn (List.cons_ne_nil _ _)]
  simp only [hs, hf, ht, Bool.and_self, if_true]

lemma trim_uuid (w : UInt64) : Text.trim (uuid w) = uuid w := by
  apply Text.trim_of_not_blank
  intro ch hc
  rw [uuid, List.mem_append, List.mem_append, List.mem_cons] at hc
  obtain (hc | hc) | rfl | hc := hc
  · revert ch
    apply Text.forall_mem_of_all
    decide
  · exact Text.not_blank_of_isLowerHexDigit (Text.mem_hexPadded hc)
  · rfl
  · exact Text.not_blank_of_isLowerHexDigit (Text.mem_hexPadded hc)

lemma id_uuid {name : Text} {w : UInt64} (hv : v.get? name = some (uuid w)) (hw : w ≠ 0) :
    id v name = .ok w := by
  refine id_eq_ok_iff.mpr ⟨uuid w, w.toNat, hv, ?_, ?_, UInt64.ofNat_toNat.symm⟩
  · rw [trim_uuid, digits?_uuid, Option.bind_some, hex?_uuidDigits]
  · exact fun h => hw (UInt64.toNat_inj.mp h)

def names : List Text := [traceIdName, spanIdName, parentIdName]

def identity (c : Context) : List Header :=
  [(traceIdName, uuid c.traceId.low), (spanIdName, uuid c.spanId)]

lemma names_identity (c : Context) : ((identity c).map (·.1)).Sublist names :=
  List.sublist_append_left [traceIdName, spanIdName] [parentIdName]

lemma inject_empty (c : Context) :
    inject ∅ c = identity c ++ Baggage.inject (baggageStart ++ ·) c.baggage :=
  rfl

lemma ids_shown (hl : c.traceId.low ≠ 0) (hs : c.spanId ≠ 0) (hv : Shows v (identity c) names) :
    ids v = .ok (c.traceId.low, c.spanId) := by
  have h₁ := (hv traceIdName (by decide)).1
  have h₂ := (hv spanIdName (by decide)).1
  have h₃ := (hv parentIdName (by decide)).1
  refine ids_eq_ok_iff.mpr ⟨id_uuid h₁ hl, id_uuid h₂ hs, fun hp => ?_⟩
  rw [h₃] at hp
  cases hp

end Written

end TraceHeaders.Haystack
