import TraceHeaders.Proofs.Datadog.HighHalf
import TraceHeaders.Proofs.Findings
import TraceHeaders.Proofs.TagSet.Decoding

/-! What becomes of the tag that holds the high half of a trace identifier. -/

namespace TraceHeaders

namespace TagSet

lemma error_ofHeader (limit : Nat) (header : Text) :
    (ofHeader limit header).value.error = none ∨
      ∃ f ∈ [Fault.disabled, .tooLong, .undecodable],
        (ofHeader limit header).value.error = some f.message := by
  have h := outcome_ofHeader limit header
  generalize (ofHeader limit header).value = s at h
  cases h with
  | disabled => exact .inr ⟨.disabled, by decide, rfl⟩
  | tooLong => exact .inr ⟨.tooLong, by decide, rfl⟩
  | undecodable | undecided => exact .inr ⟨.undecodable, by decide, rfl⟩
  | decoded => exact .inl rfl

end TagSet

namespace Datadog

variable {b : Bool} {limit : Nat} {v : HeaderView} {c : Context}

def received (limit : Nat) (v : HeaderView) : TagSet :=
  ((v.get? tagsName).map fun header => (TagSet.ofHeader limit header).value).getD {}

structure HighHalf (t : Text) : Prop where
  length : t.length = 16
  lower : ∀ ch ∈ t, Text.isLowerHexDigit ch
  nonzero : ∃ ch ∈ t, ch ≠ '0'

inductive Folding (s : TagSet) (low : UInt64) : TraceId → Option Text → Prop
  | absent : s.get? TagSet.highHalfKey = none → Folding s low (.narrow low) s.error
  | folded {t : Text} {high : UInt64} : s.get? TagSet.highHalfKey = some t → HighHalf t →
      high.toNat = Text.hexValue t → Folding s low (.wide high low) s.error
  | malformed {t : Text} : s.get? TagSet.highHalfKey = some t → ¬ HighHalf t →
      Folding s low (.narrow low) (some ("malformed_tid ".toList ++ t))

def zeros : Text := List.replicate 16 '0'

lemma value_tagSet (limit : Nat) (v : HeaderView) : (tagSet limit v).value = received limit v := by
  rw [tagSet, received]
  cases v.get? tagsName <;> rfl

lemma error_received_ne (limit : Nat) (v : HeaderView) :
    (received limit v).error ≠ some ("malformed_tid ".toList ++ zeros) := by
  unfold received
  cases v.get? tagsName with
  | none => exact nofun
  | some header =>
    have hm : ∀ f ∈ [TagSet.Fault.disabled, .tooLong, .undecodable],
        some f.message ≠ some ("malformed_tid ".toList ++ zeros) := by
      decide
    rw [Option.map_some, Option.getD_some]
    rcases TagSet.error_ofHeader limit header with h | ⟨f, hf, h⟩
    · rw [h]
      exact nofun
    · rw [h]
      exact hm f hf

lemma isHighHalf_iff {t : Text} : isHighHalf t ↔ HighHalf t ∨ t = zeros := by
  rw [isHighHalf, Bool.and_eq_true, decide_eq_true_eq, List.all_eq_true]
  constructor
  · rintro ⟨hl, hd⟩
    by_cases hn : ∃ ch ∈ t, ch ≠ '0'
    · exact .inl ⟨hl, hd, hn⟩
    · push Not at hn
      refine .inr ?_
      rw [List.eq_replicate_of_mem hn, hl]
      rfl
  · rintro (h | rfl)
    · exact ⟨h.length, h.lower⟩
    · exact ⟨rfl, Text.forall_mem_of_all (by decide)⟩

lemma not_highHalf_zeros : ¬ HighHalf zeros := by
  intro h
  obtain ⟨ch, hc, hn⟩ := h.nonzero
  exact hn (List.eq_of_mem_replicate hc)

lemma HighHalf.digits {t : Text} (h : HighHalf t) : ∀ ch ∈ t, Text.isHexDigit ch :=
  fun ch hc => Text.isHexDigit_of_isLowerHexDigit (h.lower ch hc)

lemma HighHalf.toNat_highHalfOf {t : Text} (h : HighHalf t) :
    (highHalfOf (some t)).toNat = Text.hexValue t := by
  have hi := isHighHalf_iff.mpr (.inl h)
  have ht : t ≠ [] := List.ne_nil_of_length_pos (by rw [h.length]; decide)
  have hlt := Text.hexValue_lt h.digits
  rw [h.length] at hlt
  simp only [highHalfOf, Option.filter_some, hi, if_true, Option.elim_some,
    Text.hex?_eq_hexValue ht h.digits, Option.getD_some]
  exact UInt64.toNat_ofNat_of_lt hlt

lemma HighHalf.highHalfOf_ne_zero {t : Text} (h : HighHalf t) : highHalfOf (some t) ≠ 0 := by
  have hn := (Text.identifying_iff h.digits).mp ⟨h.digits, h.nonzero⟩
  rw [← h.toNat_highHalfOf] at hn
  exact fun h0 => hn (UInt64.toNat_inj.mpr h0)

section TakeHighHalf

variable {s : TagSet} {t : Text}

lemma takeHighHalf_of_absent (hs : s.get? TagSet.highHalfKey = none) :
    (takeHighHalf s).value = (0, s) := by
  simp only [takeHighHalf, hs]
  rfl

lemma takeHighHalf_of_isHighHalf (hs : s.get? TagSet.highHalfKey = some t) (ht : isHighHalf t) :
    (takeHighHalf s).value = (highHalfOf (some t), s.erase TagSet.highHalfKey) := by
  simp only [takeHighHalf, hs, ht, if_true, highHalfOf, Option.filter_some]
  rfl

lemma takeHighHalf_of_malformed (hs : s.get? TagSet.highHalfKey = some t) (ht : ¬ isHighHalf t) :
    (takeHighHalf s).value = (0, { s.erase TagSet.highHalfKey with
      error := some ("malformed_tid ".toList ++ t) }) := by
  simp only [takeHighHalf, hs, if_neg ht]
  rfl

lemma get?_takeHighHalf (s : TagSet) (k : Text) :
    (takeHighHalf s).value.2.get? k = if k = TagSet.highHalfKey then none else s.get? k := by
  have he : (s.erase TagSet.highHalfKey).get? k =
      if k = TagSet.highHalfKey then none else s.get? k := by
    rw [TagSet.get?, TagSet.erase, Dict.get?_erase]
    simp only [eq_comm]
    rfl
  cases hs : s.get? TagSet.highHalfKey with
  | none =>
    rw [takeHighHalf_of_absent hs]
    split
    · next hk => rw [hk, hs]
    · rfl
  | some t =>
    by_cases ht : isHighHalf t
    · rw [takeHighHalf_of_isHighHalf hs ht, he]
    · rw [takeHighHalf_of_malformed hs ht]
      exact he

lemma folding_takeHighHalf (low : UInt64) (hs : s.get? TagSet.highHalfKey ≠ some zeros) :
    Folding s low (.ofParts (takeHighHalf s).value.1 low) (takeHighHalf s).value.2.error := by
  cases hg : s.get? TagSet.highHalfKey with
  | none =>
    rw [takeHighHalf_of_absent hg]
    exact .absent hg
  | some t =>
    rw [hg, Ne, Option.some.injEq] at hs
    by_cases ht : HighHalf t
    · rw [takeHighHalf_of_isHighHalf hg (isHighHalf_iff.mpr (.inl ht)), TraceId.ofParts,
        if_neg ht.highHalfOf_ne_zero]
      exact .folded hg ht ht.toNat_highHalfOf
    · have hi : ¬ isHighHalf t := fun hi => (isHighHalf_iff.mp hi).elim ht hs
      rw [takeHighHalf_of_malformed hg hi]
      exact .malformed hg ht

lemma takeHighHalf_of_zeros (hs : s.get? TagSet.highHalfKey = some zeros) :
    (takeHighHalf s).value = (0, s.erase TagSet.highHalfKey) := by
  rw [takeHighHalf_of_isHighHalf hs (isHighHalf_iff.mpr (.inr rfl))]
  rfl

lemma Folding.error_of_zeros {low : UInt64} {traceId : TraceId} {error : Option Text}
    (h : Folding s low traceId error) (hs : s.get? TagSet.highHalfKey = some zeros) :
    error = some ("malformed_tid ".toList ++ zeros) := by
  cases h with
  | absent hn => cases hs.symm.trans hn
  | folded hg ht _ =>
    obtain rfl := Option.some.inj (hs.symm.trans hg)
    exact absurd ht not_highHalf_zeros
  | malformed hg _ =>
    obtain rfl := Option.some.inj (hs.symm.trans hg)
    rfl

end TakeHighHalf

lemma exists_of_traceId {low : UInt64} (h : traceId v = .ok low) :
    ∃ header, v.get? traceIdName = some header ∧ Text.uint64? (Text.trim header) = some low := by
  unfold traceId at h
  cases hg : v.get? traceIdName with
  | none =>
    rw [hg] at h
    cases h
  | some header =>
    refine ⟨header, rfl, ?_⟩
    rw [hg, Option.map_some] at h
    split at h
    · next hn => cases hn
    next t ht =>
    obtain rfl := Option.some.inj ht
    split at h
    · cases h
    split at h
    · next n hn => rw [hn, Except.ok.inj h]
    · cases h

/-- The tag never stays among the others, and what is folded or reported is as told, unless the tag
holds sixteen zeros. Those are dropped without a report. -/
theorem folding_extract_iff (h : (extract b limit v).value = some (.complete c)) :
    ∃ header low, v.get? traceIdName = some header ∧
      Text.uint64? (Text.trim header) = some low ∧
      (∀ k, c.tagSet.get? k =
        if k = TagSet.highHalfKey then none else (received limit v).get? k) ∧
      (Folding (received limit v) low c.traceId c.tagSet.error ↔
        (received limit v).get? TagSet.highHalfKey ≠ some zeros) ∧
      ((received limit v).get? TagSet.highHalfKey = some zeros →
        c.traceId = .narrow low ∧ c.tagSet.error = (received limit v).error) := by
  obtain ⟨low, parent, p, ht, -, rfl⟩ := extract_eq_complete_iff.mp h
  obtain ⟨header, hg, hu⟩ := exists_of_traceId ht
  rw [contextOf, value_tagSet]
  have hz : (received limit v).get? TagSet.highHalfKey = some zeros →
      TraceId.ofParts (takeHighHalf (received limit v)).value.1 low = .narrow low ∧
        (takeHighHalf (received limit v)).value.2.error = (received limit v).error := by
    intro hs
    rw [takeHighHalf_of_zeros hs]
    exact ⟨rfl, rfl⟩
  refine ⟨header, low, hg, hu, get?_takeHighHalf _, ⟨fun hf hs => ?_, folding_takeHighHalf low⟩, hz⟩
  have he := hf.error_of_zeros hs
  rw [(hz hs).2] at he
  exact error_received_ne limit v he

def undecidedHeaders : Snapshot :=
  ⟨[("X-Datadog-Trace-Id".toList, " 7 ".toList),
    ("x-datadog-tags".toList, "_dd.p.dm=4,_dd.p.tid=00000000000000ff,_dd.p.x=y".toList)]⟩

def undecidedContext : Context where
  traceId := .wide 255 7
  spanId := 0
  style := .datadog
  tagSet := {
    tags := .ofList [("_dd.p.x".toList, ['y'])]
    error := some "decoding_error".toList }

set_option maxRecDepth 10000 in
theorem folding_extract_iff_undecidedHeaders :
    let v := undecidedHeaders.view
    let c := undecidedContext
    (extract true 512 v).value = some (.complete c) ∧
      ∃ header low, v.get? traceIdName = some header ∧
        Text.uint64? (Text.trim header) = some low ∧
        (∀ k, c.tagSet.get? k =
          if k = TagSet.highHalfKey then none else (received 512 v).get? k) ∧
        (Folding (received 512 v) low c.traceId c.tagSet.error ↔
          (received 512 v).get? TagSet.highHalfKey ≠ some zeros) ∧
        ((received 512 v).get? TagSet.highHalfKey = some zeros →
          c.traceId = .narrow low ∧ c.tagSet.error = (received 512 v).error) := by
  intro v c
  have hc : (extract true 512 v).value = some (.complete c) := by decide
  exact ⟨hc, folding_extract_iff hc⟩

set_option maxRecDepth 10000 in
theorem zeros_unreported :
    ¬ ∀ (b : Bool) (limit : Nat) (headers : Snapshot) (c : Context),
      (extract b limit headers.view).value = some (.complete c) →
        ∃ low, Folding (received limit headers.view) low c.traceId c.tagSet.error := by
  intro h
  obtain ⟨low, hf⟩ := h true 512 ⟨[("x-datadog-trace-id".toList, ['5']),
    ("x-datadog-parent-id".toList, ['7']),
    ("x-datadog-tags".toList, "_dd.p.tid=0000000000000000".toList)]⟩
    { traceId := .narrow 5, spanId := 7, style := .datadog } (by decide)
  have he := hf.error_of_zeros (by decide)
  exact absurd he (by decide)

end Datadog

end TraceHeaders
