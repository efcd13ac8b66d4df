import TraceHeaders.Proofs.B3
import TraceHeaders.Proofs.Haystack
import TraceHeaders.Proofs.Reconcile.Provenance
import TraceHeaders.Proofs.TraceId
import TraceHeaders.Proofs.TraceParent

/-! No codec takes zero for a trace identifier, except after a plus sign in the Datadog header. -/

namespace TraceHeaders

namespace Datadog

variable {v : HeaderView}

def SignedZero (v : HeaderView) : Prop :=
  ∃ t zeros, v.get? traceIdName = some t ∧ Text.trim t = '+' :: zeros ∧ isZeros zeros

lemma isZeros_iff {t : Text} : isZeros t ↔ Text.decimal? t = some 0 := by
  rw [Text.decimal?_eq_zero_iff, isZeros, Bool.and_eq_true, List.all_eq_true]
  simp

lemma natural?_eq_zero_iff {t : Text} (hz : isZeros t = false) :
    Text.natural? t = some 0 ↔ ∃ zeros, t = '+' :: zeros ∧ isZeros zeros := by
  unfold Text.natural?
  split
  · next r => simp [isZeros_iff]
  · next h =>
    rw [← isZeros_iff, hz]
    constructor
    · intro hf
      cases hf
    · rintro ⟨zeros, ht, -⟩
      exact absurd ht (h zeros)

lemma traceId_eq_zero_iff : traceId v = .ok 0 ↔ SignedZero v := by
  unfold traceId SignedZero
  cases v.get? traceIdName with
  | none => simp
  | some t =>
    simp only [Option.map_some, Option.some.injEq, exists_and_left, exists_eq_left']
    by_cases hz : isZeros (Text.trim t)
    · rw [if_pos hz]
      constructor
      · intro h
        cases h
      · rintro ⟨zeros, ht, -⟩
        rw [ht] at hz
        cases hz
    · rw [if_neg hz, ← natural?_eq_zero_iff (Bool.eq_false_iff.mpr hz), ← Text.uint64?_eq_zero_iff]
      cases Text.uint64? (Text.trim t) <;> simp

end Datadog

structure Identified (v : HeaderView) (style : Style) (t : TraceId) : Prop where
  isZero_iff : t.isZero ↔ style = .datadog ∧ t.high = 0 ∧ Datadog.SignedZero v
  low_eq_zero_iff : style = .datadog → (t.low = 0 ↔ Datadog.SignedZero v)

namespace Identified

variable {v : HeaderView} {style : Style} {t : TraceId}

lemma of_isZero (hs : style ≠ .datadog) (ht : t.isZero = false) : Identified v style t :=
  ⟨by simp [hs, ht], fun h => absurd h hs⟩

lemma of_low (h : t.low = 0 ↔ Datadog.SignedZero v) : Identified v .datadog t :=
  ⟨by rw [TraceId.isZero_iff, h]; simp, fun _ => h⟩

end Identified

lemma B3.isZero_of_ids {a b : Option Text} {t : TraceId} {s : UInt64} (h : ids a b = .ok (t, s)) :
    t.isZero = false := by
  obtain ⟨m, n, hm, -, rfl, -⟩ := ids_eq_ok_iff.mp h
  obtain ⟨u, -, hu⟩ := Option.bind_eq_some_iff.mp hm
  exact TraceId.isZero_ofNat (id?_lt hu) (id?_eq_some_iff.mp hu).2.2

lemma Settings.identified {s : Settings} {style : Style} {v : HeaderView} {c : Context}
    (h : ((s.codec style).extract v).value = some (.complete c)) : Identified v style c.traceId := by
  cases style with
  | datadog =>
    obtain ⟨low, parent, p, ht, -, rfl⟩ := Datadog.extract_eq_complete_iff.mp h
    apply Identified.of_low
    rw [Datadog.contextOf, TraceId.low_ofParts, ← Datadog.traceId_eq_zero_iff, ht]
    simp
  | b3multi =>
    obtain ⟨t, i, st, hi, _, rfl⟩ := B3.extractMulti_eq_complete_iff.mp h
    exact .of_isZero (by decide) (B3.isZero_of_ids hi)
  | b3single =>
    obtain ⟨header, t, i, st, _, _, hr, rfl⟩ := B3.extractSingle_eq_complete_iff.mp h
    obtain ⟨a, b, hi⟩ := B3.exists_ids_of_readSingle hr
    exact .of_isZero (by decide) (B3.isZero_of_ids hi)
  | traceContext =>
    obtain ⟨t, p, _, hp, rfl⟩ := TraceContext.extract_eq_complete_iff.mp h
    exact .of_isZero (by decide) (TraceParent.isZero_of_ofText hp)
  | haystack =>
    obtain ⟨t, i, hi, rfl⟩ := Haystack.extract_eq_complete_iff.mp h
    have ht := Haystack.id_ne_zero (Haystack.ids_eq_ok_iff.mp hi).1
    exact .of_isZero (by decide) (TraceId.isZero_of_low ht)
  | xray =>
    obtain ⟨t, r, _, _, hc⟩ := Xray.extract_eq_complete_iff.mp h
    obtain ⟨t, i, ht, _, rfl⟩ := Xray.context_eq_ok_iff.mp hc
    have hn := (Option.filter_eq_some_iff.mp ht).2
    exact .of_isZero (by decide) (TraceId.isZero_of_low (of_decide_eq_true hn))
  | none => cases h

theorem Extractor.identified_extract (s : Settings) (styles : List Style) (first : Bool)
    (headers : Snapshot) {r : Context}
    (hr : (extract ⟨s.registrations styles, first⟩ headers).value = some (.complete r)) :
    Identified headers.view r.style r.traceId ∧
      ∀ l ∈ r.links, ∃ style : Style,
        l.attributes.get? "context_headers".toList = some style.name ∧
          Identified headers.view style l.traceId := by
  have hq : ∀ style ∈ styles, ∀ c,
      ((s.codec style).extract headers.view).value = some (.complete c) →
        Identified headers.view c.style c.traceId := by
    intro style _ c hc
    rw [(Settings.fresh hc).style_eq]
    exact Settings.identified hc
  obtain ⟨⟨c, hc, hw⟩, hl⟩ := Reconcile.grown_extract s styles first headers hq hr
  constructor
  · rw [hw]
    exact hc
  · intro l hm
    obtain ⟨d, hd, rfl⟩ := hl l hm
    exact ⟨d.style, Reconcile.style_terminated d, hd⟩

def signedZeroHeaders : Snapshot :=
  ⟨[("x-b3-traceid".toList, "a".toList), ("x-b3-spanid".toList, "b".toList),
    ("x-datadog-trace-id".toList, "+0".toList), ("x-datadog-parent-id".toList, "7".toList)]⟩

set_option maxRecDepth 10000 in
theorem Extractor.identified_extract_signedZero :
    let r : Context :=
      { traceId := .narrow 10
        spanId := 11
        style := .b3multi
        links := [.terminated { traceId := .narrow 0, spanId := 7, style := .datadog }] }
    (extract ⟨Settings.registrations {} [.b3multi, .datadog], false⟩ signedZeroHeaders).value =
        some (.complete r) ∧
      Identified signedZeroHeaders.view r.style r.traceId ∧
        ∀ l ∈ r.links, ∃ style : Style,
          l.attributes.get? "context_headers".toList = some style.name ∧
            Identified signedZeroHeaders.view style l.traceId := by
  intro r
  have hr : (extract ⟨Settings.registrations {} [.b3multi, .datadog], false⟩
      signedZeroHeaders).value = some (.complete r) := by
    decide
  exact ⟨hr, identified_extract {} _ _ _ hr⟩

set_option maxRecDepth 10000 in
theorem Extractor.isZero_of_signedZero :
    ¬ ∀ (s : Settings) (headers : Snapshot) (r : Context),
      ((ofSettings s).value.extract headers).value = some (.complete r) →
        r.traceId.isZero = false := by
  intro h
  have hz := h {} ⟨[("x-datadog-trace-id".toList, "+0".toList),
    ("x-datadog-parent-id".toList, "7".toList)]⟩
    { traceId := .narrow 0, spanId := 7, style := .datadog } (by decide)
  exact absurd hz (by decide)

end TraceHeaders
