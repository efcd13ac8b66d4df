import TraceHeaders.Proofs.Datadog.Headers
import TraceHeaders.Proofs.Datadog.HighHalf
import TraceHeaders.Proofs.TraceId
import TraceHeaders.Proofs.TraceState.Reading

namespace TraceHeaders

namespace TraceContext

structure Read (c : Context) : Prop where
  traceId : TraceId.ofParts c.traceId.high c.traceId.low = c.traceId
  baggage : c.baggage = ∅
  tags : ∀ e ∈ c.tagSet.tags.entries, TagSet.Carried e

lemma read_of_extract {v : HeaderView} {c : Context}
    (h : (extract v).value = some (.complete c)) : Read c := by
  obtain ⟨t, p, -, -, rfl⟩ := extract_eq_complete_iff.mp h
  refine ⟨TraceId.ofParts_ofNat p.traceId, rfl, ?_⟩
  change ∀ e ∈ (Option.getD (Option.map Prod.snd (readState v).value) {}).tags.entries,
    TagSet.Carried e
  cases hs : (readState v).value with
  | none =>
    intro e he
    cases he
  | some s =>
    obtain ⟨values, hr⟩ := exists_read_of_readState hs
    exact TraceState.carried_read hr

end TraceContext

namespace Datadog

variable {c : Context}

lemma mem_outgoingTags {e : Text × Text} (he : e ∈ (outgoingTags c).tags.entries) :
    e = (TagSet.highHalfKey, Text.hexWord c.traceId.high) ∨ e ∈ c.tagSet.tags.entries := by
  rw [outgoingTags] at he
  split at he
  · exact mem_insertEntry he
  · exact .inr he

lemma carried_highHalf (w : UInt64) : TagSet.Carried (TagSet.highHalfKey, Text.hexWord w) := by
  have hk : ∀ ch ∈ TagSet.highHalfKey, TagSet.isValueChar ch :=
    Text.forall_mem_of_all (by decide)
  refine ⟨⟨"tid".toList, rfl⟩, hk, fun ch hc => ?_⟩
  exact TagSet.isValueChar_of_isLowerHexDigit (Text.mem_hexPadded hc)

lemma carried_outgoingTags (h : ∀ e ∈ c.tagSet.tags.entries, TagSet.Carried e) :
    ∀ e ∈ (outgoingTags c).tags.entries, TagSet.Carried e := by
  intro e he
  obtain rfl | he := mem_outgoingTags he
  · exact carried_highHalf c.traceId.high
  · exact h e he

/-- When the trace identifier survives the way: a wide one needs its high half to be read, and a
narrow one needs that no tag is read as a high half. -/
structure KeepsTraceId (c : Context) : Prop where
  wide : c.traceId.isWide → TagSet.HighHalfReadable (outgoingTags c).tags
  narrow : c.traceId.isWide = false → TagSet.HighHalfReadable c.tagSet.tags →
    ∀ t, c.tagSet.get? TagSet.highHalfKey = some t → isHighHalf t → Text.hex? t = some 0

lemma traceId_received_iff {h : UInt64} (hc : TraceId.ofParts c.traceId.high c.traceId.low = c.traceId)
    (hr : TagSet.HighHalfReadable (outgoingTags c).tags →
      h = highHalfOf ((outgoingTags c).get? TagSet.highHalfKey))
    (hn : ¬ TagSet.HighHalfReadable (outgoingTags c).tags → h = 0) :
    TraceId.ofParts h c.traceId.low = c.traceId ↔ KeepsTraceId c := by
  rw [TraceId.ofParts_eq_iff hc]
  cases hw : c.traceId.isWide with
  | true =>
    have hz := TraceId.high_ne_zero hc hw
    have hg : (outgoingTags c).get? TagSet.highHalfKey = some (Text.hexWord c.traceId.high) := by
      rw [outgoingTags, if_pos hw]
      exact Dict.get?_insert_self _ _ _
    rw [hg, highHalfOf_hexWord] at hr
    constructor
    · intro hh
      refine ⟨fun _ => ?_, fun hf => absurd (hw.symm.trans hf) (by decide)⟩
      by_contra hu
      exact hz (hh.symm.trans (hn hu))
    · exact fun hk => hr (hk.wide hw)
  | false =>
    rw [TraceId.high_eq_zero hw]
    have ho : outgoingTags c = c.tagSet := by
      rw [outgoingTags, if_neg (by simp [hw])]
    rw [ho] at hr hn
    constructor
    · rintro rfl
      refine ⟨fun hf => absurd (hw.symm.trans hf) (by decide), fun _ hu => ?_⟩
      exact highHalfOf_eq_zero_iff.mp (hr hu).symm
    · intro hk
      by_cases hu : TagSet.HighHalfReadable c.tagSet.tags
      · rw [hr hu, highHalfOf_eq_zero_iff]
        exact hk.narrow hw hu
      · exact hn hu

lemma keepsTraceId_of_keys
    (h : ∀ e ∈ c.tagSet.tags.entries,
      TagSet.isKey e.1 ∧ '=' ∉ e.1 ∧ e.1 ≠ TagSet.highHalfKey) : KeepsTraceId c := by
  have hm : ∀ e ∈ (outgoingTags c).tags.entries, TagSet.isKey e.1 ∧ '=' ∉ e.1 := by
    intro e he
    obtain rfl | he := mem_outgoingTags he
    · exact (by decide : TagSet.isKey TagSet.highHalfKey ∧ '=' ∉ TagSet.highHalfKey)
    · exact ⟨(h e he).1, (h e he).2.1⟩
  refine ⟨fun _ => ⟨fun e he => ?_, fun e he hp => ?_⟩, fun _ _ t ht _ => ?_⟩
  · rw [TagSet.arriving_of_not_mem (hm e he).2]
    exact (hm e he).1
  · exact (hm e he).2 (hp.subset (by decide))
  · exact absurd rfl (h _ (Dict.mem_entries_iff.mpr ht)).2.2

/-- The span, the priority and the low half of the trace identifier pass a hop that reads one style
and writes the other. The whole identifier passes exactly if no tag is in its way. -/
theorem extract_inject_gateway {v₀ v : HeaderView} {c : Context} {b : Bool} {limit : Nat}
    (hc : (TraceContext.extract v₀).value = some (.complete c)) (h0 : c.traceId.low ≠ 0)
    (hl : Text.byteLength (TagSet.encode (outgoingTags c).tags) ≤ limit)
    (hv : Delivered (inject b limit c).value v) :
    ∃ r, (extract b limit v).value = some (.complete r) ∧
      r.traceId.low = c.traceId.low ∧
      r.spanId = c.spanId ∧
      r.sampling.priority = c.sampling.priority ∧
      (r.traceId = c.traceId ↔ KeepsTraceId c) ∧
      ((∀ e ∈ c.tagSet.tags.entries,
        TagSet.isKey e.1 ∧ '=' ∉ e.1 ∧ e.1 ≠ TagSet.highHalfKey) → KeepsTraceId c) := by
  have hr := TraceContext.read_of_extract hc
  obtain ⟨ht, he⟩ := value_extract_headers b limit h0 (shows_headers hv)
  obtain ⟨h₁, h₂⟩ := highHalf_received (carried_outgoingTags hr.tags) hl ht
  refine ⟨_, he, TraceId.low_ofParts _ _, rfl, rfl, ?_, keepsTraceId_of_keys⟩
  exact traceId_received_iff hr.traceId h₁ h₂

def incoming (high : Char) (state : Text) : HeaderView :=
  Snapshot.view ⟨
    [("traceparent".toList, "00-000000000000000".toList ++
      high :: "0000000000000005-0000000000000007-01".toList),
    ("tracestate".toList, state)]⟩

def incomingContext (traceId : TraceId) (state : Text) (tags : List (Text × Text)) : Context :=
  { traceId
    spanId := 7
    style := .traceContext
    sampling := .ofPriority 1
    tagSet := { tags := .ofList tags, traceState := some state } }

set_option maxRecDepth 10000 in
theorem extract_inject_gateway_incoming :
    let c := incomingContext (.wide 1 5) "dd=t.x:a~b,v=1".toList
      [("_dd.p.x".toList, "a=b".toList)]
    (TraceContext.extract (incoming '1' "dd=t.x:a~b,v=1".toList)).value = some (.complete c) ∧
      c.traceId.low ≠ 0 ∧
      Text.byteLength (TagSet.encode (outgoingTags c).tags) ≤ 512 ∧
      Delivered (inject true 512 c).value (Snapshot.view ⟨(inject true 512 c).value⟩) ∧
      ∃ r, (extract true 512 (Snapshot.view ⟨(inject true 512 c).value⟩)).value =
          some (.complete r) ∧
        r.traceId.low = c.traceId.low ∧
        r.spanId = c.spanId ∧
        r.sampling.priority = c.sampling.priority ∧
        (r.traceId = c.traceId ↔ KeepsTraceId c) ∧
        ((∀ e ∈ c.tagSet.tags.entries,
          TagSet.isKey e.1 ∧ '=' ∉ e.1 ∧ e.1 ≠ TagSet.highHalfKey) → KeepsTraceId c) := by
  intro c
  have hc : (TraceContext.extract (incoming '1' "dd=t.x:a~b,v=1".toList)).value =
      some (.complete c) := by
    decide
  exact ⟨hc, by decide, by decide, .list,
    extract_inject_gateway hc (by decide) (by decide) .list⟩

set_option maxRecDepth 10000 in
theorem traceId_widened_by_tag :
    ¬ ∀ (v₀ v : HeaderView) (c : Context) (b : Bool) (limit : Nat),
      (TraceContext.extract v₀).value = some (.complete c) → c.traceId.low ≠ 0 →
      Text.byteLength (TagSet.encode (outgoingTags c).tags) ≤ limit →
      Delivered (inject b limit c).value v →
      ∃ r, (extract b limit v).value = some (.complete r) ∧ r.traceId = c.traceId := by
  intro h
  have hc : (TraceContext.extract (incoming '0' "dd=t.tid:0000000000000001".toList)).value =
      some (.complete (incomingContext (.narrow 5) "dd=t.tid:0000000000000001".toList
        [("_dd.p.tid".toList, "0000000000000001".toList)])) := by
    decide
  obtain ⟨r, hr, ht⟩ := h _ _ _ true 512 hc (by decide) (by decide) .list
  have he : ((extract true 512 (Snapshot.view ⟨(inject true 512
      (incomingContext (.narrow 5) "dd=t.tid:0000000000000001".toList
        [("_dd.p.tid".toList, "0000000000000001".toList)])).value⟩)).value.bind
      Finding.context?).map (·.traceId) = some (.wide 1 5) := by
    decide
  rw [hr] at he
  exact absurd (ht.symm.trans (Option.some.inj he)) (by decide)

end Datadog

end TraceHeaders
