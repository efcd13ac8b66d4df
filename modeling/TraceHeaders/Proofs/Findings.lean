import TraceHeaders.Propagator
import Mathlib.Data.List.Basic
import Mathlib.Tactic.Common

/-! When a codec reports a complete context, and which of its parts the codec can set. -/

namespace TraceHeaders

lemma RequestTags.finding?_ne_complete (style : Style) (v : HeaderView) (origin : Option Text)
    (baggage : Dict Text) (c : Context) : finding? style v origin baggage ≠ some (.complete c) := by
  unfold finding?
  split <;> simp

lemma RequestTags.collect_congr {v w : HeaderView}
    (h : ∀ n ∈ wholeHeaders ++ firstHopHeaders, v.get? n = w.get? n) : collect v = collect w := by
  have ht : ∀ read, ∀ n ∈ wholeHeaders ++ firstHopHeaders, tag? v read n = tag? w read n := by
    intro read n hn
    rw [tag?, tag?, h n hn]
  rw [collect, collect,
    List.filterMap_congr fun n hn => ht Text.trimmed? n (List.mem_append_left _ hn),
    List.filterMap_congr fun n hn => ht firstValue? n (List.mem_append_right _ hn)]

lemma RequestTags.finding?_congr {v w : HeaderView} (h : collect v = collect w) (style : Style)
    (origin : Option Text) (baggage : Dict Text) :
    finding? style v origin baggage = finding? style w origin baggage := by
  rw [finding?, finding?, h]

namespace Datadog

def contextOf (baggageEnabled : Bool) (limit : Nat) (v : HeaderView) (low parent : UInt64)
    (priority : Option Int8) : Context :=
  let folded := (takeHighHalf (tagSet limit v).value).value
  { traceId := .ofParts folded.1 low
    spanId := parent
    style := .datadog
    sampling := ({ priority } : Sampling).withDecisionMaker folded.2.decisionMaker
    origin := origin? v
    tagSet := folded.2
    baggage := (extractBaggage baggageEnabled v).value
    requestTags := RequestTags.collect v }

lemma extract_eq_complete_iff {b : Bool} {limit : Nat} {v : HeaderView} {c : Context} :
    (extract b limit v).value = some (.complete c) ↔
      ∃ low parent p, traceId v = .ok low ∧ parentAndPriority v = .ok (parent, p) ∧
        c = contextOf b limit v low parent p := by
  simp only [extract, Logged.value_bind]
  rcases ht : traceId v with e | low
  · simp [RequestTags.finding?_ne_complete]
  rcases hp : parentAndPriority v with e | ⟨parent, p⟩
  · simp
  · simp [contextOf, eq_comm]

end Datadog

namespace B3

lemma extractMulti_eq_complete_iff {v : HeaderView} {c : Context} :
    (extractMulti v).value = some (.complete c) ↔
      ∃ t s st, ids (v.get? traceIdName) (v.get? spanIdName) = .ok (t, s) ∧
        multiState v = .ok st ∧ c = context .b3multi v t s st := by
  simp only [extractMulti]
  rcases hi : ids (v.get? traceIdName) (v.get? spanIdName) with e | ⟨t, s⟩
  · simp [RequestTags.finding?_ne_complete]
  rcases hs : multiState v with e | st
  · simp
  · simp [eq_comm]

lemma extractSingle_eq_complete_iff {v : HeaderView} {c : Context} :
    (extractSingle v).value = some (.complete c) ↔
      ∃ header t s st, (v.get? singleName).map Text.trim = some header ∧ header ≠ ['0'] ∧
        readSingle header = .ok (t, s, st) ∧ c = context .b3single v t s st := by
  simp only [extractSingle]
  rcases hh : (v.get? singleName).map Text.trim with _ | header
  · simp [RequestTags.finding?_ne_complete]
  by_cases h0 : header = ['0']
  · simp [h0]
  rcases hr : readSingle header with e | ⟨t, s, st⟩
  · simp [h0, hr, RequestTags.finding?_ne_complete]
  · simp [h0, hr, eq_comm]

end B3

namespace TraceContext

lemma extract_eq_complete_iff {v : HeaderView} {c : Context} :
    (extract v).value = some (.complete c) ↔
      ∃ t p, (v.get? parentName).map Text.trim = some t ∧
        (TraceParent.ofText t).value = .ok p ∧ c = context v p (readState v).value := by
  simp only [extract]
  rcases ht : (v.get? parentName).map Text.trim with _ | t
  · simp [RequestTags.finding?_ne_complete]
  simp only [Logged.value_bind]
  rcases hp : (TraceParent.ofText t).value with e | p
  · simp [hp, RequestTags.finding?_ne_complete]
  · simp [hp, eq_comm]

lemma extract_congr {v w : HeaderView} (hp : v.get? parentName = w.get? parentName)
    (hs : readState v = readState w) (hc : RequestTags.collect v = RequestTags.collect w) :
    extract v = extract w := by
  have hx : ∀ p s, context v p s = context w p s := by
    intro p s
    rw [context, context, hc]
  simp only [extract, hp, hs, hx, RequestTags.finding?_congr hc]

lemma exists_read_of_readState {v : HeaderView} {s : Text × TraceState.Own}
    (h : (readState v).value = some s) : ∃ values, (TraceState.read values).value = some s := by
  unfold readState at h
  split at h
  · cases h
  · exact ⟨_, h⟩

end TraceContext

namespace Haystack

lemma extract_eq_complete_iff {mapping : Dict Text} {v : HeaderView} {c : Context} :
    (extract mapping v).value = some (.complete c) ↔
      ∃ t s, ids v = .ok (t, s) ∧
        c = {
          traceId := .narrow t
          spanId := s
          style := .haystack
          sampling := .ofPriority Sampling.autoKeep
          baggage := (Baggage.extract (baggageKey? mapping) v).value
          requestTags := RequestTags.collect v } := by
  simp only [extract, Logged.value_bind]
  rcases hi : ids v with e | ⟨t, s⟩
  · simp [RequestTags.finding?_ne_complete]
  · simp [eq_comm]

end Haystack

namespace Xray

lemma extract_eq_complete_iff {v : HeaderView} {c : Context} :
    (extract v).value = some (.complete c) ↔
      ∃ t r, v.get? headerName = some t ∧ Reading.readAll {} (fields t) = .ok r ∧
        r.context (RequestTags.collect v) = .ok c := by
  simp only [extract]
  rcases ht : v.get? headerName with _ | t
  · simp [RequestTags.finding?_ne_complete]
  rcases hf : Reading.readAll {} (fields t) with e | r
  · simp [readHeader, hf, Except.bind, RequestTags.finding?_ne_complete]
  rcases hc : r.context (RequestTags.collect v) with e | d
  · simp [readHeader, hf, hc, Except.bind, RequestTags.finding?_ne_complete]
  · simp [readHeader, hf, hc, Except.bind]

lemma context_eq_ok_iff {r : Reading} {tags : Dict Text} {c : Context} :
    r.context tags = .ok c ↔
      ∃ t s, r.traceId.filter (· ≠ 0) = some t ∧ r.spanId.filter (· ≠ 0) = some s ∧
        c = {
          traceId := .narrow t
          spanId := s
          style := .xray
          sampling := r.sampling
          origin := r.origin
          baggage := r.baggage
          requestTags := tags } := by
  unfold Reading.context
  cases r.traceId.filter (· ≠ 0) <;> cases r.spanId.filter (· ≠ 0) <;> simp [eq_comm]

end Xray

structure Context.Fresh (style : Style) (c : Context) : Prop where
  style_eq : c.style = style
  links_eq : c.links = []
  traceState_eq : style ≠ .traceContext → c.tagSet.traceState = none
  lastParent_eq : style ≠ .traceContext → c.tagSet.lastParent = none

namespace TagSet

lemma checkDecisionMaker_value (s : TagSet) :
    ∃ tags error, s.checkDecisionMaker.value = { s with tags, error } := by
  unfold checkDecisionMaker
  split
  · exact ⟨s.tags, s.error, rfl⟩
  split
  · exact ⟨s.tags, s.error, rfl⟩
  · exact ⟨_, _, rfl⟩

lemma ofHeader_value (limit : Nat) (header : Text) :
    ∃ tags error, (ofHeader limit header).value = { tags, error } := by
  unfold ofHeader
  split
  · exact ⟨_, _, rfl⟩
  split
  · exact ⟨_, _, rfl⟩
  split
  · exact ⟨_, _, rfl⟩
  · exact checkDecisionMaker_value _

end TagSet

namespace Datadog

lemma tagSet_value (limit : Nat) (v : HeaderView) :
    ∃ tags error, (tagSet limit v).value = { tags, error } := by
  unfold tagSet
  split
  · exact ⟨_, _, rfl⟩
  · exact TagSet.ofHeader_value ..

lemma takeHighHalf_value (s : TagSet) :
    ∃ tags error, (takeHighHalf s).value.2 = { s with tags, error } := by
  unfold takeHighHalf
  split
  · exact ⟨s.tags, s.error, rfl⟩
  split
  · exact ⟨_, s.error, rfl⟩
  · exact ⟨_, _, rfl⟩

lemma fresh {b : Bool} {limit : Nat} {v : HeaderView} {c : Context}
    (h : (extract b limit v).value = some (.complete c)) : c.Fresh .datadog := by
  obtain ⟨low, parent, p, _, _, rfl⟩ := extract_eq_complete_iff.mp h
  obtain ⟨tags, error, ht⟩ := tagSet_value limit v
  obtain ⟨tags', error', hs⟩ := takeHighHalf_value (tagSet limit v).value
  rw [ht] at hs
  refine ⟨rfl, rfl, fun _ => ?_, fun _ => ?_⟩ <;> simp only [contextOf, ht, hs]

end Datadog

lemma Settings.fresh {s : Settings} {style : Style} {v : HeaderView} {c : Context}
    (h : ((s.codec style).extract v).value = some (.complete c)) : c.Fresh style := by
  cases style with
  | datadog => exact Datadog.fresh h
  | b3multi =>
    obtain ⟨t, i, st, _, _, rfl⟩ := B3.extractMulti_eq_complete_iff.mp h
    exact ⟨rfl, rfl, fun _ => rfl, fun _ => rfl⟩
  | b3single =>
    obtain ⟨header, t, i, st, _, _, _, rfl⟩ := B3.extractSingle_eq_complete_iff.mp h
    exact ⟨rfl, rfl, fun _ => rfl, fun _ => rfl⟩
  | traceContext =>
    obtain ⟨t, p, _, _, rfl⟩ := TraceContext.extract_eq_complete_iff.mp h
    exact ⟨rfl, rfl, fun hs => absurd rfl hs, fun hs => absurd rfl hs⟩
  | haystack =>
    obtain ⟨t, i, _, rfl⟩ := Haystack.extract_eq_complete_iff.mp h
    exact ⟨rfl, rfl, fun _ => rfl, fun _ => rfl⟩
  | xray =>
    obtain ⟨t, r, _, _, hc⟩ := Xray.extract_eq_complete_iff.mp h
    obtain ⟨t, i, _, _, rfl⟩ := Xray.context_eq_ok_iff.mp hc
    exact ⟨rfl, rfl, fun _ => rfl, fun _ => rfl⟩
  | none => cases h

end TraceHeaders
