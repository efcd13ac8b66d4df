import TraceHeaders.Proofs.RoundTrip.TraceContext
import TraceHeaders.Proofs.TraceState.Settled

/-! A context that was read in the W3C style is written in a form that further services leave as it
is. -/

namespace TraceHeaders.TraceContext

open TraceState (Settled delivered isKeyChar kept keptDict)

variable {c r : Context} {v : HeaderView}

structure Received (c : Context) : Prop extends Sendable c where
  priority : c.sampling.priority.isSome

lemma received_of_extract (h : (extract v).value = some (.complete c)) : Received c := by
  obtain ⟨t, p, -, hp, rfl⟩ := extract_eq_complete_iff.mp h
  refine ⟨⟨TraceParent.isZero_of_ofText hp, TraceParent.spanId_ne_zero_of_ofText hp, ?_⟩, rfl⟩
  intro text ht
  obtain ⟨s, hs, rfl⟩ := Option.map_eq_some_iff.mp ht
  obtain ⟨values, hr⟩ := exists_read_of_readState hs
  exact List.all_eq_true.mp (TraceState.exists_items_of_read hr).1

lemma settled_of_extract (h : (extract v).value = some (.complete c))
    (hk : ∀ e ∈ c.tagSet.tags.entries, ∀ ch ∈ e.1.drop TagSet.keyStart.length, isKeyChar ch) :
    Settled c := by
  obtain ⟨t, p, -, -, rfl⟩ := extract_eq_complete_iff.mp h
  cases hs : (readState v).value with
  | none =>
    rw [hs] at hk
    exact TraceState.settled_of_readAll (t := []) (List.forall_mem_nil _) rfl rfl hk
  | some s =>
    rw [hs] at hk
    obtain ⟨values, hr⟩ := exists_read_of_readState hs
    obtain ⟨-, t, ht, ho⟩ := TraceState.exists_items_of_read hr
    refine TraceState.settled_of_readAll ht ?_ ?_ hk
    · rw [← ho]
      rfl
    · rw [← ho]
      rfl

structure Echo (c r : Context) : Prop where
  traceId : r.traceId.toNat = c.traceId.toNat
  spanId : r.spanId = c.spanId
  priority : r.sampling.priority = c.sampling.priority
  origin : r.origin = c.origin
  tags : r.tagSet.tags = keptDict c
  traceState : r.tagSet.traceState = some (delivered c)

lemma Received.exists_echo (h : Received c) (hs : Settled c) (hv : Delivered (inject c).value v) :
    ∃ r, (extract v).value = some (.complete r) ∧ Echo c r := by
  obtain ⟨p, hi, hw, hb, he⟩ := h.exists_extract hv
  rw [hs.value_readAll] at he
  refine ⟨_, he, ?_, hw, ?_, rfl, rfl, rfl⟩
  · change (TraceId.ofNat p.traceId).toNat = _
    rw [hi, TraceId.toNat_ofNat c.traceId.toNat_lt]
  · obtain ⟨q, hq⟩ := Option.isSome_iff_exists.mp h.priority
    change some (TraceContext.priority p.isSampled c.sampling.priority) = _
    rw [hb, priority_own, hq, Option.getD_some]

lemma Echo.headers_eq (h : Echo c r) (hs : Settled c) : headers r = headers c := by
  have hp : TraceParent.encode r.traceId r.spanId (r.sampling.isSampled = some true) =
      TraceParent.encode c.traceId c.spanId (c.sampling.isSampled = some true) := by
    rw [TraceParent.encode_eq, TraceParent.encode_eq, h.traceId, h.spanId, Sampling.isSampled,
      Sampling.isSampled, h.priority]
  have hz : r.traceId.isZero = c.traceId.isZero := by
    rw [TraceId.isZero, TraceId.isZero, h.traceId]
  unfold headers
  rw [hp, hz, h.spanId,
    hs.value_encode_eq h.priority h.origin h.spanId h.tags h.traceState]

/-- What is written of a context that was read is read and written again as it is, whatever was cut,
left out or missing the first time, unless a key of a tag changes on the way out. -/
theorem inject_extract_inject {u : HeaderView} (hc : (extract u).value = some (.complete c))
    (hk : ∀ e ∈ c.tagSet.tags.entries, ∀ ch ∈ e.1.drop TagSet.keyStart.length, isKeyChar ch)
    (hv : Delivered (inject c).value v) :
    (inject c).value.map (·.1) = names ∧
      ∃ r, (extract v).value = some (.complete r) ∧ (inject r).value = (inject c).value := by
  have h := received_of_extract hc
  have hs := settled_of_extract hc hk
  obtain ⟨r, hr, he⟩ := h.exists_echo hs hv
  refine ⟨?_, r, hr, ?_⟩
  · rw [value_inject, headers_eq h.traceId h.spanId]
    rfl
  · rw [value_inject, value_inject, he.headers_eq hs]

def fullState : Text :=
  "v=1,dd=o:a~b ;s:2;t.x: y~z;t.dm:-4;t.w:w;t.u:".toList ++ List.replicate 200 'u' ++
    (List.replicate 33 ",w=2".toList).flatten

def fullHeaders : Snapshot :=
  ⟨[(parentName, "00-00000000000000010000000000000005-0000000000000007-01".toList),
    (stateName, fullState)]⟩

def fullContext : Context where
  traceId := .wide 1 5
  spanId := 7
  style := .traceContext
  sampling := { priority := some 2, mechanism := some 4 }
  origin := some "a=b".toList
  tagSet :=
    { tags := .ofList
        [("_dd.p.x".toList, " y=z".toList), ("_dd.p.dm".toList, "-4".toList),
          ("_dd.p.w".toList, ['w']), ("_dd.p.u".toList, List.replicate 200 'u')]
      traceState := some fullState }

set_option maxRecDepth 10000 in
theorem inject_extract_inject_fullContext :
    (extract fullHeaders.view).value = some (.complete fullContext) ∧
      (∀ e ∈ fullContext.tagSet.tags.entries,
        ∀ ch ∈ e.1.drop TagSet.keyStart.length, isKeyChar ch) ∧
      (kept fullContext).map (·.1) = ["_dd.p.dm".toList, "_dd.p.u".toList, "_dd.p.w".toList] ∧
      Delivered (inject fullContext).value (Snapshot.view ⟨(inject fullContext).value⟩) ∧
      (inject fullContext).value.map (·.1) = names ∧
      ∃ r, (extract (Snapshot.view ⟨(inject fullContext).value⟩)).value = some (.complete r) ∧
        (inject r).value = (inject fullContext).value := by
  have hc : (extract fullHeaders.view).value = some (.complete fullContext) := by decide +kernel
  have hk : ∀ e ∈ fullContext.tagSet.tags.entries,
      ∀ ch ∈ e.1.drop TagSet.keyStart.length, isKeyChar ch := by
    intro e he
    apply Text.forall_mem_of_all
    revert e
    decide +kernel
  exact ⟨hc, hk, by decide +kernel, .list, inject_extract_inject hc hk .list⟩

end TraceHeaders.TraceContext
