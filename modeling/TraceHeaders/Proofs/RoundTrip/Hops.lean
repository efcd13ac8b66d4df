import TraceHeaders.Proofs.RoundTrip.TraceContext
import TraceHeaders.Proofs.TraceState.Foreign
import Mathlib.Logic.Relation

/-! The members of other vendors pass through any number of services. -/

namespace TraceHeaders.TraceContext

open TraceState (isPrintableAscii others delivered)

/-- The headers of one context are read and the result is passed on as another context. The trace
identifier and the `tracestate` are kept as they were read; the rest can be replaced. -/
structure Hop (c d : Context) : Prop where
  spanId : d.spanId ≠ 0
  kept : ∃ v r, Delivered (inject c).value v ∧ (extract v).value = some (.complete r) ∧
    d.traceId = r.traceId ∧ d.tagSet.traceState = r.tagSet.traceState

structure Passing (ms : List Text) (c : Context) : Prop extends Sendable c where
  members : others c.tagSet.traceState = ms

namespace Passing

variable {ms : List Text} {c d : Context} {v : HeaderView}

lemma exists_kept (h : Passing ms c) (hv : Delivered (inject c).value v) :
    ∃ r, (extract v).value = some (.complete r) ∧ r.traceId = .ofNat c.traceId.toNat ∧
      r.tagSet.traceState = some (delivered c) := by
  obtain ⟨p, hi, -, -, he⟩ := h.exists_extract hv
  refine ⟨_, he, ?_, rfl⟩
  rw [← hi]
  rfl

lemma hop (h : Passing ms c) (hd : Hop c d) : Passing ms d := by
  obtain ⟨hs, v, r, hv, hr, ht, hts⟩ := hd
  obtain ⟨r', hr', hi, hst⟩ := h.exists_kept hv
  obtain rfl : r = r' := Finding.complete.inj (Option.some.inj (hr.symm.trans hr'))
  rw [hst] at hts
  refine ⟨⟨?_, hs, fun t he ch hc => ?_⟩, ?_⟩
  · rw [ht, hi]
    exact TraceId.isZero_ofNat c.traceId.toNat_lt (of_decide_eq_false h.traceId)
  · obtain rfl := Option.some.inj (hts.symm.trans he)
    exact List.all_eq_true.mp (TraceState.printable_delivered h.printable) ch hc
  · rw [hts, ← TraceState.foreign_eq_others, TraceState.foreign_delivered,
      TraceState.foreignMembers_eq_others, h.members]

lemma run (h : Passing ms c) (hd : Relation.ReflTransGen Hop c d) : Passing ms d := by
  induction hd with
  | refl => exact h
  | tail _ hs ih => exact ih.hop hs

lemma lists_inject (h : Passing ms c) :
    ∃ parent state, (inject c).value = [(parentName, parent), (stateName, state)] ∧
      TraceState.Lists state ms := by
  rw [value_inject, headers_eq h.traceId h.spanId]
  exact ⟨_, _, rfl, h.members ▸ TraceState.lists_encode c⟩

end Passing

/-- After any number of hops the header lists the same members of other vendors, and each hop can be
followed by another one. -/
theorem lists_others_hops {c : Context} (ht : c.traceId.isZero = false) (hs : c.spanId ≠ 0) :
    (∃ parent state, (inject c).value = [(parentName, parent), (stateName, state)] ∧
      TraceState.Lists state (others c.tagSet.traceState)) ∧
    ((∀ t, c.tagSet.traceState = some t → ∀ ch ∈ t, isPrintableAscii ch) →
      ∀ d, Relation.ReflTransGen Hop c d →
        (∃ parent state, (inject d).value = [(parentName, parent), (stateName, state)] ∧
          TraceState.Lists state (others c.tagSet.traceState)) ∧
        ∀ v, Delivered (inject d).value v → ∃ r, (extract v).value = some (.complete r)) := by
  constructor
  · rw [value_inject, headers_eq ht hs]
    exact ⟨_, _, rfl, TraceState.lists_encode c⟩
  · intro hp d hd
    have h : Passing (others c.tagSet.traceState) d := Passing.run ⟨⟨ht, hs, hp⟩, rfl⟩ hd
    refine ⟨h.lists_inject, fun v hv => ?_⟩
    obtain ⟨r, hr, -⟩ := h.exists_kept hv
    exact ⟨r, hr⟩

def crowdedContext : Context where
  traceId := .wide 1 5
  spanId := 7
  style := .traceContext
  tagSet := { traceState := some "v=1, ,dd=s:0,w=2".toList }

def crowdedReply : Context where
  traceId := .wide 1 5
  spanId := 9
  style := .traceContext
  sampling := .ofPriority 2
  origin := some "a,dd=b".toList
  tagSet :=
    { tags := .ofList [("_dd.p.x,dd".toList, "1,dd=2".toList)]
      traceState := some "dd=p:0000000000000007,v=1,w=2".toList }

lemma passing_crowdedContext : Passing ["v=1".toList, "w=2".toList] crowdedContext where
  traceId := by decide
  spanId := by decide
  printable t h := by
    obtain rfl : "v=1, ,dd=s:0,w=2".toList = t := Option.some.inj h
    exact Text.forall_mem_of_all (by decide)
  members := by decide

set_option maxRecDepth 10000 in
lemma hop_crowdedContext : Hop crowdedContext crowdedReply := by
  have hv : Delivered (inject crowdedContext).value
      (HeaderMap.view (HeaderMap.setAll ∅ (inject crowdedContext).value)) := .map
  obtain ⟨r, hr, ht, hs⟩ := passing_crowdedContext.exists_kept hv
  exact ⟨by decide, _, r, hv, hr, ht.symm, hs.symm⟩

theorem lists_others_hops_crowdedContext :
    crowdedContext.traceId.isZero = false ∧ crowdedContext.spanId ≠ 0 ∧
      (∀ t, crowdedContext.tagSet.traceState = some t → ∀ ch ∈ t, isPrintableAscii ch) ∧
      Relation.ReflTransGen Hop crowdedContext crowdedReply ∧
      ∃ parent state, (inject crowdedReply).value = [(parentName, parent), (stateName, state)] ∧
        TraceState.Lists state ["v=1".toList, "w=2".toList] := by
  have h := passing_crowdedContext
  have hd : Relation.ReflTransGen Hop crowdedContext crowdedReply := .single hop_crowdedContext
  refine ⟨h.traceId, h.spanId, h.printable, hd, ?_⟩
  have hl := ((lists_others_hops h.traceId h.spanId).2 h.printable crowdedReply hd).1
  rwa [h.members] at hl

end TraceHeaders.TraceContext
