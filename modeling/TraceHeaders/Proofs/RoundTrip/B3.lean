import TraceHeaders.Proofs.B3

namespace TraceHeaders

namespace RequestTags

variable {v : HeaderView}

lemma collect_eq_empty (h : ∀ n ∈ wholeHeaders ++ firstHopHeaders, v.get? n = none) :
    collect v = ∅ := by
  have hf : ∀ read, ∀ n ∈ wholeHeaders ++ firstHopHeaders, tag? v read n = none := by
    intro read n hn
    rw [tag?, h n hn]
    rfl
  have hw : wholeHeaders.filterMap (tag? v Text.trimmed?) = [] :=
    List.filterMap_eq_nil_iff.mpr fun n hn => hf _ n (List.mem_append_left _ hn)
  have hh : firstHopHeaders.filterMap (tag? v firstValue?) = [] :=
    List.filterMap_eq_nil_iff.mpr fun n hn => hf _ n (List.mem_append_right _ hn)
  rw [collect, hw, hh]
  rfl

lemma collect_delivered {hs : List Header} (hp : PlainHeaders hs) (hv : Delivered hs v)
    {names : List Text} (hm : (hs.map (·.1)).Sublist names)
    (h : ∀ n ∈ wholeHeaders ++ firstHopHeaders, n ∉ names) : collect v = ∅ := by
  have hn : ∀ n ∈ wholeHeaders ++ firstHopHeaders, isPlainName n := by decide
  refine collect_eq_empty fun n ht => ?_
  rw [(hv.shows_self hp hn n ht).1, valueUnder_of_notMem fun hc => h n ht (hm.subset hc)]

end RequestTags

namespace B3

variable {c : Context} {padding : Bool} {v : HeaderView}

lemma ofContext_eq_debug_iff : State.ofContext c = .debug ↔ c.tagSet.isDebug := by
  unfold State.ofContext
  by_cases hd : c.tagSet.isDebug
  · simp [hd]
  · rcases c.sampling.isSampled with _ | _ | _ <;> simp [hd]

lemma priority_ofContext (c : Context) :
    (State.ofContext c).sampling.priority =
      if c.tagSet.isDebug then some Sampling.userKeep
      else c.sampling.isSampled.map fun b => if b then Sampling.autoKeep else Sampling.autoReject := by
  unfold State.ofContext
  by_cases hd : c.tagSet.isDebug
  · rw [if_pos hd, if_pos hd]
    rfl
  · rw [if_neg hd, if_neg hd]
    rcases c.sampling.isSampled with _ | _ | _ <;> rfl

def carried (style : Style) (c : Context) : Context where
  traceId := .ofNat c.traceId.toNat
  spanId := c.spanId
  style
  sampling := (State.ofContext c).sampling
  tagSet := { isDebug := c.tagSet.isDebug }

lemma context_eq_carried (style : Style) (hv : RequestTags.collect v = ∅) :
    context style v (.ofNat c.traceId.toNat) c.spanId (State.ofContext c) = carried style c := by
  have hd : decide (State.ofContext c = .debug) = c.tagSet.isDebug := by
    rw [Bool.eq_iff_iff, decide_eq_true_eq, ofContext_eq_debug_iff]
  rw [context, hv, hd]
  rfl

lemma value_extractMulti_delivered (ht : c.traceId.isZero = false) (hs : c.spanId ≠ 0)
    (hv : Delivered (injectMulti padding c) v) :
    (extractMulti v).value = some (.complete (carried .b3multi c)) := by
  have hp : PlainHeaders (injectMulti padding c) :=
    .of_sublist multiNames (names_injectMulti padding c) (by decide) (by decide)
  have ho : RequestTags.collect v = ∅ :=
    RequestTags.collect_delivered hp hv (names_injectMulti padding c) (by decide)
  rw [value_extractMulti_shown ht hs (hv.shows_self hp (by decide)), context_eq_carried .b3multi ho]

lemma value_extractSingle_delivered (ht : c.traceId.isZero = false) (hs : c.spanId ≠ 0)
    (hv : Delivered (injectSingle padding c) v) :
    (extractSingle v).value = some (.complete (carried .b3single c)) := by
  have hp : PlainHeaders (injectSingle padding c) :=
    .of_sublist [singleName] (names_injectSingle padding c) (by decide) (by decide)
  have ho : RequestTags.collect v = ∅ :=
    RequestTags.collect_delivered hp hv (names_injectSingle padding c) (by decide)
  rw [value_extractSingle_shown ht hs (hv.shows_self hp (by decide)), context_eq_carried .b3single ho]

theorem extract_inject_agree (ht : c.traceId.isZero = false) (hs : c.spanId ≠ 0) (p q : Bool)
    {w : HeaderView} (hv : Delivered ((multi p).inject c).value v)
    (hw : Delivered ((single q).inject c).value w) :
    ∃ r, ((multi p).extract v).value = some (.complete r) ∧
      ((single q).extract w).value = some (.complete { r with style := .b3single }) ∧
      r.style = .b3multi ∧
      r.traceId = .ofNat c.traceId.toNat ∧
      r.spanId = c.spanId ∧
      r.tagSet.isDebug = c.tagSet.isDebug ∧
      r.sampling.priority =
        if c.tagSet.isDebug then some Sampling.userKeep
        else c.sampling.isSampled.map fun b => if b then Sampling.autoKeep else Sampling.autoReject := by
  have hm := value_extractMulti_delivered ht hs hv
  have hn := value_extractSingle_delivered ht hs hw
  rw [carried] at hm hn
  exact ⟨_, hm, hn, rfl, rfl, rfl, rfl, priority_ofContext c⟩

def flaggedContext : Context :=
  { traceId := .wide 0 5
    spanId := 7
    style := .datadog
    sampling := .ofPriority (-1)
    origin := some "rum".toList
    tagSet := { isDebug := true } }

theorem extract_inject_agree_flaggedContext :
    let c := flaggedContext
    let v := Snapshot.view ⟨((multi false).inject c).value⟩
    let w := HeaderMap.view (HeaderMap.setAll ∅ ((single true).inject c).value)
    c.traceId.isZero = false ∧ c.spanId ≠ 0 ∧
      Delivered ((multi false).inject c).value v ∧ Delivered ((single true).inject c).value w ∧
      ∃ r, ((multi false).extract v).value = some (.complete r) ∧
        ((single true).extract w).value = some (.complete { r with style := .b3single }) ∧
        r.style = .b3multi ∧
        r.traceId = .narrow 5 ∧
        r.spanId = 7 ∧
        r.tagSet.isDebug = true ∧
        r.sampling.priority = some Sampling.userKeep := by
  intro c v w
  have ht : c.traceId.isZero = false := by decide
  have hs : c.spanId ≠ 0 := by decide
  have hv : Delivered ((multi false).inject c).value v := .list
  have hw : Delivered ((single true).inject c).value w := .map
  have hi : TraceId.ofNat c.traceId.toNat = .narrow 5 := by decide
  obtain ⟨r, hm, hn, hy, hr, hp, hd, hk⟩ := extract_inject_agree ht hs false true hv hw
  exact ⟨ht, hs, hv, hw, r, hm, hn, hy, hr.trans hi, hp, hd, hk⟩

end B3

end TraceHeaders
