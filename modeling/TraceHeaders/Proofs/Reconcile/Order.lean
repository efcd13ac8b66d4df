import TraceHeaders.Proofs.Reconcile.Outcome
import Mathlib.Data.List.Find
import Mathlib.Data.List.Pairwise

/-! Contexts of one trace can be read in any order. -/

namespace TraceHeaders.Reconcile

variable {cs ds : List Context}

lemma ofStyle_eq_some_iff (hn : (cs.map (·.style)).Nodup) {style : Style} {c : Context} :
    ofStyle style cs = some c ↔ c ∈ cs ∧ c.style = style := by
  induction cs with
  | nil => simp [ofStyle]
  | cons d cs ih =>
    obtain ⟨hd, hn⟩ := List.nodup_cons.mp hn
    rw [ofStyle_cons, List.mem_cons]
    by_cases hs : d.style = style
    · subst hs
      rw [if_pos rfl, Option.some.injEq]
      constructor
      · rintro rfl
        exact ⟨.inl rfl, rfl⟩
      · rintro ⟨rfl | hc, hs⟩
        · rfl
        · exact absurd (List.mem_map.mpr ⟨c, hc, hs⟩) hd
    · rw [if_neg hs, ih hn]
      constructor
      · rintro ⟨hc, hs⟩
        exact ⟨.inr hc, hs⟩
      · rintro ⟨rfl | hc, hc'⟩
        · exact absurd hc' hs
        · exact ⟨hc, hc'⟩

lemma ofStyle_perm (h : cs.Perm ds) (hn : (cs.map (·.style)).Nodup) (style : Style) :
    ofStyle style cs = ofStyle style ds := by
  have hn' : (ds.map (·.style)).Nodup := (h.map _).nodup_iff.mp hn
  apply Option.ext
  intro c
  rw [ofStyle_eq_some_iff hn, ofStyle_eq_some_iff hn', h.mem_iff]

lemma crossParent_perm (h : cs.Perm ds) (hn : (cs.map (·.style)).Nodup) :
    crossParent cs = crossParent ds := by
  rw [crossParent, crossParent, ofStyle_perm h hn, ofStyle_perm h hn]

lemma sibling_of_matched {w : Context} (hm : ∀ c ∈ cs, w.traceId.matched c.traceId) :
    sibling w cs = ofStyle .traceContext cs := by
  apply List.find?_congr
  intro c hc
  rw [hm c hc, Bool.and_true]

lemma reconciled_of_matched {w : Context} {rest : List Context}
    (hm : ∀ c ∈ rest, w.traceId.matched c.traceId) :
    (reconciled w rest).links = [] ∧
      (reconciled w rest).tagSet.traceState =
        (ofStyle .traceContext (w :: rest)).bind (·.tagSet.traceState) ∧
      (reconciled w rest).tagSet.lastParent = (crossParent (w :: rest)).or
        ((ofStyle .traceContext (w :: rest)).bind (·.tagSet.lastParent)) := by
  have hs : sibling w (w :: rest) = ofStyle .traceContext (w :: rest) := by
    apply sibling_of_matched
    exact List.forall_mem_cons.mpr ⟨TraceId.matched_self w.traceId, hm⟩
  refine ⟨?_, ?_, ?_⟩
  · rw [reconciled, List.map_eq_nil_iff, List.filter_eq_nil_iff]
    intro c hc
    simp [hm c hc]
  · rw [reconciled, hs]
  · rw [reconciled, hs]

lemma exists_reconciled (s : Settings) {styles : List Style} (hs : styles.Nodup) {v : HeaderView}
    (hx : contexts (reports v (s.registrations styles)) ≠ [])
    (hm : ∀ c ∈ contexts (reports v (s.registrations styles)),
      ∀ d ∈ contexts (reports v (s.registrations styles)), c.traceId.matched d.traceId) :
    ∃ w rest, contexts (reports v (s.registrations styles)) = w :: rest ∧
      (run false v {} (s.registrations styles)).value = some (.complete (reconciled w rest)) ∧
      ∀ c ∈ rest, w.traceId.matched c.traceId := by
  obtain ⟨w, rest, hc⟩ := List.exists_cons_of_ne_nil hx
  refine ⟨w, rest, hc, ?_, ?_⟩
  · rw [value_run_registrations s hs, hc]
  · rw [hc] at hm
    exact fun c hr => hm w List.mem_cons_self c (List.mem_cons_of_mem w hr)

theorem extract_perm (s : Settings) {styles styles' : List Style} (hs : styles.Nodup)
    (hp : styles'.Perm styles) (headers : Snapshot)
    (hx : contexts (reports headers.view (s.registrations styles)) ≠ [])
    (hm : (contexts (reports headers.view (s.registrations styles))).Pairwise
      fun c d => c.traceId.matched d.traceId) :
    ∃ r r',
      (Extractor.extract ⟨s.registrations styles, false⟩ headers).value = some (.complete r) ∧
      (Extractor.extract ⟨s.registrations styles', false⟩ headers).value = some (.complete r') ∧
      r.links = [] ∧ r'.links = [] ∧
      r'.tagSet.lastParent = r.tagSet.lastParent ∧
      r'.tagSet.traceState = r.tagSet.traceState := by
  have hc : (contexts (reports headers.view (s.registrations styles'))).Perm
      (contexts (reports headers.view (s.registrations styles))) := by
    rw [contexts_reports, contexts_reports]
    exact hp.filterMap _
  have hs' : styles'.Nodup := hp.nodup_iff.mpr hs
  have ha : ∀ c ∈ contexts (reports headers.view (s.registrations styles)),
      ∀ d ∈ contexts (reports headers.view (s.registrations styles)),
        c.traceId.matched d.traceId := by
    have hsym : Std.Symm fun c d : Context => c.traceId.matched d.traceId = true :=
      ⟨fun c d hcd => by rwa [TraceId.matched_comm]⟩
    intro c hc d hd
    exact hm.forall_of_forall (fun c _ => TraceId.matched_self c.traceId) hc hd
  obtain ⟨w, rest, he, hr, hw⟩ := exists_reconciled s hs hx ha
  obtain ⟨w', rest', he', hr', hw'⟩ := exists_reconciled s hs'
    (fun hn => hx (List.perm_nil.mp (hn ▸ hc.symm)))
    fun c hc' d hd' => ha c (hc.mem_iff.mp hc') d (hc.mem_iff.mp hd')
  obtain ⟨hl, ht, hlp⟩ := reconciled_of_matched hw
  obtain ⟨hl', ht', hlp'⟩ := reconciled_of_matched hw'
  have hn := nodup_styles_contexts s hs' headers.view
  rw [he'] at hn
  rw [he', he] at hc
  refine ⟨_, _, hr, hr', hl, hl', ?_, ?_⟩
  · rw [hlp, hlp', crossParent_perm hc hn, ofStyle_perm hc hn]
  · rw [ht, ht', ofStyle_perm hc hn]

def oneTrace : Snapshot :=
  ⟨[("x-datadog-trace-id".toList, "5".toList), ("x-datadog-parent-id".toList, "7".toList),
    ("traceparent".toList, "00-00000000000000010000000000000005-0000000000000009-01".toList),
    ("tracestate".toList, "dd=p:000000000000000c,v=1".toList),
    ("x-b3-traceid".toList, "10000000000000005".toList), ("x-b3-spanid".toList, "b".toList)]⟩

set_option maxRecDepth 10000 in
theorem extract_perm_oneTrace :
    [Style.datadog, .traceContext, .b3multi].Nodup ∧
      [Style.b3multi, .datadog, .traceContext].Perm [.datadog, .traceContext, .b3multi] ∧
      contexts (reports oneTrace.view
        (Settings.registrations {} [.datadog, .traceContext, .b3multi])) ≠ [] ∧
      (contexts (reports oneTrace.view
        (Settings.registrations {} [.datadog, .traceContext, .b3multi]))).Pairwise
          (fun c d => c.traceId.matched d.traceId) ∧
      ∃ r r',
        (Extractor.extract ⟨Settings.registrations {} [.datadog, .traceContext, .b3multi], false⟩
          oneTrace).value = some (.complete r) ∧
        (Extractor.extract ⟨Settings.registrations {} [.b3multi, .datadog, .traceContext], false⟩
          oneTrace).value = some (.complete r') ∧
        r.links = [] ∧ r'.links = [] ∧
        r'.tagSet.lastParent = r.tagSet.lastParent ∧
        r'.tagSet.traceState = r.tagSet.traceState :=
  ⟨by decide, by decide, by decide, by decide,
    extract_perm {} (by decide) (by decide) oneTrace (by decide) (by decide)⟩

end TraceHeaders.Reconcile
