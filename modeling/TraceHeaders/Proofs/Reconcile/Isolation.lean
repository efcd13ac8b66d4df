import TraceHeaders.Proofs.Reconcile.Outcome
import TraceHeaders.Proofs.Text.Numeral

/-! What contexts of another trace change in the outcome, found by leaving their styles out. -/

namespace TraceHeaders.Reconcile

def matching (id : TraceId) (cs : List Context) : List Context :=
  cs.filter fun c => id.matched c.traceId

def matchingStyles (s : Settings) (v : HeaderView) (id : TraceId) (styles : List Style) :
    List Style :=
  styles.filter fun style =>
    match ((s.codec style).extract v).value with
    | some (.complete c) => id.matched c.traceId
    | _ => true

/-- A Datadog and a W3C context of one trace deduce a parent, although one of them is of another
trace than `id`; and the parent is not what the W3C context says of the trace of `id` anyway. -/
def ParentLeaks (id : TraceId) (cs : List Context) : Prop :=
  ∃ d t, ofStyle .datadog cs = some d ∧ ofStyle .traceContext cs = some t ∧
    d.traceId.matched t.traceId ∧ d.spanId ≠ t.spanId ∧
    (¬ id.matched t.traceId ∨
      ¬ id.matched d.traceId ∧ (t.tagSet.lastParent = none ∨
        t.tagSet.lastParent = some noParent ∧ d.spanId ≠ 0))

lemma contexts_matchingStyles (s : Settings) (v : HeaderView) (id : TraceId) (styles : List Style) :
    contexts (reports v (s.registrations (matchingStyles s v id styles))) =
      matching id (contexts (reports v (s.registrations styles))) := by
  rw [contexts_reports, contexts_reports, matchingStyles, List.filterMap_filter, matching,
    List.filter_filterMap]
  congr 1
  funext style
  rcases ((s.codec style).extract v).value with _ | c | q
  · rfl
  · by_cases hm : id.matched c.traceId <;> simp [Finding.context?, Option.filter, hm]
  · rfl

lemma matching_self_cons (w : Context) (rest : List Context) :
    matching w.traceId (w :: rest) = w :: matching w.traceId rest :=
  List.filter_cons_of_pos (TraceId.matched_self w.traceId)

lemma ofStyle_filter {cs : List Context} (hn : (cs.map (·.style)).Nodup) (style : Style)
    (p : Context → Bool) : ofStyle style (cs.filter p) = (ofStyle style cs).filter p := by
  induction cs with
  | nil => rfl
  | cons c cs ih =>
    obtain ⟨hc, hn⟩ := List.nodup_cons.mp hn
    have hi := ih hn
    rw [ofStyle_cons]
    by_cases hs : c.style = style
    · subst hs
      rw [ofStyle_eq_none hc] at hi
      by_cases hp : p c
      · simp [hp, ofStyle_cons, Option.filter]
      · simpa [hp, Option.filter] using hi
    · by_cases hp : p c <;> simpa [hp, hs, ofStyle_cons] using hi

lemma sibling_eq {cs : List Context} (hn : (cs.map (·.style)).Nodup) (w : Context) :
    sibling w cs = (ofStyle .traceContext cs).filter fun c => w.traceId.matched c.traceId := by
  rw [← ofStyle_filter hn, ofStyle, List.find?_filter, sibling]
  simp only [Bool.decide_and, Bool.decide_eq_true, Bool.and_comm]

lemma noParent_eq_hexWord_iff (n : UInt64) : noParent = Text.hexWord n ↔ n = 0 := by
  rw [show noParent = Text.hexWord 0 from rfl, Text.hexWord_inj, eq_comm]

lemma parent_matching_eq_iff {w : Context} {cs : List Context} (hn : (cs.map (·.style)).Nodup) :
    (crossParent (matching w.traceId cs)).or ((sibling w cs).bind (·.tagSet.lastParent)) =
        (crossParent cs).or ((sibling w cs).bind (·.tagSet.lastParent)) ↔
      ¬ ParentLeaks w.traceId cs := by
  rw [sibling_eq hn]
  unfold crossParent ParentLeaks matching
  rw [ofStyle_filter hn, ofStyle_filter hn]
  rcases hd : ofStyle .datadog cs with _ | d
  · simp
  rcases ht : ofStyle .traceContext cs with _ | t
  · simp
  by_cases hx : d.traceId.matched t.traceId ∧ d.spanId ≠ t.spanId
  · by_cases mt : w.traceId.matched t.traceId <;> by_cases md : w.traceId.matched d.traceId
    · simp [Option.filter, mt, md, hx]
    · rcases hp : t.tagSet.lastParent with _ | x
      · simp [Option.filter, mt, md, hx, hp]
      · by_cases hz : x = noParent
        · simp [Option.filter, mt, md, hx, hp, hz, noParent_eq_hexWord_iff]
        · simp [Option.filter, mt, md, hx, hp, hz]
    · simp [Option.filter, mt, md, hx]
    · simp [Option.filter, mt, md, hx]
  · have hx' : ¬ (d.traceId.matched t.traceId = true ∧ ¬ d.spanId = t.spanId) := hx
    have hl : ∀ p : Prop, ¬ (d.traceId.matched t.traceId = true ∧ ¬ d.spanId = t.spanId ∧ p) :=
      fun p hp => hx ⟨hp.1, hp.2.1⟩
    by_cases mt : w.traceId.matched t.traceId <;> by_cases md : w.traceId.matched d.traceId <;>
      simp [Option.filter, mt, md, hx', hl]

lemma sibling_matching {w : Context} {cs : List Context} (hn : (cs.map (·.style)).Nodup) :
    sibling w (matching w.traceId cs) = sibling w cs := by
  rw [sibling_eq hn, matching, sibling_eq (hn.sublist (List.filter_sublist.map _)),
    ofStyle_filter hn, Option.filter_filter]
  simp only [Bool.and_self]

lemma reconciled_matching {w : Context} {rest : List Context}
    (hn : ((w :: rest).map (·.style)).Nodup) :
    reconciled w (matching w.traceId rest) =
      { reconciled w rest with
        links := []
        tagSet := { (reconciled w rest).tagSet with
          lastParent := (crossParent (matching w.traceId (w :: rest))).or
            ((sibling w (w :: rest)).bind (·.tagSet.lastParent)) } } := by
  simp only [reconciled, ← matching_self_cons, sibling_matching hn]
  simp only [matching, List.filter_filter, Bool.not_and_self, List.filter_false, List.map_nil]

/-- Leaving out the styles of other traces takes the links away. Nothing else of the outcome
changes except the last parent, and that only if a parent leaks. -/
theorem value_extract_matchingStyles (s : Settings) {styles : List Style} (hs : styles.Nodup)
    (headers : Snapshot) {r : Context}
    (hr : (Extractor.extract ⟨s.registrations styles, false⟩ headers).value =
      some (.complete r)) :
    ∃ r', (Extractor.extract
        ⟨s.registrations (matchingStyles s headers.view r.traceId styles), false⟩
        headers).value = some (.complete r') ∧
      r' = { r with links := [], tagSet := { r.tagSet with lastParent := r'.tagSet.lastParent } } ∧
      (r' = { r with links := [] } ↔
        ¬ ParentLeaks r.traceId (contexts (reports headers.view (s.registrations styles)))) := by
  have hm : (matchingStyles s headers.view r.traceId styles).Nodup := hs.filter _
  have hn := nodup_styles_contexts s hs headers.view
  rw [Extractor.extract, value_run_registrations s hs] at hr
  rw [Extractor.extract, value_run_registrations s hm, contexts_matchingStyles]
  cases hc : contexts (reports headers.view (s.registrations styles)) with
  | nil =>
    rw [hc] at hr
    cases hp : (partials (reports headers.view (s.registrations styles))).head? <;>
      simp [hp] at hr
  | cons w rest =>
    rw [hc] at hr hn
    obtain rfl : reconciled w rest = r := by simpa using hr
    have hid : (reconciled w rest).traceId = w.traceId := rfl
    rw [hid, matching_self_cons]
    refine ⟨_, rfl, ?_, ?_⟩
    · rw [reconciled_matching hn]
      rfl
    · rw [← parent_matching_eq_iff hn, reconciled_matching hn]
      constructor
      · intro h
        exact congrArg (fun r : Context => r.tagSet.lastParent) h
      · intro h
        rw [h]
        rfl

set_option maxRecDepth 10000 in
theorem value_extract_matchingStyles_threeStyles :
    let r : Context :=
      { traceId := .narrow 10
        spanId := 11
        style := .b3multi
        tagSet := { lastParent := some "000000000000000c".toList }
        links := [
          .terminated { traceId := .narrow 5, spanId := 7, style := .datadog },
          .terminated
            { traceId := .narrow 5
              spanId := 9
              style := .traceContext
              sampling := .ofPriority 1
              tagSet := { traceState := some "dd=p:000000000000000c,v=1".toList } }] }
    (Extractor.extract ⟨Settings.registrations {} [.b3multi, .datadog, .traceContext], false⟩
        threeStyles).value = some (.complete r) ∧
      ∃ r', (Extractor.extract
          ⟨Settings.registrations {} (matchingStyles {} threeStyles.view r.traceId
            [.b3multi, .datadog, .traceContext]), false⟩ threeStyles).value =
          some (.complete r') ∧
        r' = { r with links := [], tagSet := { r.tagSet with lastParent := r'.tagSet.lastParent } } ∧
        (r' = { r with links := [] } ↔
          ¬ ParentLeaks r.traceId (contexts (reports threeStyles.view
            (Settings.registrations {} [.b3multi, .datadog, .traceContext])))) :=
  ⟨by decide, value_extract_matchingStyles {} (by decide) threeStyles (by decide)⟩

set_option maxRecDepth 10000 in
theorem matchingStyles_parent_leaks :
    ¬ ∀ (s : Settings) (styles : List Style) (headers : Snapshot) (r : Context), styles.Nodup →
      (Extractor.extract ⟨s.registrations styles, false⟩ headers).value = some (.complete r) →
      (Extractor.extract ⟨s.registrations (matchingStyles s headers.view r.traceId styles), false⟩
        headers).value = some (.complete { r with links := [] }) := by
  intro h
  have hl := h {} [.b3multi, .datadog, .traceContext] threeStyles _ (by decide)
    (value_run_registrations {} (by decide) threeStyles.view)
  exact absurd hl (by decide)

end TraceHeaders.Reconcile
