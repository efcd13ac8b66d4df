import TraceHeaders.Format.TraceContext
import TraceHeaders.Proofs.Delivery
import TraceHeaders.Proofs.Findings
import TraceHeaders.Proofs.TraceParent
import TraceHeaders.Proofs.TraceState.Writing

namespace TraceHeaders.TraceContext

open TraceState (stated strayItems received isParent isPrintableAscii)

/-- What the propagated tags make of the priority, the origin and the last parent is what the
context says of them anyway. -/
structure Undisturbed (c : Context) : Prop where
  priority : ∀ t, stated ['s'] (strayItems c) = some t →
    priority (c.sampling.isSampled = some true) (Text.int8? t) =
      c.sampling.priority.getD Sampling.autoReject
  origin : ∀ t, stated ['o'] (strayItems c) = some t →
    c.origin.map received = some (TraceState.decodeValue t)
  lastParent : ∀ t, stated ['p'] ((strayItems c).filter fun i => isParent i.2) = some t →
    t = Text.hexWord c.spanId

lemma undisturbed_of_keys {c : Context} (h : ∀ e ∈ c.tagSet.tags.entries, ';' ∉ e.1) :
    Undisturbed c := by
  have hs := TraceState.stated_eq_none_of_keys h (List.Subset.refl _)
  have hp : stated ['p'] ((strayItems c).filter fun i => isParent i.2) = none :=
    TraceState.stated_eq_none_of_keys h (List.filter_subset_self _) 'p'
  exact ⟨by simp [hs], by simp [hs], by simp [hp]⟩

lemma priority_own (s : Sampling) :
    priority (s.isSampled = some true) s.priority = s.priority.getD Sampling.autoReject := by
  rw [Sampling.isSampled]
  cases s.priority with
  | none => rfl
  | some p => simp [priority]

section Delivered

variable {c : Context} {v : HeaderView}

def names : List Text := [parentName, stateName]

def headers (c : Context) : List Header :=
  if c.traceId.isZero || c.spanId = 0 then []
  else
    [(parentName, TraceParent.encode c.traceId c.spanId (c.sampling.isSampled = some true)),
      (stateName, (TraceState.encode c).value)]

lemma value_inject (c : Context) : (inject c).value = headers c := by
  unfold inject headers
  split <;> rfl

lemma headers_eq (ht : c.traceId.isZero = false) (hs : c.spanId ≠ 0) :
    headers c =
      [(parentName, TraceParent.encode c.traceId c.spanId (c.sampling.isSampled = some true)),
        (stateName, (TraceState.encode c).value)] :=
  if_neg (by simp [ht, hs])

lemma names_headers (c : Context) : ((headers c).map (·.1)).Sublist names := by
  unfold headers
  split
  · exact List.nil_sublist names
  · exact .refl names

lemma shows_headers (hv : Delivered (inject c).value v) : Shows v (headers c) names := by
  have hm : ∀ n ∈ names, isPlainName n := by decide
  have hp : PlainHeaders (headers c) := .of_sublist names (names_headers c) hm (by decide)
  rw [value_inject] at hv
  exact hv.shows_self hp hm

lemma value_extract_shown (ht : c.traceId.isZero = false) (hs : c.spanId ≠ 0)
    (hv : Shows v (headers c) names) :
    ∃ p : TraceParent, p.traceId = c.traceId.toNat ∧ p.spanId = c.spanId ∧
      p.isSampled = decide (c.sampling.isSampled = some true) ∧
      (extract v).value = some (.complete (context v p (readState v).value)) := by
  rw [headers_eq ht hs] at hv
  have hg := (hv parentName (by decide)).1
  rw [valueUnder_cons_self] at hg
  have hi := TraceParent.ofText_encode ht hs (decide (c.sampling.isSampled = some true))
  refine ⟨_, rfl, rfl, rfl, extract_eq_complete_iff.mpr ⟨_, _, ?_, hi, rfl⟩⟩
  rw [hg, Option.map_some, TraceParent.trim_encode]

lemma value_readState_sent (ht : c.traceId.isZero = false) (hs : c.spanId ≠ 0)
    (hp : ∀ t, c.tagSet.traceState = some t → ∀ ch ∈ t, isPrintableAscii ch)
    (hv : Shows v (headers c) names) :
    (readState v).value = some (TraceState.delivered c,
      (TraceState.Own.readAll {} (TraceState.fixedFields c ++ strayItems c)).value) := by
  rw [headers_eq ht hs] at hv
  have ha := (hv stateName (by decide)).2
  rw [valueUnder_cons_of_ne (by decide), valueUnder_cons_self] at ha
  rw [readState, ha]
  exact TraceState.value_read_encode hp

structure Sendable (c : Context) : Prop where
  traceId : c.traceId.isZero = false
  spanId : c.spanId ≠ 0
  printable : ∀ t, c.tagSet.traceState = some t → ∀ ch ∈ t, isPrintableAscii ch

lemma Sendable.exists_extract (h : Sendable c) (hv : Delivered (inject c).value v) :
    ∃ p : TraceParent, p.traceId = c.traceId.toNat ∧ p.spanId = c.spanId ∧
      p.isSampled = decide (c.sampling.isSampled = some true) ∧
      (extract v).value = some (.complete (context v p (some (TraceState.delivered c,
        (TraceState.Own.readAll {} (TraceState.fixedFields c ++ strayItems c)).value)))) := by
  have hx := shows_headers hv
  rw [← value_readState_sent h.traceId h.spanId h.printable hx]
  exact value_extract_shown h.traceId h.spanId hx

lemma value_readState_shown (ht : c.traceId.isZero = false) (hs : c.spanId ≠ 0)
    (hp : ∀ t, c.tagSet.traceState = some t → ∀ ch ∈ t, isPrintableAscii ch)
    (hv : Shows v (headers c) names) :
    ∃ text, (readState v).value =
      some (text, (TraceState.Own.readAll {} (TraceState.fixedFields c ++ strayItems c)).value) :=
  ⟨_, value_readState_sent ht hs hp hv⟩

lemma undisturbed_iff {p : TraceParent} {text : Text}
    (hp : p.isSampled = decide (c.sampling.isSampled = some true)) {r : Context}
    (hr : r = context v p (some (text, (TraceState.Own.readAll {}
      (TraceState.fixedFields c ++ strayItems c)).value))) :
    (r.sampling.priority = some (c.sampling.priority.getD Sampling.autoReject) ∧
        r.origin = c.origin.map received ∧
        r.tagSet.lastParent = some (Text.hexWord c.spanId)) ↔
      Undisturbed c := by
  have h₁ : r.sampling.priority = some (priority (c.sampling.isSampled = some true)
      (((stated ['s'] (strayItems c)).map Text.int8?).getD c.sampling.priority)) := by
    rw [hr, TraceState.readAll_written, ← hp]
    rfl
  have h₂ : r.origin =
      ((stated ['o'] (strayItems c)).map TraceState.decodeValue).or (c.origin.map received) := by
    rw [hr, TraceState.readAll_written]
    rfl
  have h₃ : r.tagSet.lastParent =
      (stated ['p'] ((strayItems c).filter fun i => isParent i.2)).or
        (some (Text.hexWord c.spanId)) := by
    rw [hr, TraceState.readAll_written]
    rfl
  have e₁ : r.sampling.priority = some (c.sampling.priority.getD Sampling.autoReject) ↔
      ∀ t, stated ['s'] (strayItems c) = some t →
        priority (c.sampling.isSampled = some true) (Text.int8? t) =
          c.sampling.priority.getD Sampling.autoReject := by
    rw [h₁]
    cases stated ['s'] (strayItems c) with
    | none => simp [priority_own]
    | some t => simp
  have e₂ : r.origin = c.origin.map received ↔
      ∀ t, stated ['o'] (strayItems c) = some t →
        c.origin.map received = some (TraceState.decodeValue t) := by
    rw [h₂]
    cases stated ['o'] (strayItems c) with
    | none => simp
    | some t => simp [eq_comm]
  have e₃ : r.tagSet.lastParent = some (Text.hexWord c.spanId) ↔
      ∀ t, stated ['p'] ((strayItems c).filter fun i => isParent i.2) = some t →
        t = Text.hexWord c.spanId := by
    rw [h₃]
    cases stated ['p'] ((strayItems c).filter fun i => isParent i.2) with
    | none => simp
    | some t => simp
  rw [e₁, e₂, e₃]
  constructor
  · rintro ⟨hs, ho, hl⟩
    exact ⟨hs, ho, hl⟩
  · rintro ⟨hs, ho, hl⟩
    exact ⟨hs, ho, hl⟩

/-- The identifiers come back whatever the tags are; the priority, the origin and the last parent do
exactly if no tag disturbs them. -/
theorem extract_inject_undisturbed (ht : c.traceId.isZero = false) (hs : c.spanId ≠ 0)
    (hp : ∀ t, c.tagSet.traceState = some t → ∀ ch ∈ t, isPrintableAscii ch)
    (hv : Delivered (inject c).value v) :
    ∃ r, (extract v).value = some (.complete r) ∧
      r.traceId = .ofNat c.traceId.toNat ∧
      r.spanId = c.spanId ∧
      ((r.sampling.priority = some (c.sampling.priority.getD Sampling.autoReject) ∧
          r.origin = c.origin.map received ∧
          r.tagSet.lastParent = some (Text.hexWord c.spanId)) ↔
        Undisturbed c) ∧
      ((∀ e ∈ c.tagSet.tags.entries, ';' ∉ e.1) → Undisturbed c) := by
  have hx := shows_headers hv
  obtain ⟨text, hr⟩ := value_readState_shown ht hs hp hx
  obtain ⟨p, hi, hw, hb, he⟩ := value_extract_shown ht hs hx
  rw [hr] at he
  refine ⟨_, he, ?_, hw, undisturbed_iff hb rfl, undisturbed_of_keys⟩
  rw [← hi]
  rfl

end Delivered

def taggedContext (header : Text) : Context :=
  { traceId := .wide 1 5
    spanId := 7
    style := .datadog
    sampling := .ofPriority 2
    origin := some "a;b~c ".toList
    tagSet := { (TagSet.ofHeader 512 header).value with traceState := some "v=1,dd=s:0".toList } }

lemma printable_taggedContext {header t : Text}
    (h : (taggedContext header).tagSet.traceState = some t) : ∀ ch ∈ t, isPrintableAscii ch := by
  obtain rfl : "v=1,dd=s:0".toList = t := Option.some.inj h
  exact Text.forall_mem_of_all (by decide)

set_option maxRecDepth 10000 in
theorem extract_inject_undisturbed_taggedContext :
    let c := taggedContext "_dd.p.dm=-4,_dd.p.x:y=1".toList
    c.traceId.isZero = false ∧ c.spanId ≠ 0 ∧
      (∀ t, c.tagSet.traceState = some t → ∀ ch ∈ t, isPrintableAscii ch) ∧
      Delivered (inject c).value (HeaderMap.view (HeaderMap.setAll ∅ (inject c).value)) ∧
      ∃ r, (extract (HeaderMap.view (HeaderMap.setAll ∅ (inject c).value))).value =
          some (.complete r) ∧
        r.traceId = .ofNat c.traceId.toNat ∧
        r.spanId = c.spanId ∧
        ((r.sampling.priority = some (c.sampling.priority.getD Sampling.autoReject) ∧
            r.origin = c.origin.map received ∧
            r.tagSet.lastParent = some (Text.hexWord c.spanId)) ↔
          Undisturbed c) ∧
        ((∀ e ∈ c.tagSet.tags.entries, ';' ∉ e.1) → Undisturbed c) := by
  intro c
  exact ⟨by decide, by decide, fun _ => printable_taggedContext, .map,
    extract_inject_undisturbed (by decide) (by decide) (fun _ => printable_taggedContext) .map⟩

set_option maxRecDepth 10000 in
theorem origin_forged_by_tag :
    ¬ ∀ (limit : Nat) (header : Text) (c : Context) (v : HeaderView),
      (TagSet.ofHeader limit header).value.error = none →
      c.tagSet.tags = (TagSet.ofHeader limit header).value.tags →
      (∀ t, c.tagSet.traceState = some t → ∀ ch ∈ t, isPrintableAscii ch) →
      c.traceId.isZero = false → c.spanId ≠ 0 → Delivered (inject c).value v →
      ∃ r, (extract v).value = some (.complete r) ∧ r.origin = c.origin.map received := by
  intro h
  obtain ⟨r, hr, ho⟩ := h 512 "_dd.p.x;o=evil".toList (taggedContext "_dd.p.x;o=evil".toList) _
    (by decide) rfl (fun _ => printable_taggedContext) (by decide) (by decide) .list
  have he : ((extract (Snapshot.view
      ⟨(inject (taggedContext "_dd.p.x;o=evil".toList)).value⟩)).value.bind Finding.context?).bind
        (·.origin) = some "evil".toList := by
    decide
  rw [hr] at he
  exact absurd (ho.symm.trans he) (by decide)

end TraceHeaders.TraceContext
