import TraceHeaders.Proofs.Reconcile.Provenance
import TraceHeaders.Proofs.Text.Trim

/-! The tags of the request in an outcome are the same whichever codec found it. -/

namespace TraceHeaders

structure Text.Tidy (t : Text) : Prop where
  ne_nil : t ≠ []
  head : ∀ c ∈ t.head?, isBlank c = false
  last : ∀ c ∈ t.getLast?, isBlank c = false

lemma Text.tidy_of_trimmed? {t e : Text} (h : trimmed? t = some e) : e.Tidy := by
  obtain ⟨rfl, hn⟩ := trimmed?_eq_some_iff.mp h
  refine ⟨hn, fun c hc => ?_, fun c hc => ?_⟩
  · rw [trim, ← trimLeft_trimRight, trimLeft] at hc
    have := List.head?_dropWhile_not isBlank (trimRight t)
    rwa [Option.mem_def.mp hc] at this
  · obtain ⟨ht, rfl⟩ := List.mem_getLast?_eq_getLast hc
    exact Bool.eq_false_iff.mpr (List.rdropWhile_last_not isBlank (trimLeft t) ht)

def Finding.requestTags : Finding → Dict Text
  | complete c => c.requestTags
  | incomplete p => p.requestTags

structure Finding.Tagged (v : HeaderView) (f : Finding) : Prop where
  requestTags_eq : f.requestTags = RequestTags.collect v
  signal : ∀ q, f = .incomplete q → q.requestTags ≠ ∅ ∨ q.origin.isSome

section Codecs

variable {v : HeaderView} {f : Finding}

lemma Finding.tagged_complete {c : Context} (h : c.requestTags = RequestTags.collect v) :
    (Finding.complete c).Tagged v :=
  ⟨h, fun _ hq => nomatch hq⟩

namespace RequestTags

lemma tidy_of_mem_collect {e : Text × Text} (h : e ∈ (collect v).entries) : e.2.Tidy := by
  have ht : ∀ {read : Text → Option Text} {names : List Text},
      (∀ t x, read t = some x → x.Tidy) → e ∈ names.filterMap (tag? v read) → e.2.Tidy := by
    intro read names hr hm
    obtain ⟨n, -, hn⟩ := List.mem_filterMap.mp hm
    obtain ⟨x, hx, rfl⟩ := Option.map_eq_some_iff.mp hn
    obtain ⟨t, -, hx⟩ := Option.bind_eq_some_iff.mp hx
    exact hr t x hx
  rcases List.mem_append.mp (Dict.mem_of_mem_ofList h) with hm | hm
  · exact ht (fun _ _ => Text.tidy_of_trimmed?) hm
  · exact ht (fun t _ => Text.tidy_of_trimmed? (t := t.takeWhile (· ≠ ','))) hm

lemma tagged_finding? {style : Style} {origin : Option Text} {baggage : Dict Text}
    (h : finding? style v origin baggage = some f) : f.Tagged v := by
  rw [finding?] at h
  split at h
  · cases h
  · next hs =>
    obtain rfl := Option.some.inj h
    refine ⟨rfl, fun q hq => ?_⟩
    obtain rfl := Finding.incomplete.inj hq
    rw [Bool.and_eq_true, not_and_or, Option.isNone_iff_eq_none] at hs
    refine hs.imp (fun he hc => ?_) Option.isSome_iff_ne_none.mpr
    exact he (congrArg Dict.isEmpty hc)

end RequestTags

lemma Datadog.tagged {b : Bool} {limit : Nat} (h : (extract b limit v).value = some f) :
    f.Tagged v := by
  simp only [extract, Logged.value_bind] at h
  split at h
  · exact RequestTags.tagged_finding? h
  split at h
  · cases h
  · obtain rfl := Option.some.inj h
    exact Finding.tagged_complete rfl

lemma B3.tagged_multi (h : (extractMulti v).value = some f) : f.Tagged v := by
  rw [extractMulti] at h
  split at h
  · exact RequestTags.tagged_finding? h
  split at h
  · cases h
  · obtain rfl := Option.some.inj h
    exact Finding.tagged_complete rfl

lemma B3.tagged_single (h : (extractSingle v).value = some f) : f.Tagged v := by
  rw [extractSingle] at h
  split at h
  · exact RequestTags.tagged_finding? h
  split at h
  · cases h
  split at h
  · exact RequestTags.tagged_finding? h
  · obtain rfl := Option.some.inj h
    exact Finding.tagged_complete rfl

lemma TraceContext.tagged (h : (extract v).value = some f) : f.Tagged v := by
  rw [extract] at h
  split at h
  · exact RequestTags.tagged_finding? h
  rw [Logged.value_bind] at h
  split at h
  · exact RequestTags.tagged_finding? h
  · obtain rfl := Option.some.inj h
    exact Finding.tagged_complete rfl

lemma Haystack.tagged {mapping : Dict Text} (h : (extract mapping v).value = some f) :
    f.Tagged v := by
  simp only [extract, Logged.value_bind] at h
  split at h
  · exact RequestTags.tagged_finding? h
  · obtain rfl := Option.some.inj h
    exact Finding.tagged_complete rfl

lemma Xray.tagged (h : (extract v).value = some f) : f.Tagged v := by
  cases f with
  | complete c =>
    obtain ⟨t, r, -, -, hc⟩ := extract_eq_complete_iff.mp h
    obtain ⟨t, i, -, -, rfl⟩ := context_eq_ok_iff.mp hc
    exact Finding.tagged_complete rfl
  | incomplete q =>
    rw [extract] at h
    split at h
    · exact RequestTags.tagged_finding? h
    split at h
    · cases h
    · exact RequestTags.tagged_finding? h

lemma Settings.tagged {s : Settings} {style : Style}
    (h : ((s.codec style).extract v).value = some f) : f.Tagged v := by
  cases style with
  | datadog => exact Datadog.tagged h
  | b3multi => exact B3.tagged_multi h
  | b3single => exact B3.tagged_single h
  | traceContext => exact TraceContext.tagged h
  | haystack => exact Haystack.tagged h
  | xray => exact Xray.tagged h
  | none => cases h

end Codecs

namespace Reconcile

lemma fallback_record (p : Progress) (style : Style) (c : Context) :
    (p.record style c).fallback = p.fallback := by
  cases style <;> rfl

lemma requestTags_absorb (style : Style) (w c : Context) :
    (absorb style w c).value.requestTags = w.requestTags := by
  obtain ⟨links, tagSet, h⟩ := exists_value_absorb style w c
  rw [h]

structure Progress.Tagged (v : HeaderView) (p : Progress) : Prop where
  chosen : ∀ c, p.chosen = some c → Finding.Tagged v (.complete c)
  fallback : ∀ q, p.fallback = some q → Finding.Tagged v (.incomplete q)

namespace Progress.Tagged

variable {v : HeaderView} {p : Progress}

lemma step (h : p.Tagged v) (style : Style) {x : Option Finding}
    (hx : ∀ f, x = some f → f.Tagged v) : (p.step style x).value.Tagged v := by
  rcases x with _ | c | q
  · exact h
  · have hc := hx _ rfl
    rw [value_step_complete]
    refine ⟨fun w hw => ?_, ?_⟩
    · obtain rfl := Option.some.inj hw
      cases hp : p.chosen with
      | none => exact hc
      | some d =>
        refine Finding.tagged_complete ?_
        rw [Option.elim_some, requestTags_absorb]
        exact (h.chosen d hp).requestTags_eq
    · intro q hq
      change (p.record style c).fallback = some q at hq
      rw [fallback_record] at hq
      exact h.fallback q hq
  · have hq := hx _ rfl
    rw [value_step_incomplete]
    refine ⟨h.chosen, fun r hr => ?_⟩
    change (if p.chosen.isNone then p.fallback.or (some q) else p.fallback) = some r at hr
    split at hr
    · obtain hr | ⟨-, hr⟩ := Option.or_eq_some_iff.mp hr
      · exact h.fallback r hr
      · exact Option.some.inj hr ▸ hq
    · exact h.fallback r hr

lemma finding (h : p.Tagged v) {f : Finding} (hf : p.finding = some f) : f.Tagged v := by
  obtain ⟨c, hc, rfl⟩ | ⟨q, hq, rfl⟩ := finding_cases hf
  · exact Finding.tagged_complete (h.chosen c hc).requestTags_eq
  · exact h.fallback q hq

end Progress.Tagged

lemma tagged_run {rs : List Registration} {v : HeaderView}
    (hx : ∀ x ∈ rs, ∀ f, (x.2.extract v).value = some f → f.Tagged v) {first : Bool} {f : Finding}
    (hf : (run first v {} rs).value = some f) : f.Tagged v := by
  have hp : Progress.Tagged v {} := ⟨fun _ h => (nomatch h), fun _ h => (nomatch h)⟩
  obtain ⟨e, he, hw | hf⟩ := exists_progress_of_run (Progress.Tagged v)
    (fun x hm _ hp => hp.step x.1 (hx x hm)) hp hf
  · obtain ⟨w, hc, rfl⟩ := Option.map_eq_some_iff.mp hw
    exact he.chosen w hc
  · exact he.finding hf

end Reconcile

theorem Extractor.requestTags_extract (s : Settings) (headers : Snapshot) {f : Finding}
    (hf : ((ofSettings s).value.extract headers).value = some f) :
    f.requestTags = RequestTags.collect headers.view ∧
      (∀ q, f = .incomplete q → q.requestTags ≠ ∅ ∨ q.origin.isSome) ∧
      ∀ e ∈ f.requestTags.entries, e.2.Tidy := by
  have hx : ∀ x ∈ s.registrations s.resolvedExtract.value, ∀ g,
      (x.2.extract headers.view).value = some g → g.Tagged headers.view := by
    intro x hx g hg
    obtain ⟨style, -, rfl⟩ := List.mem_map.mp hx
    exact Settings.tagged hg
  obtain ⟨ht, hs⟩ := Reconcile.tagged_run hx hf
  refine ⟨ht, hs, ?_⟩
  rw [ht]
  exact fun e => RequestTags.tidy_of_mem_collect

def anonymousHeaders : Snapshot :=
  ⟨[("x-datadog-trace-id".toList, "0".toList), ("x-datadog-origin".toList, "rum".toList),
    ("X-Forwarded-For".toList, " 203.0.113.1, 10.0.0.1 ".toList),
    ("x-forwarded-proto".toList, "https , http".toList), ("via".toList, " ".toList)]⟩

set_option maxRecDepth 10000 in
theorem Extractor.requestTags_extract_anonymousHeaders :
    let s : Settings := { extractStyles := [.b3multi, .datadog] }
    let q : PartialContext :=
      { style := .b3multi
        requestTags := .ofList
          [("http.request.headers.x-forwarded-for".toList, "203.0.113.1, 10.0.0.1".toList),
            ("http.request.headers.x-forwarded-proto".toList, "https".toList)] }
    ((ofSettings s).value.extract anonymousHeaders).value = some (.incomplete q) ∧
      (Finding.incomplete q).requestTags = RequestTags.collect anonymousHeaders.view ∧
      (q.requestTags ≠ ∅ ∨ q.origin.isSome) ∧
      ∀ e ∈ (Finding.incomplete q).requestTags.entries, e.2.Tidy := by
  intro s q
  have hf : ((ofSettings s).value.extract anonymousHeaders).value = some (.incomplete q) := by
    decide
  obtain ⟨ht, hs, he⟩ := requestTags_extract s anonymousHeaders hf
  exact ⟨hf, ht, hs q rfl, he⟩

end TraceHeaders
