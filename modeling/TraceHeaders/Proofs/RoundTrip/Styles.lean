import TraceHeaders.Proofs.Reconcile.Order
import TraceHeaders.Proofs.RoundTrip.Gateway
import TraceHeaders.Proofs.Settings
import TraceHeaders.Proofs.Styles

/-! A context that is written in several styles at once is read back as one trace. -/

namespace TraceHeaders

structure Context.Portable (c : Context) : Prop where
  spanId : c.spanId ≠ 0
  low : c.traceId.low ≠ 0
  high : c.traceId.isWide → c.traceId.high ≠ 0
  tags : ∀ e ∈ c.tagSet.tags.entries,
    TagSet.isKey e.1 ∧ TagSet.isValue e.2 ∧ '=' ∉ e.1 ∧ e.1 ≠ TagSet.highHalfKey
  baggage : ∀ e ∈ c.baggage.entries, '=' ∉ e.1 ∧ ';' ∉ e.1 ∧ Text.trim e.1 = e.1 ∧ ';' ∉ e.2
  origin : ∀ o, c.origin = some o → ';' ∉ o

def Settings.carried (s : Settings) (c : Context) : Style → TraceId
  | .traceContext => c.traceId
  | .b3multi => c.traceId
  | .b3single => c.traceId
  | .datadog =>
    if Text.byteLength (TagSet.encode (Datadog.outgoingTags c).tags) ≤ s.tagsLimit then c.traceId
    else .narrow c.traceId.low
  | _ => .narrow c.traceId.low

namespace Context.Portable

variable {c : Context}

lemma ofParts_traceId (h : c.Portable) : .ofParts c.traceId.high c.traceId.low = c.traceId :=
  TraceId.ofParts_of_high h.high

lemma ofNat_traceId (h : c.Portable) : .ofNat c.traceId.toNat = c.traceId :=
  TraceId.ofNat_toNat h.ofParts_traceId

lemma contained (h : c.Portable) : Xray.Contained c :=
  .of_whole h.origin h.baggage

lemma highHalf_datadog (h : c.Portable) {limit : Nat} {v : HeaderView}
    (hv : v.get? Datadog.tagsName = ((Datadog.outgoingTags c).header? limit).value) :
    TraceId.ofParts (Datadog.takeHighHalf (Datadog.tagSet limit v).value).value.1 c.traceId.low =
      if Text.byteLength (TagSet.encode (Datadog.outgoingTags c).tags) ≤ limit then c.traceId
      else .narrow c.traceId.low := by
  split
  · next hl =>
    have hc : ∀ e ∈ (Datadog.outgoingTags c).tags.entries, TagSet.Carried e := by
      apply Datadog.carried_outgoingTags
      intro e he
      obtain ⟨hk, hx, -⟩ := h.tags e he
      exact TagSet.carried_of_isKey hk hx
    obtain ⟨h₁, h₂⟩ := Datadog.highHalf_received hc hl hv
    refine (Datadog.traceId_received_iff h.ofParts_traceId h₁ h₂).mpr ?_
    exact Datadog.keepsTraceId_of_keys fun e he =>
      ⟨(h.tags e he).1, (h.tags e he).2.2.1, (h.tags e he).2.2.2⟩
  · next hl =>
    rw [TagSet.value_header?_of_lt (by omega)] at hv
    rw [Datadog.tagSet, hv]
    rfl

end Context.Portable

namespace Settings

variable {s : Settings} {c : Context} {v : HeaderView}

lemma exists_extract (h : c.Portable) {style : Style} (hs : style ≠ .none)
    (hv : Shows v (s.identity c style) style.headerNames) :
    ∃ r, ((s.codec style).extract v).value = some (.complete r) ∧
      r.traceId = s.carried c style ∧ r.spanId = c.spanId := by
  have hz := TraceId.isZero_of_low h.low
  cases style with
  | datadog =>
    obtain ⟨ht, he⟩ := Datadog.value_extract_headers s.baggageEnabled s.tagsLimit h.low hv
    exact ⟨_, he, h.highHalf_datadog ht, rfl⟩
  | b3multi =>
    have he := B3.value_extractMulti_shown hz h.spanId hv
    rw [h.ofNat_traceId] at he
    exact ⟨_, he, rfl, rfl⟩
  | b3single =>
    have he := B3.value_extractSingle_shown hz h.spanId hv
    rw [h.ofNat_traceId] at he
    exact ⟨_, he, rfl, rfl⟩
  | traceContext =>
    obtain ⟨p, ht, hi, -, he⟩ := TraceContext.value_extract_shown hz h.spanId hv
    refine ⟨_, he, ?_, hi⟩
    change TraceId.ofNat p.traceId = c.traceId
    rw [ht, h.ofNat_traceId]
  | haystack =>
    have hi := Haystack.ids_shown h.low h.spanId hv
    exact ⟨_, Haystack.extract_eq_complete_iff.mpr ⟨_, _, hi, rfl⟩, rfl, rfl⟩
  | xray =>
    obtain ⟨r, he, ht, hi, -⟩ := Xray.exists_extract h.low h.spanId hv h.contained.unaltered
    exact ⟨r, he, ht, hi⟩
  | none => exact absurd rfl hs

lemma carried_eq_or (s : Settings) (c : Context) (style : Style) :
    s.carried c style = c.traceId ∨ s.carried c style = .narrow c.traceId.low := by
  fun_cases carried s c style with
  | case1 => exact .inl rfl
  | case2 => exact .inl rfl
  | case3 => exact .inl rfl
  | case4 => exact .inl rfl
  | case5 => exact .inr rfl
  | case6 => exact .inr rfl

lemma matched_carried (s : Settings) (c : Context) (style other : Style) :
    (s.carried c style).matched (s.carried c other) := by
  have hn := TraceId.matched_narrow c.traceId
  obtain hs | hs := carried_eq_or s c style <;> obtain ho | ho := carried_eq_or s c other <;>
    rw [hs, ho]
  · exact TraceId.matched_self _
  · exact hn
  · rwa [TraceId.matched_comm]
  · exact TraceId.matched_self _

lemma exists_extract_delivered (h : c.Portable) (hm : s.baggageMapping = ∅) {styles : List Style}
    (hn : styles.Nodup) (h0 : Style.none ∉ styles)
    (hv : Delivered (Injector.inject ⟨s.registrations styles⟩ c).value v) {style : Style}
    (hs : style ∈ styles) :
    ∃ r, ((s.codec style).extract v).value = some (.complete r) ∧
      r.traceId = s.carried c style ∧ r.spanId = c.spanId :=
  exists_extract h (fun he => h0 (he ▸ hs)) (shows_identity hm hn hs hv)

lemma matched_of_mem_contexts (h : c.Portable) (hm : s.baggageMapping = ∅) {styles : List Style}
    (hn : styles.Nodup) (h0 : Style.none ∉ styles)
    (hv : Delivered (Injector.inject ⟨s.registrations styles⟩ c).value v) (style : Style)
    {r : Context} (hr : r ∈ Reconcile.contexts (Reconcile.reports v (s.registrations styles))) :
    (s.carried c style).matched r.traceId := by
  obtain ⟨other, ho, he⟩ := Reconcile.mem_contexts_iff.mp hr
  obtain ⟨d, hd, ht, -⟩ := exists_extract_delivered h hm hn h0 hv ho
  obtain rfl : d = r := by
    rw [hd] at he
    exact Finding.complete.inj (Option.some.inj he)
  rw [ht]
  exact matched_carried s c style other

lemma exists_run (h : c.Portable) (hm : s.baggageMapping = ∅) {style : Style} {rest : List Style}
    (hn : (style :: rest).Nodup) (h0 : Style.none ∉ style :: rest)
    (hv : Delivered (Injector.inject ⟨s.registrations (style :: rest)⟩ c).value v) (first : Bool) :
    ∃ r, (Reconcile.run first v {} (s.registrations (style :: rest))).value = some (.complete r) ∧
      r.style = style ∧ r.traceId = s.carried c style ∧ r.spanId = c.spanId ∧ r.links = [] := by
  obtain ⟨w, hw, ht, hi⟩ := exists_extract_delivered h hm hn h0 hv List.mem_cons_self
  have hf := fresh hw
  cases first with
  | true => exact ⟨w, Reconcile.value_run_first hw none _, hf.style_eq, ht, hi, hf.links_eq⟩
  | false =>
    have hc : Reconcile.contexts (Reconcile.reports v (s.registrations (style :: rest))) =
        w :: Reconcile.contexts (Reconcile.reports v (s.registrations rest)) := by
      rw [Reconcile.contexts_reports, List.filterMap_cons, hw, Reconcile.contexts_reports]
      rfl
    have hr := Reconcile.value_run_registrations s hn v
    rw [hc] at hr
    refine ⟨_, hr, hf.style_eq, ht, hi, (Reconcile.reconciled_of_matched ?_).1⟩
    intro r hm'
    rw [ht]
    exact matched_of_mem_contexts h hm hn h0 hv style (hc ▸ List.mem_cons_of_mem w hm')

end Settings

theorem Extractor.extract_inject_styles {s : Settings} {styles : List Style} {c : Context}
    {headers : Snapshot} (hm : s.baggageMapping = ∅) (hi : s.resolvedInject.value = styles)
    (he : s.resolvedExtract.value = styles) (h0 : styles ≠ []) (h1 : styles ≠ [.none])
    (hc : c.Portable)
    (hv : Delivered ((Injector.ofSettings s).value.inject c).value headers.view) :
    ∃ r, ((ofSettings s).value.extract headers).value = some (.complete r) ∧
      styles.head? = some r.style ∧
      r.spanId = c.spanId ∧
      r.links = [] ∧
      r.traceId.matched c.traceId ∧
      r.traceId = s.carried c r.style := by
  have hn : styles.Nodup := hi ▸ Settings.nodup_resolve _ _
  have hs : Style.none ∉ styles := hi ▸ Settings.none_notMem_resolve (hi.trans_ne h1)
  obtain ⟨style, rest, rfl⟩ := List.exists_cons_of_ne_nil h0
  change Delivered (Injector.inject ⟨s.registrations s.resolvedInject.value⟩ c).value _ at hv
  rw [hi] at hv
  obtain ⟨r, hr, rfl, ht, hw, hl⟩ := Settings.exists_run hc hm hn hs hv s.extractFirst
  refine ⟨r, ?_, rfl, hw, hl, ?_, ht⟩
  · change (extract ⟨s.registrations s.resolvedExtract.value, s.extractFirst⟩ headers).value = _
    rw [he]
    exact hr
  · rw [ht]
    exact s.matched_carried c r.style .traceContext

def sixStyles : List Style := [.b3single, .xray, .datadog, .haystack, .traceContext, .b3multi]

def portableContext : Context :=
  { traceId := .wide 1 5
    spanId := 7
    style := .traceContext
    sampling := .ofPriority 2
    origin := some "rum".toList
    tagSet := { tags := .ofList [("_dd.p.dm".toList, "-4".toList)] }
    baggage := .ofList [("user".toList, "a=b".toList)] }

set_option maxRecDepth 10000 in
lemma portable_portableContext : portableContext.Portable where
  spanId := by decide
  low := by decide
  high := by decide
  tags := by decide
  baggage := by decide
  origin := by
    intro o ho
    obtain rfl := Option.some.inj ho
    decide

theorem Extractor.extract_inject_styles_sixStyles :
    let s : Settings := { styles := sixStyles }
    let sent := ((Injector.ofSettings s).value.inject portableContext).value
    s.baggageMapping = ∅ ∧ s.resolvedInject.value = sixStyles ∧
      s.resolvedExtract.value = sixStyles ∧ sixStyles ≠ [] ∧ sixStyles ≠ [.none] ∧
      portableContext.Portable ∧ Delivered sent (Snapshot.view ⟨sent⟩) ∧
      ∃ r, ((ofSettings s).value.extract ⟨sent⟩).value = some (.complete r) ∧
        sixStyles.head? = some r.style ∧
        r.spanId = portableContext.spanId ∧
        r.links = [] ∧
        r.traceId.matched portableContext.traceId ∧
        r.traceId = s.carried portableContext r.style := by
  intro s sent
  have hi : s.resolvedInject.value = sixStyles := by decide
  have he : s.resolvedExtract.value = sixStyles := by decide
  have h0 : sixStyles ≠ [] := by decide
  have h1 : sixStyles ≠ [.none] := by decide
  exact ⟨rfl, hi, he, h0, h1, portable_portableContext, .list,
    extract_inject_styles rfl hi he h0 h1 portable_portableContext .list⟩

end TraceHeaders
