import TraceHeaders.Proofs.Findings
import TraceHeaders.Proofs.Snapshot

/-! Codecs cannot tell apart two views that show the same under ASCII names. -/

namespace TraceHeaders

structure Alike (v w : HeaderView) : Prop where
  get? : ∀ n, Text.isAscii n → v.get? n = w.get? n
  getAll : ∀ n, Text.isAscii n → v.getAll n = w.getAll n
  found : ∀ key?, (Baggage.found key? v).Perm (Baggage.found key? w)

section Codecs

variable {v w : HeaderView}

lemma RequestTags.collect_alike (h : Alike v w) : collect v = collect w := by
  have hn : ∀ n ∈ wholeHeaders ++ firstHopHeaders, Text.isAscii n := by decide
  exact collect_congr fun n hm => h.get? n (hn n hm)

lemma RequestTags.finding?_alike (h : Alike v w) (style : Style) (origin : Option Text)
    (baggage : Dict Text) : finding? style v origin baggage = finding? style w origin baggage :=
  finding?_congr (collect_alike h) style origin baggage

lemma Baggage.value_extract_alike (h : Alike v w) {key? : Text → Option Text}
    (hn : ((found key? v).map (·.1)).Nodup) : (extract key? v).value = (extract key? w).value := by
  have hk : ∀ es : List (Text × Text),
      (es.map fun e => (decodeEntry e).value).map (·.1) = es.map (·.1) := by
    intro es
    rw [List.map_map]
    rfl
  rw [extract, extract, Logged.value_bind, Logged.value_bind, Logged.value_mapM, Logged.value_mapM]
  apply Dict.ofList_congr ((h.found key?).map _)
  rwa [hk]

lemma Datadog.value_extract_alike (h : Alike v w) (enabled : Bool) (limit : Nat)
    (hb : (extractBaggage enabled v).value = (extractBaggage enabled w).value) :
    (extract enabled limit v).value = (extract enabled limit w).value := by
  have ht : traceId v = traceId w := by
    rw [traceId, traceId, h.get? traceIdName (by decide)]
  have hp : parentAndPriority v = parentAndPriority w := by
    rw [parentAndPriority, parentAndPriority, parentId, parentId, priority, priority,
      h.get? parentIdName (by decide), h.get? priorityName (by decide)]
  have ho : origin? v = origin? w := by rw [origin?, origin?, h.get? originName (by decide)]
  have hs : tagSet limit v = tagSet limit w := by
    rw [tagSet, tagSet, h.get? tagsName (by decide)]
  rw [extract, extract, Logged.value_bind, Logged.value_bind, hb, ht, hp, ho, hs,
    RequestTags.collect_alike h, RequestTags.finding?_alike h]

lemma B3.extractMulti_alike (h : Alike v w) : extractMulti v = extractMulti w := by
  have hs : multiState v = multiState w := by
    rw [multiState, multiState, h.get? flagsName (by decide), h.get? sampledName (by decide)]
  have hc : ∀ t i s, context .b3multi v t i s = context .b3multi w t i s := by
    intro t i s
    rw [context, context, RequestTags.collect_alike h]
  simp only [extractMulti, hs, hc, h.get? traceIdName (by decide), h.get? spanIdName (by decide),
    RequestTags.finding?_alike h]

lemma B3.extractSingle_alike (h : Alike v w) : extractSingle v = extractSingle w := by
  have hc : ∀ t i s, context .b3single v t i s = context .b3single w t i s := by
    intro t i s
    rw [context, context, RequestTags.collect_alike h]
  simp only [extractSingle, hc, h.get? singleName (by decide), RequestTags.finding?_alike h]

lemma TraceContext.extract_alike (h : Alike v w) : extract v = extract w := by
  have hs : readState v = readState w := by
    rw [readState, readState, h.getAll stateName (by decide)]
  exact extract_congr (h.get? parentName (by decide)) hs (RequestTags.collect_alike h)

lemma Haystack.value_extract_alike (h : Alike v w) (mapping : Dict Text)
    (hb : (Baggage.extract (baggageKey? mapping) v).value =
      (Baggage.extract (baggageKey? mapping) w).value) :
    (extract mapping v).value = (extract mapping w).value := by
  have hi : ids v = ids w := by
    have hn : ∀ n, Text.isAscii n → id v n = id w n := by
      intro n hn
      rw [id, id, h.get? n hn]
    rw [ids, ids, hn traceIdName (by decide), hn spanIdName (by decide),
      hn parentIdName (by decide), h.get? parentIdName (by decide)]
  rw [extract, extract, Logged.value_bind, Logged.value_bind, hb, hi,
    RequestTags.collect_alike h, RequestTags.finding?_alike h]

lemma Xray.extract_alike (h : Alike v w) : extract v = extract w := by
  simp only [extract, h.get? headerName (by decide), RequestTags.collect_alike h,
    RequestTags.finding?_alike h]

structure SameBaggage (s : Settings) (styles : List Style) (v w : HeaderView) : Prop where
  datadog : .datadog ∈ styles → (Datadog.extractBaggage s.baggageEnabled v).value =
    (Datadog.extractBaggage s.baggageEnabled w).value
  haystack : .haystack ∈ styles →
    (Baggage.extract (Haystack.baggageKey? s.baggageMapping) v).value =
      (Baggage.extract (Haystack.baggageKey? s.baggageMapping) w).value

lemma Settings.value_extract_alike {s : Settings} {styles : List Style} (h : Alike v w)
    (hb : SameBaggage s styles v w) {style : Style} (hs : style ∈ styles) :
    ((s.codec style).extract v).value = ((s.codec style).extract w).value := by
  cases style with
  | datadog => exact Datadog.value_extract_alike h _ _ (hb.datadog hs)
  | b3multi => exact congrArg Logged.value (B3.extractMulti_alike h)
  | b3single => exact congrArg Logged.value (B3.extractSingle_alike h)
  | traceContext => exact congrArg Logged.value (TraceContext.extract_alike h)
  | haystack => exact Haystack.value_extract_alike h _ (hb.haystack hs)
  | xray => exact congrArg Logged.value (Xray.extract_alike h)
  | none => rfl

lemma Reconcile.value_run_congr (first : Bool) (p : Progress) {rs : List Registration}
    (h : ∀ r ∈ rs, (r.2.extract v).value = (r.2.extract w).value) :
    (run first v p rs).value = (run first w p rs).value := by
  induction rs generalizing p with
  | nil => rfl
  | cons r rs ih =>
    obtain ⟨hr, hrs⟩ := List.forall_mem_cons.mp h
    rw [run, run, Logged.value_bind, Logged.value_bind, Logged.value_bind, Logged.value_bind, hr]
    split
    · rfl
    · exact ih _ hrs

end Codecs

section Lists

variable {s : Settings} {hs es : List Header}

lemma SameValues.alike (h : SameValues hs es) (hh : AsciiNames hs) (he : AsciiNames es) :
    Alike (Snapshot.view ⟨hs⟩) (Snapshot.view ⟨es⟩) :=
  ⟨fun n _ => h.get? n, fun n _ => h.getAll n, h.found_perm hh he⟩

lemma unambiguous_afterStart (ha : AsciiNames hs) (start : Text) :
    Unambiguous start.isPrefixOf? hs := by
  intro h hh e he hk heq
  obtain ⟨key, hk⟩ := Option.isSome_iff_exists.mp hk
  have hl : Text.lower h.1 = Text.lower e.1 := by
    rw [← List.isPrefixOf?_eq_some_iff_append_eq.mp hk,
      List.isPrefixOf?_eq_some_iff_append_eq.mp (heq.symm.trans hk)]
  rw [lower_of_isAscii (ha h hh), lower_of_isAscii (ha e he)] at hl
  exact beq_iff_eq.mpr hl

lemma SameValues.value_extract_registrations (h : SameValues hs es) (hh : AsciiNames hs)
    (he : AsciiNames es) {styles : List Style}
    (hu : .haystack ∈ styles → Unambiguous (Haystack.baggageKey? s.baggageMapping) hs)
    (first : Bool) :
    (Extractor.extract ⟨s.registrations styles, first⟩ ⟨hs⟩).value =
      (Extractor.extract ⟨s.registrations styles, first⟩ ⟨es⟩).value := by
  have ha := h.alike hh he
  have hb : SameBaggage s styles (Snapshot.view ⟨hs⟩) (Snapshot.view ⟨es⟩) := by
    constructor
    · intro _
      rw [Datadog.extractBaggage, Datadog.extractBaggage]
      split
      · exact Baggage.value_extract_alike ha ((unambiguous_afterStart hh _).nodup_found hh)
      · rfl
    · intro hm
      exact Baggage.value_extract_alike ha ((hu hm).nodup_found hh)
  apply Reconcile.value_run_congr
  intro r hr
  obtain ⟨style, hm, rfl⟩ := List.mem_map.mp hr
  exact Settings.value_extract_alike ha hb hm

/-- What is extracted hangs on neither the letter case of the names nor on how different headers are
interleaved. No two headers of the Haystack style may say one baggage entry. -/
theorem Extractor.extract_sameValues (s : Settings) (hh : AsciiNames hs) (he : AsciiNames es)
    (h : SameValues hs es)
    (hu : .haystack ∈ (ofSettings s).value.styles →
      Unambiguous (Haystack.baggageKey? s.baggageMapping) hs) :
    ((ofSettings s).value.extract ⟨hs⟩).value = ((ofSettings s).value.extract ⟨es⟩).value := by
  have hm : (ofSettings s).value.styles = s.resolvedExtract.value := by
    change (s.registrations s.resolvedExtract.value).map (·.1) = _
    rw [Settings.registrations, List.map_map]
    exact List.map_id _
  rw [hm] at hu
  exact h.value_extract_registrations hh he hu s.extractFirst

def mixedSettings : Settings where
  extractStyles := [.datadog, .traceContext, .haystack]
  baggageMapping := .ofList [("x-user".toList, "user".toList)]

def mixedHeaders : List Header :=
  [("X-Datadog-Trace-Id".toList, "5".toList), ("x-datadog-trace-id".toList, "6".toList),
    ("x-datadog-parent-id".toList, "7".toList), ("tracestate".toList, "v=1".toList),
    ("tracestate".toList, "dd=p:000000000000000c".toList),
    ("traceparent".toList, "00-00000000000000000000000000000005-0000000000000009-01".toList),
    ("ot-baggage-a".toList, "1".toList), ("ot-baggage-B".toList, "2".toList),
    ("X-User".toList, "u".toList), ("baggage-a".toList, "3".toList)]

def shuffledHeaders : List Header :=
  [("Baggage-A".toList, "3".toList), ("Tracestate".toList, "v=1".toList),
    ("OT-baggage-b".toList, "2".toList), ("x-user".toList, "u".toList),
    ("x-datadog-Trace-id".toList, "5".toList),
    ("TRACEPARENT".toList, "00-00000000000000000000000000000005-0000000000000009-01".toList),
    ("X-Datadog-Parent-Id".toList, "7".toList), ("x-datadog-trace-id".toList, "6".toList),
    ("ot-baggage-a".toList, "1".toList),
    ("traceState".toList, "dd=p:000000000000000c".toList)]

theorem Extractor.extract_sameValues_shuffledHeaders :
    AsciiNames mixedHeaders ∧ AsciiNames shuffledHeaders ∧
      SameValues mixedHeaders shuffledHeaders ∧
      .haystack ∈ (ofSettings mixedSettings).value.styles ∧
      Unambiguous (Haystack.baggageKey? mixedSettings.baggageMapping) mixedHeaders ∧
      (((ofSettings mixedSettings).value.extract ⟨mixedHeaders⟩).value).isSome ∧
      ((ofSettings mixedSettings).value.extract ⟨mixedHeaders⟩).value =
        ((ofSettings mixedSettings).value.extract ⟨shuffledHeaders⟩).value := by
  have hh : AsciiNames mixedHeaders := by unfold AsciiNames; decide
  have he : AsciiNames shuffledHeaders := by unfold AsciiNames; decide
  have h : SameValues mixedHeaders shuffledHeaders := by decide +kernel
  have hu : Unambiguous (Haystack.baggageKey? mixedSettings.baggageMapping) mixedHeaders := by
    unfold Unambiguous
    decide +kernel
  exact ⟨hh, he, h, by decide, hu, by decide +kernel,
    extract_sameValues mixedSettings hh he h fun _ => hu⟩

end Lists

end TraceHeaders
