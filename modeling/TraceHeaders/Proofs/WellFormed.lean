import TraceHeaders.Proofs.B3
import TraceHeaders.Proofs.Haystack
import TraceHeaders.Proofs.Reconcile.Outcome
import TraceHeaders.Proofs.Reconcile.Provenance
import TraceHeaders.Proofs.RoundTrip.TagSet
import TraceHeaders.Proofs.TraceId
import TraceHeaders.Proofs.TraceParent
import TraceHeaders.Proofs.TraceState.Reading

/-! What holds of every context that is extracted. -/

namespace TraceHeaders

def IsParentId (t : Text) : Prop := t.length = 16 ∧ ∀ c ∈ t, Text.isLowerHexDigit c

structure Link.WellFormed (l : Link) : Prop where
  high : l.traceId.isWide → l.traceId.high ≠ 0
  spanId : l.spanId = 0 → l.attributes.get? "context_headers".toList = some Style.datadog.name
  flags : l.flags = 0 ∨ l.flags = 1

structure Context.WellFormed (c : Context) : Prop where
  high : c.traceId.isWide → c.traceId.high ≠ 0
  lastParent : ∀ t, c.tagSet.lastParent = some t → IsParentId t
  keys : ∀ k ∈ c.tagSet.tags.keys, TagSet.keyStart <+: k
  debug : c.tagSet.isDebug → (c.style = .b3multi ∨ c.style = .b3single) ∧
    c.sampling.priority = some Sampling.userKeep
  spanId : c.spanId = 0 → c.style = .datadog
  links : ∀ l ∈ c.links, l.WellFormed

namespace TraceId

lemma high_ofParts_ne_zero {h l : UInt64} (hw : (ofParts h l).isWide) : (ofParts h l).high ≠ 0 := by
  apply high_ne_zero _ hw
  rw [high_ofParts, low_ofParts]

lemma high_ofNat_ne_zero {n : Nat} (hw : (ofNat n).isWide) : (ofNat n).high ≠ 0 :=
  high_ne_zero (ofParts_ofNat n) hw

end TraceId

lemma isParentId_hexWord (w : UInt64) : IsParentId (Text.hexWord w) :=
  Text.length_and_mem_hexWord w

namespace Datadog

lemma keyStart_of_mem_tagSet {limit : Nat} {v : HeaderView} {k : Text}
    (hk : k ∈ (tagSet limit v).value.tags.keys) : TagSet.keyStart <+: k := by
  obtain ⟨e, he, rfl⟩ := List.mem_map.mp hk
  unfold tagSet at he
  split at he
  · cases he
  · obtain ⟨-, hi, hv, -⟩ := TagSet.of_mem_ofHeader he
    exact (TagSet.carried_of_isKey hi hv).start

lemma keys_takeHighHalf_subset (s : TagSet) :
    (takeHighHalf s).value.2.tags.keys ⊆ s.tags.keys := by
  have he : (s.erase TagSet.highHalfKey).tags.keys ⊆ s.tags.keys :=
    List.map_subset _ (List.filter_subset_self _)
  unfold takeHighHalf
  split
  · exact List.Subset.refl _
  split
  · exact he
  · exact he

lemma wellFormed {b : Bool} {limit : Nat} {v : HeaderView} {c : Context}
    (h : (extract b limit v).value = some (.complete c)) : c.WellFormed := by
  have hf := fresh h
  obtain ⟨low, parent, p, -, -, rfl⟩ := extract_eq_complete_iff.mp h
  obtain ⟨tags, error, ht⟩ := tagSet_value limit v
  obtain ⟨tags', error', hs⟩ := takeHighHalf_value (tagSet limit v).value
  rw [ht] at hs
  exact {
    high := TraceId.high_ofParts_ne_zero
    lastParent := by
      intro t hl
      rw [hf.lastParent_eq (by decide)] at hl
      cases hl
    keys := fun k hk => keyStart_of_mem_tagSet (keys_takeHighHalf_subset _ hk)
    debug := by
      intro hd
      simp only [contextOf, ht, hs] at hd
      cases hd
    spanId := fun _ => rfl
    links := List.forall_mem_nil _ }

end Datadog

namespace B3

lemma spanId_of_ids {a b : Option Text} {t : TraceId} {s : UInt64} (h : ids a b = .ok (t, s)) :
    s ≠ 0 := by
  obtain ⟨m, n, -, hn, -, rfl⟩ := ids_eq_ok_iff.mp h
  obtain ⟨u, -, hu⟩ := Option.bind_eq_some_iff.mp hn
  exact mt (Text.ofNat_eq_zero_iff (id?_lt hu)).mp (id?_eq_some_iff.mp hu).2.2

lemma wellFormed_context {style : Style} (hs : style = .b3multi ∨ style = .b3single)
    (v : HeaderView) {a b : Option Text} {t : TraceId} {s : UInt64} (hi : ids a b = .ok (t, s))
    (st : State) : (context style v t s st).WellFormed where
  high := by
    obtain ⟨m, n, -, -, rfl, -⟩ := ids_eq_ok_iff.mp hi
    exact TraceId.high_ofNat_ne_zero
  lastParent _ hl := nomatch hl
  keys := List.forall_mem_nil _
  debug hd := by
    obtain rfl : st = .debug := of_decide_eq_true hd
    exact ⟨hs, rfl⟩
  spanId h0 := absurd h0 (spanId_of_ids hi)
  links := List.forall_mem_nil _

end B3

namespace TraceContext

lemma own_wellFormed {v : HeaderView} {s : Text × TraceState.Own}
    (h : (readState v).value = some s) :
    (∀ t, s.2.lastParent = some t → IsParentId t) ∧
      ∀ k ∈ s.2.tags.keys, TagSet.keyStart <+: k := by
  obtain ⟨values, hr⟩ := exists_read_of_readState h
  constructor
  · obtain ⟨-, t, -, ho⟩ := TraceState.exists_items_of_read hr
    intro p hp
    simp only [ho, TraceState.Own.value_readAll, Option.or_none] at hp
    have hm := (List.mem_filter.mp (TraceState.mem_of_stated hp)).2
    rwa [TraceState.isParent, Bool.and_eq_true, decide_eq_true_eq, List.all_eq_true] at hm
  · intro k hk
    obtain ⟨e, he, rfl⟩ := List.mem_map.mp hk
    exact (TraceState.carried_read hr e he).start

lemma wellFormed {v : HeaderView} {c : Context} (h : (extract v).value = some (.complete c)) :
    c.WellFormed := by
  obtain ⟨t, p, -, hp, rfl⟩ := extract_eq_complete_iff.mp h
  have ho : (∀ t, (context v p (readState v).value).tagSet.lastParent = some t → IsParentId t) ∧
      ∀ k ∈ (context v p (readState v).value).tagSet.tags.keys, TagSet.keyStart <+: k := by
    cases hs : (readState v).value with
    | none => exact ⟨fun _ hl => (nomatch hl), List.forall_mem_nil _⟩
    | some s => exact own_wellFormed hs
  exact {
    high := TraceId.high_ofNat_ne_zero
    lastParent := ho.1
    keys := ho.2
    debug := fun hd => nomatch hd
    spanId := fun h0 => absurd h0 (TraceParent.spanId_ne_zero_of_ofText hp)
    links := List.forall_mem_nil _ }

end TraceContext

lemma Context.wellFormed_of_narrow {c : Context} {t : UInt64} (ht : c.traceId = .narrow t)
    (hs : c.spanId ≠ 0) (hg : c.tagSet = {}) (hl : c.links = []) : c.WellFormed where
  high hw := by
    rw [ht] at hw
    cases hw
  lastParent _ hp := by
    rw [hg] at hp
    cases hp
  keys := by
    rw [hg]
    exact List.forall_mem_nil _
  debug hd := by
    rw [hg] at hd
    cases hd
  spanId h0 := absurd h0 hs
  links := by
    rw [hl]
    exact List.forall_mem_nil _

lemma Settings.wellFormed {s : Settings} {style : Style} {v : HeaderView} {c : Context}
    (h : ((s.codec style).extract v).value = some (.complete c)) : c.WellFormed := by
  cases style with
  | datadog => exact Datadog.wellFormed h
  | b3multi =>
    obtain ⟨t, i, st, hi, -, rfl⟩ := B3.extractMulti_eq_complete_iff.mp h
    exact B3.wellFormed_context (.inl rfl) v hi st
  | b3single =>
    obtain ⟨header, t, i, st, -, -, hr, rfl⟩ := B3.extractSingle_eq_complete_iff.mp h
    obtain ⟨a, b, hi⟩ := B3.exists_ids_of_readSingle hr
    exact B3.wellFormed_context (.inr rfl) v hi st
  | traceContext => exact TraceContext.wellFormed h
  | haystack =>
    obtain ⟨t, i, hi, rfl⟩ := Haystack.extract_eq_complete_iff.mp h
    exact Context.wellFormed_of_narrow rfl (Haystack.id_ne_zero (Haystack.ids_eq_ok_iff.mp hi).2.1)
      rfl rfl
  | xray =>
    obtain ⟨t, r, -, -, hc⟩ := Xray.extract_eq_complete_iff.mp h
    obtain ⟨t, i, -, hi, rfl⟩ := Xray.context_eq_ok_iff.mp hc
    exact Context.wellFormed_of_narrow rfl
      (of_decide_eq_true (Option.filter_eq_some_iff.mp hi).2) rfl rfl
  | none => cases h

namespace Context.WellFormed

variable {c w : Context}

lemma withState (h : w.WellFormed) (state : Option Text) {parent : Option Text}
    (hp : ∀ t, parent = some t → IsParentId t) :
    Context.WellFormed
      { w with tagSet := { w.tagSet with traceState := state, lastParent := parent } } :=
  { h with lastParent := hp }

lemma terminated (h : c.WellFormed) : (Link.terminated c).WellFormed where
  high := h.high
  spanId h0 := by rw [Reconcile.style_terminated, h.spanId h0]
  flags := by
    rw [Link.terminated]
    split
    · exact .inr rfl
    · exact .inl rfl

lemma addLink (h : w.WellFormed) {l : Link} (hl : l.WellFormed) :
    Context.WellFormed { w with links := w.links ++ [l] } :=
  { h with links := List.forall_mem_append.mpr ⟨h.links, List.forall_mem_singleton.mpr hl⟩ }

lemma absorb (h : w.WellFormed) (hc : c.WellFormed) (style : Style) :
    (Reconcile.absorb style w c).value.WellFormed := by
  obtain ⟨-, -, hx⟩ | ⟨-, -, hx⟩ | ⟨-, hx⟩ := Reconcile.absorb_cases style w c
  · rw [hx]
    apply h.withState
    intro t ht
    obtain ht | ⟨-, ht⟩ := Option.or_eq_some_iff.mp ht
    · exact hc.lastParent t ht
    · exact h.lastParent t ht
  · rw [hx]
    exact h
  · rw [hx]
    exact h.addLink hc.terminated

end Context.WellFormed

namespace Reconcile

lemma style_absorb (style : Style) (w c : Context) : (absorb style w c).value.style = w.style := by
  obtain ⟨links, tagSet, h⟩ := exists_value_absorb style w c
  rw [h]

structure Progress.WellFormed (styles : List Style) (p : Progress) : Prop where
  chosen : ∀ c, p.chosen = some c → c.style ∈ styles ∧ c.WellFormed
  traceContext : ∀ s, p.traceContext = some s → ∀ t, s.lastParent = some t → IsParentId t

namespace Progress.WellFormed

variable {styles : List Style} {p : Progress}

lemma step (h : p.WellFormed styles) (style : Style) {f : Option Finding}
    (hf : ∀ c, f = some (.complete c) → c.style ∈ styles ∧ c.WellFormed) :
    (p.step style f).value.WellFormed styles := by
  rcases f with _ | c | i
  · exact h
  · obtain ⟨hs, hc⟩ := hf c rfl
    rw [value_step_complete]
    constructor
    · intro w hw
      obtain rfl := Option.some.inj hw
      cases hx : p.chosen with
      | none => exact ⟨hs, hc⟩
      | some x =>
        obtain ⟨hm, hx⟩ := h.chosen x hx
        exact ⟨(style_absorb style x c).symm ▸ hm, hx.absorb hc style⟩
    · intro s hr
      change (p.record style c).traceContext = some s at hr
      rw [record_traceContext] at hr
      split at hr
      · obtain rfl := Option.some.inj hr
        exact hc.lastParent
      · exact h.traceContext s hr
  · rw [value_step_incomplete]
    exact ⟨h.chosen, h.traceContext⟩

lemma lastParent? (h : p.WellFormed styles) {t : Text}
    (ht : Reconcile.lastParent? p.datadog p.traceContext = some t) : IsParentId t := by
  unfold Reconcile.lastParent? at ht
  split at ht
  · next d s hd hs =>
    split at ht
    · obtain rfl := Option.some.inj ht
      cases hf : s.lastParent.filter (· ≠ noParent) with
      | none => exact isParentId_hexWord d.spanId
      | some x => exact h.traceContext s hs x (Option.filter_eq_some_iff.mp hf).1
    · cases ht
  · cases ht

lemma finding (h : p.WellFormed styles) {r : Context} (hr : p.finding = some (.complete r)) :
    r.style ∈ styles ∧ r.WellFormed := by
  obtain ⟨w, hc, rfl⟩ := exists_chosen_of_finding hr
  obtain ⟨hs, hw⟩ := h.chosen w hc
  refine ⟨hs, hw.withState _ fun t ht => ?_⟩
  obtain ht | ⟨-, ht⟩ := Option.or_eq_some_iff.mp ht
  · exact h.lastParent? ht
  · exact hw.lastParent t ht

end Progress.WellFormed

lemma wellFormed_run {styles : List Style} {rs : List Registration} {v : HeaderView}
    (hc : ∀ x ∈ rs, ∀ c, (x.2.extract v).value = some (.complete c) →
      c.style ∈ styles ∧ c.WellFormed) {first : Bool} {r : Context}
    (hr : (run first v {} rs).value = some (.complete r)) : r.style ∈ styles ∧ r.WellFormed := by
  have hp : Progress.WellFormed styles {} := ⟨fun _ h => (nomatch h), fun _ h => (nomatch h)⟩
  obtain ⟨e, he, hw | hf⟩ := exists_chosen_of_run (Progress.WellFormed styles)
    (fun x hx _ hp => hp.step x.1 (hc x hx)) hp hr
  · exact he.chosen r hw
  · exact he.finding hf

end Reconcile

namespace TagSet

def localTags (s : TagSet) : List (Text × Text) :=
  s.lastParent.toList.map ("_dd.parent_id".toList, ·) ++
    s.error.toList.map ("_dd.propagation_error".toList, ·)

lemma keys_localTags (s : TagSet) :
    (s.localTags.map (·.1)).Sublist ["_dd.parent_id".toList, "_dd.propagation_error".toList] := by
  rw [localTags]
  cases s.lastParent <;> cases s.error <;> simp

lemma entries_spanTags {s : TagSet} (h : ∀ k ∈ s.tags.keys, keyStart <+: k) :
    s.spanTags.entries.Perm (s.tags.entries ++ s.localTags) := by
  rw [spanTags, ← Dict.insertMany_append, ← localTags]
  apply Dict.perm_insertMany
  rw [List.map_append, List.nodup_append]
  refine ⟨s.tags.nodup_keys, s.keys_localTags.nodup (by decide), ?_⟩
  rintro k hk _ hl rfl
  have hn : ∀ n ∈ ["_dd.parent_id".toList, "_dd.propagation_error".toList], ¬ keyStart <+: n := by
    decide
  exact hn k (s.keys_localTags.subset hl) (h k hk)

end TagSet

theorem Extractor.wellFormed_extract (s : Settings) (headers : Snapshot) {r : Context}
    (hr : ((ofSettings s).value.extract headers).value = some (.complete r)) :
    r.style ∈ s.resolvedExtract.value ∧ r.WellFormed ∧
      r.tagSet.spanTags.entries.Perm (r.tagSet.tags.entries ++ r.tagSet.localTags) := by
  have hc : ∀ x ∈ s.registrations s.resolvedExtract.value, ∀ c,
      (x.2.extract headers.view).value = some (.complete c) →
        c.style ∈ s.resolvedExtract.value ∧ c.WellFormed := by
    intro x hx c hc
    obtain ⟨style, hs, rfl⟩ := List.mem_map.mp hx
    exact ⟨(Settings.fresh hc).style_eq ▸ hs, Settings.wellFormed hc⟩
  obtain ⟨hs, hw⟩ := Reconcile.wellFormed_run hc hr
  exact ⟨hs, hw, TagSet.entries_spanTags hw.keys⟩

def foreignHeaders : Snapshot :=
  ⟨[("x-datadog-trace-id".toList, "5".toList),
    ("x-datadog-tags".toList, "_dd.p.dm=-4,_dd.p.tid=0000000000000001".toList),
    ("traceparent".toList, "00-00000000000000010000000000000005-0000000000000009-01".toList),
    ("tracestate".toList, "dd=p:000000000000000c".toList),
    ("x-b3-traceid".toList, "a".toList), ("x-b3-spanid".toList, "b".toList),
    ("x-b3-flags".toList, "1".toList)]⟩

set_option maxRecDepth 10000 in
theorem Extractor.wellFormed_extract_foreignHeaders :
    let s : Settings := { extractStyles := [.datadog, .traceContext, .b3multi] }
    let r : Context :=
      { traceId := .wide 1 5
        spanId := 0
        style := .datadog
        sampling := { mechanism := some 4 }
        tagSet :=
          { tags := .ofList [("_dd.p.dm".toList, "-4".toList)]
            traceState := some "dd=p:000000000000000c".toList
            lastParent := some "000000000000000c".toList }
        links := [.terminated
          { traceId := .narrow 10
            spanId := 11
            style := .b3multi
            sampling := .ofPriority 2
            tagSet := { isDebug := true } }] }
    ((ofSettings s).value.extract foreignHeaders).value = some (.complete r) ∧
      r.style ∈ s.resolvedExtract.value ∧ r.WellFormed ∧
      r.tagSet.spanTags.entries.Perm (r.tagSet.tags.entries ++ r.tagSet.localTags) := by
  intro s r
  have hr : ((ofSettings s).value.extract foreignHeaders).value = some (.complete r) := by decide
  exact ⟨hr, wellFormed_extract s foreignHeaders hr⟩

end TraceHeaders
