import TraceHeaders.Proofs.Baggage
import TraceHeaders.Proofs.Haystack
import TraceHeaders.Proofs.TraceId

/-! A context that is written in the Haystack style is read back with its baggage. -/

namespace TraceHeaders.Haystack

structure Mappable (mapping : Dict Text) : Prop where
  lower : ∀ e ∈ mapping.entries, Text.lower e.1 = e.1
  identity : ∀ e ∈ mapping.entries, e.1 ∉ names
  baggage : ∀ e ∈ mapping.entries, ¬ baggageStart <+: e.1

section Mapping

variable {mapping : Dict Text} {key name : Text}

lemma get?_of_get?_headers (h : (headers mapping).get? key = some name) :
    mapping.get? name = some key := by
  rw [← Dict.mem_entries_iff] at h ⊢
  obtain ⟨e, he, hk⟩ := List.mem_map.mp (Dict.mem_of_mem_ofList h)
  obtain ⟨rfl, rfl⟩ := Prod.mk.inj hk
  exact he

lemma exists_get?_headers (h : mapping.get? name = some key) :
    ∃ n, (headers mapping).get? key = some n := by
  have he : (key, name) ∈ mapping.entries.map fun e => (e.2, e.1) :=
    List.mem_map.mpr ⟨_, Dict.mem_entries_iff.mpr h, rfl⟩
  obtain ⟨n, hn⟩ := Dict.exists_mem_ofList he
  exact ⟨n, Dict.mem_entries_iff.mp hn⟩

lemma baggageName_cases (mapping : Dict Text) (key : Text) :
    mapping.get? (baggageName mapping key) = some key ∨
      (∀ name, mapping.get? name ≠ some key) ∧ baggageName mapping key = baggageStart ++ key := by
  rw [baggageName]
  cases hk : (headers mapping).get? key with
  | some name => exact .inl (get?_of_get?_headers hk)
  | none =>
    refine .inr ⟨fun name hn => ?_, rfl⟩
    obtain ⟨n, hm⟩ := exists_get?_headers hn
    rw [hk] at hm
    cases hm

namespace Mappable

lemma baggageKey?_eq_none (hm : Mappable mapping) (hn : name ∈ names) :
    baggageKey? mapping name = none := by
  have hp : ∀ n ∈ names, baggageStart.isPrefixOf? n = none := by decide
  have hg : mapping.get? name = none := by
    apply Dict.get?_eq_none
    rintro e he rfl
    exact hm.identity e he hn
  rw [baggageKey?, hg, hp name hn]
  rfl

lemma baggageKey?_baggageName (hm : Mappable mapping) (key : Text) :
    baggageKey? mapping (baggageName mapping key) = some key := by
  obtain hk | ⟨-, hk⟩ := baggageName_cases mapping key
  · rw [baggageKey?, hk, Option.some_or]
  · have hg : mapping.get? (baggageStart ++ key) = none := by
      apply Dict.get?_eq_none
      intro e he h
      exact hm.baggage e he (h ▸ List.prefix_append baggageStart key)
    rw [hk, baggageKey?, hg, Option.none_or]
    exact List.isPrefixOf?_eq_some_iff_append_eq.mpr rfl

lemma lower_baggageName (hm : Mappable mapping)
    (h : (∃ name, mapping.get? name = some key) ∨ Text.lower key = key) :
    Text.lower (baggageName mapping key) = baggageName mapping key := by
  obtain hk | ⟨hn, hk⟩ := baggageName_cases mapping key
  · exact hm.lower _ (Dict.mem_entries_iff.mpr hk)
  · rw [hk]
    exact lower_append_of_plain (by decide) (h.resolve_left fun ⟨name, hk⟩ => hn name hk)

end Mappable

end Mapping

section Written

variable {mapping : Dict Text} {c : Context} {v : HeaderView}

lemma plainHeaders_identity (c : Context) : PlainHeaders (identity c) :=
  .of_sublist names (names_identity c) (by decide) (by decide)

lemma Mappable.apart (hm : Mappable mapping)
    (hb : ∀ e ∈ c.baggage.entries,
      (∃ name, mapping.get? name = some e.1) ∨ Text.lower e.1 = e.1) :
    Baggage.Apart (baggageKey? mapping) (baggageName mapping) names c.baggage where
  names n hn := by
    have hp : ∀ n ∈ names, isPlainName n := by decide
    exact ⟨hp n hn, hm.baggageKey?_eq_none hn⟩
  key e _ := hm.baggageKey?_baggageName e.1
  lower e he := hm.lower_baggageName (hb e he)

end Written

theorem extract_inject_mapped {mapping : Dict Text} {c : Context} {v : HeaderView}
    (hm : Mappable mapping) (hl : c.traceId.low ≠ 0) (hs : c.spanId ≠ 0)
    (hb : ∀ e ∈ c.baggage.entries,
      (∃ name, mapping.get? name = some e.1) ∨ Text.lower e.1 = e.1)
    (hv : Delivered ((codec mapping).inject c).value v) :
    ∃ r, ((codec mapping).extract v).value = some (.complete r) ∧
      r.traceId = .narrow c.traceId.low ∧
      r.spanId = c.spanId ∧
      r.sampling.priority = some Sampling.autoKeep ∧
      r.baggage = c.baggage := by
  have ha := hm.apart hb
  have hp := plainHeaders_identity c
  have hi := ids_shown hl hs (ha.shows hp hv)
  exact ⟨_, extract_eq_complete_iff.mpr ⟨_, _, hi, rfl⟩, rfl, rfl, rfl,
    ha.value_extract_beside hp (names_identity c).subset hv⟩

def tenantMapping : Dict Text :=
  .ofList [("x-tenant".toList, "Tenant".toList), ("user-agent".toList, "clé".toList)]

lemma mappable_tenantMapping : Mappable tenantMapping where
  lower := by decide
  identity := by decide
  baggage := by decide

def tenantContext : Context :=
  { traceId := .wide 1 5
    spanId := 7
    style := .xray
    baggage := .ofList
      [("Tenant".toList, "a b".toList), ("clé".toList, "é%+".toList), ("user".toList, []),
        ([], "-".toList)] }

set_option maxRecDepth 10000 in
theorem extract_inject_mapped_tenantContext :
    let m := tenantMapping
    let c := tenantContext
    let v := HeaderMap.view (HeaderMap.setAll ∅ ((codec m).inject c).value)
    Mappable m ∧ c.traceId.low ≠ 0 ∧ c.spanId ≠ 0 ∧
      (∀ e ∈ c.baggage.entries, (∃ name, m.get? name = some e.1) ∨ Text.lower e.1 = e.1) ∧
      Delivered ((codec m).inject c).value v ∧
      ∃ r, ((codec m).extract v).value = some (.complete r) ∧
        r.traceId = .narrow 5 ∧
        r.spanId = 7 ∧
        r.sampling.priority = some Sampling.autoKeep ∧
        r.baggage = c.baggage := by
  intro m c v
  have hl : c.traceId.low ≠ 0 := by decide
  have hs : c.spanId ≠ 0 := by decide
  have hb : ∀ e ∈ c.baggage.entries, (∃ name, m.get? name = some e.1) ∨ Text.lower e.1 = e.1 := by
    have ht : ∀ e ∈ c.baggage.entries,
        m.get? "x-tenant".toList = some e.1 ∨ Text.lower e.1 = e.1 := by decide
    exact fun e he => (ht e he).imp_left fun hk => ⟨_, hk⟩
  exact ⟨mappable_tenantMapping, hl, hs, hb, .map,
    extract_inject_mapped mappable_tenantMapping hl hs hb .map⟩

end TraceHeaders.Haystack
