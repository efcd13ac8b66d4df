import TraceHeaders.Proofs.Delivery
import TraceHeaders.Proofs.Xray.Writing

/-! A context that is written as an X-Ray header is read back, unless its origin or its baggage
makes a field that is taken for one of the identity. -/

namespace TraceHeaders.Xray

variable {c : Context} {v : HeaderView}

def headers (c : Context) : List Header := [(headerName, header c)]

lemma value_inject (c : Context) : (inject c).value = headers c := by
  simp only [inject]
  split <;> rfl

lemma shows_headers (hv : Delivered (inject c).value v) : Shows v (headers c) [headerName] := by
  have hm : ∀ n ∈ [headerName], isPlainName n := by decide
  have hp : PlainHeaders (headers c) := .of_sublist [headerName] (.refl _) hm (by decide)
  rw [value_inject] at hv
  exact hv.shows_self hp hm

lemma get?_header (hv : Shows v (headers c) [headerName]) : v.get? headerName = some (header c) :=
  (hv headerName (List.mem_singleton_self _)).1

def told (s : Sampling) : Sampling :=
  (s.isSampled.map fun b => .ofPriority (if b then Sampling.autoKeep else Sampling.autoReject)).getD {}

lemma isSampled_told (s : Sampling) : (told s).isSampled = s.isSampled := by
  rw [told]
  rcases s.isSampled with _ | b
  · rfl
  · cases b <;> rfl

lemma after_identityFields (c : Context) :
    Reading.after {} (identityFields c) =
      { traceId := some c.traceId.low, spanId := some c.spanId, sampling := told c.sampling } := by
  have hn := root?_rootText c.traceId.low
  have hp := parent?_hexWord c.spanId
  rw [identityFields, told]
  generalize rootText c.traceId.low = x at hn
  generalize Text.hexWord c.spanId = y at hp
  rw [← hn, ← hp]
  rcases c.sampling.isSampled with _ | b
  · rfl
  · cases b <;> rfl

lemma readable_identityFields {f : Text × Text} (hf : f ∈ identityFields c) : Readable f := by
  simp only [identityFields, List.mem_append, List.mem_cons, List.not_mem_nil, or_false,
    Option.mem_toList, Option.map_eq_some_iff] at hf
  have hk : Text.sameName rootKey parentKey = false ∧ Text.sameName parentKey rootKey = false ∧
      Text.sameName sampledKey rootKey = false ∧ Text.sameName sampledKey parentKey = false := by
    decide
  obtain ⟨hrp, hpr, hsr, hsp⟩ := hk
  obtain (rfl | rfl) | ⟨b, -, rfl⟩ := hf
  · refine ⟨fun _ => ?_, fun h => absurd h (ne_true_of_eq_false hrp)⟩
    rw [root?_rootText, Option.isSome_some]
  · refine ⟨fun h => absurd h (ne_true_of_eq_false hpr), fun _ => ?_⟩
    rw [parent?_hexWord, Option.isSome_some]
  · exact ⟨fun h => absurd h (ne_true_of_eq_false hsr), fun h => absurd h (ne_true_of_eq_false hsp)⟩

def received (c : Context) : Reading :=
  Reading.after { traceId := some c.traceId.low, spanId := some c.spanId, sampling := told c.sampling }
    (strayFields c)

lemma extract_shown_iff (hv : Shows v (headers c) [headerName]) {r : Context} :
    (extract v).value = some (.complete r) ↔
      (∀ f ∈ strayFields c, Readable f) ∧
        (received c).context (RequestTags.collect v) = .ok r := by
  have hf : ∀ {s : Reading}, Reading.readAll {} (fields (header c)) = .ok s ↔
      (∀ f ∈ strayFields c, Readable f) ∧ s = received c := by
    intro s
    rw [Reading.readAll_eq_ok_iff, fields_header, Reading.after_append, after_identityFields,
      List.forall_mem_append, and_iff_right fun _ => readable_identityFields]
    rfl
  rw [extract_eq_complete_iff]
  constructor
  · rintro ⟨t, s, ht, hs, hc⟩
    obtain rfl := Option.some.inj ((get?_header hv).symm.trans ht)
    obtain ⟨hr, rfl⟩ := hf.mp hs
    exact ⟨hr, hc⟩
  · rintro ⟨hr, hc⟩
    exact ⟨_, _, get?_header hv, hf.mpr ⟨hr, rfl⟩, hc⟩

structure Unaltered (c : Context) : Prop where
  readable : ∀ f ∈ strayFields c, Readable f
  root : ∀ t, stated (Text.sameName · rootKey) (strayFields c) = some t →
    root? t = some c.traceId.low
  parent : ∀ t, stated (Text.sameName · parentKey) (strayFields c) = some t →
    parent? t = some c.spanId
  sampled : ∀ t, stated (Text.sameName · sampledKey) (strayFields c) = some t →
    (sampling t).isSampled = c.sampling.isSampled

lemma getD_map_eq_iff {α β : Type} {f : α → β} {o : Option α} {x y : β} (h : x = y) :
    (o.map f).getD x = y ↔ ∀ t, o = some t → f t = y := by
  cases o <;> simp [h]

lemma unaltered_iff :
    Unaltered c ↔ (∀ f ∈ strayFields c, Readable f) ∧
      (received c).traceId = some c.traceId.low ∧ (received c).spanId = some c.spanId ∧
        (received c).sampling.isSampled = c.sampling.isSampled := by
  have hs : (received c).sampling.isSampled = c.sampling.isSampled ↔
      ∀ t, stated (Text.sameName · sampledKey) (strayFields c) = some t →
        (sampling t).isSampled = c.sampling.isSampled := by
    simp only [received, Reading.after]
    cases stated (Text.sameName · sampledKey) (strayFields c) <;> simp [isSampled_told]
  rw [hs, received, Reading.after, getD_map_eq_iff rfl, getD_map_eq_iff rfl]
  constructor
  · intro h
    exact ⟨h.readable, h.root, h.parent, h.sampled⟩
  · rintro ⟨hr, ht, hp, hd⟩
    exact ⟨hr, ht, hp, hd⟩

structure Contained (c : Context) : Prop where
  origin : ∀ o, c.origin = some o → ';' ∉ o
  baggage : ∀ e ∈ c.baggage.entries, isReserved e.1 = false →
    ';' ∉ e.1 ∧ ';' ∉ e.2 ∧ isReserved (Text.trim (e.1.takeWhile (· ≠ '='))) = false

lemma Contained.of_whole (ho : ∀ o, c.origin = some o → ';' ∉ o)
    (hb : ∀ e ∈ c.baggage.entries, '=' ∉ e.1 ∧ ';' ∉ e.1 ∧ Text.trim e.1 = e.1 ∧ ';' ∉ e.2) :
    Contained c := by
  refine ⟨ho, fun e he hr => ?_⟩
  obtain ⟨hk, hs, ht, hx⟩ := hb e he
  refine ⟨hs, hx, ?_⟩
  rw [List.takeWhile_eq_self_iff.mpr, ht]
  · exact hr
  · intro ch hc
    rw [decide_eq_true_eq]
    rintro rfl
    exact hk hc

lemma key_of_contained (h : Contained c) {f : Text × Text} (hf : f ∈ strayFields c) :
    f.1 = originKey ∨ isReserved f.1 = false := by
  obtain ⟨t, ht, hf⟩ := List.mem_flatMap.mp hf
  have ho := List.mem_of_mem_take ht
  simp only [optionalFields, List.mem_append, Option.mem_toList, Option.map_eq_some_iff,
    List.mem_map, List.mem_filter, Bool.not_eq_true'] at ho
  obtain ⟨o, ho, rfl⟩ | ⟨e, ⟨he, hr⟩, rfl⟩ := ho
  · rw [fields_pair (by decide) (by decide) (h.origin o ho), List.mem_singleton] at hf
    rw [hf]
    exact .inl rfl
  · obtain ⟨hk, hx, hn⟩ := h.baggage e he hr
    rw [fields_entry hk hx, List.mem_singleton] at hf
    rw [hf]
    exact .inr hn

lemma Contained.unaltered (h : Contained c) : Unaltered c := by
  have hn : ∀ r ∈ [rootKey, parentKey, sampledKey], ∀ f ∈ strayFields c,
      Text.sameName f.1 r = false := by
    intro r hr f hf
    rcases key_of_contained h hf with hk | hk
    · rw [hk]
      revert r
      decide
    · exact sameName_of_not_reserved (List.mem_append_left [_, _, _] hr) hk
  have hs : ∀ r ∈ [rootKey, parentKey, sampledKey], ∀ t,
      stated (Text.sameName · r) (strayFields c) ≠ some t := by
    intro r hr t ht
    rw [stated_eq_none (hn r hr)] at ht
    cases ht
  refine ⟨fun f hf => ⟨fun hr => ?_, fun hp => ?_⟩, fun t ht => ?_, fun t ht => ?_, fun t ht => ?_⟩
  · exact absurd hr (by simp [hn rootKey (by decide) f hf])
  · exact absurd hp (by simp [hn parentKey (by decide) f hf])
  · exact absurd ht (hs rootKey (by decide) t)
  · exact absurd ht (hs parentKey (by decide) t)
  · exact absurd ht (hs sampledKey (by decide) t)

lemma value_extract_unaltered (hl : c.traceId.low ≠ 0) (hs : c.spanId ≠ 0)
    (hv : Shows v (headers c) [headerName]) (hu : Unaltered c) :
    (extract v).value = some (.complete {
      traceId := .narrow c.traceId.low
      spanId := c.spanId
      style := .xray
      sampling := (received c).sampling
      origin := (received c).origin
      baggage := (received c).baggage
      requestTags := RequestTags.collect v }) := by
  obtain ⟨hf, hx, hy, -⟩ := unaltered_iff.mp hu
  refine (extract_shown_iff hv).mpr ⟨hf, context_eq_ok_iff.mpr
    ⟨c.traceId.low, c.spanId, ?_, ?_, rfl⟩⟩
  · rw [hx]
    exact Option.filter_some_pos (by simpa using hl)
  · rw [hy]
    exact Option.filter_some_pos (by simpa using hs)

lemma exists_extract (hl : c.traceId.low ≠ 0) (hs : c.spanId ≠ 0)
    (hv : Shows v (headers c) [headerName]) (hu : Unaltered c) :
    ∃ r, (extract v).value = some (.complete r) ∧
      r.traceId = .narrow c.traceId.low ∧
      r.spanId = c.spanId ∧
      r.sampling.isSampled = c.sampling.isSampled :=
  ⟨_, value_extract_unaltered hl hs hv hu, rfl, rfl, (unaltered_iff.mp hu).2.2.2⟩

theorem extract_inject_iff_unaltered (hl : c.traceId.low ≠ 0) (hs : c.spanId ≠ 0)
    (hv : Delivered (inject c).value v) :
    ((∃ r, (extract v).value = some (.complete r) ∧
        r.traceId = .narrow c.traceId.low ∧
        r.spanId = c.spanId ∧
        r.sampling.isSampled = c.sampling.isSampled) ↔
      Unaltered c) ∧
    (Contained c → Unaltered c) := by
  refine ⟨⟨?_, exists_extract hl hs (shows_headers hv)⟩, Contained.unaltered⟩
  rintro ⟨r, hr, ht, hi, hd⟩
  obtain ⟨hf, hc⟩ := (extract_shown_iff (shows_headers hv)).mp hr
  obtain ⟨t, i, hx, hy, rfl⟩ := context_eq_ok_iff.mp hc
  obtain rfl := TraceId.narrow.inj ht
  obtain rfl := hi
  exact unaltered_iff.mpr
    ⟨hf, (Option.filter_eq_some_iff.mp hx).1, (Option.filter_eq_some_iff.mp hy).1, hd⟩

def contextWith (baggage : List (Text × Text)) : Context :=
  { traceId := .wide 1 5
    spanId := 7
    style := .datadog
    sampling := .ofPriority 2
    origin := some "rum".toList
    baggage := .ofList baggage }

set_option maxRecDepth 10000 in
theorem extract_inject_iff_unaltered_reservedKey :
    let c := contextWith [("root".toList, "1".toList), ("k".toList, "a=b".toList)]
    let v := Snapshot.view ⟨(inject c).value⟩
    c.traceId.low ≠ 0 ∧ c.spanId ≠ 0 ∧ Delivered (inject c).value v ∧
      ((∃ r, (extract v).value = some (.complete r) ∧
          r.traceId = .narrow c.traceId.low ∧
          r.spanId = c.spanId ∧
          r.sampling.isSampled = c.sampling.isSampled) ↔
        Unaltered c) ∧
      (Contained c → Unaltered c) := by
  intro c v
  exact ⟨by decide, by decide, .list, extract_inject_iff_unaltered (by decide) (by decide) .list⟩

def forgedBaggage : List (Text × Text) :=
  [("Root ".toList, "1-00000000-000000000000000000000009".toList)]

set_option maxRecDepth 10000 in
theorem root_forged_by_baggage :
    ¬ ∀ (c : Context) (v : HeaderView),
      c.traceId.low ≠ 0 → c.spanId ≠ 0 → Delivered (inject c).value v →
      ∃ r, (extract v).value = some (.complete r) ∧
        r.traceId = .narrow c.traceId.low ∧
        r.spanId = c.spanId ∧
        r.sampling.isSampled = c.sampling.isSampled := by
  intro h
  obtain ⟨r, hr, ht, -⟩ := h (contextWith forgedBaggage) _ (by decide) (by decide) .list
  have he : ((extract (Snapshot.view ⟨(inject (contextWith forgedBaggage)).value⟩)).value.bind
      Finding.context?).map (·.traceId) = some (.narrow 9) := by
    decide
  rw [hr] at he
  exact absurd (ht.symm.trans (Option.some.inj he)) (by decide)

end TraceHeaders.Xray
