import TraceHeaders.Proofs.RoundTrip.Xray

namespace TraceHeaders.Xray

variable {c : Context} {v : HeaderView}

lemma byteLength_identity_le (c : Context) : Text.byteLength (identity c) ≤ lengthLimit := by
  have hw : ∀ w, Text.byteLength (Text.hexWord w) = 16 := fun w => Text.byteLength_hexPadded 16 _
  have hr : ∀ w, Text.byteLength (rootKey ++ '=' :: rootText w) = 40 := by
    intro w
    rw [rootText, Text.byteLength_append, Text.byteLength_cons, Text.byteLength_append, hw]
    rfl
  have hp : ∀ w, Text.byteLength (parentKey ++ '=' :: Text.hexWord w) = 23 := by
    intro w
    rw [Text.byteLength_append, Text.byteLength_cons, hw]
    rfl
  have hs : ∀ b : Bool, Text.byteLength (sampledKey ++ ['=', if b then '1' else '0']) = 9 := by
    decide
  rw [identity_eq, Fields.byteLength_join, hr, Fields.extent, hp]
  cases c.sampling.isSampled with
  | none => decide
  | some b =>
    rw [Option.map_some, Option.toList_some, Fields.extent, hs]
    decide

lemma byteLength_header_le (c : Context) : Text.byteLength (header c) ≤ lengthLimit :=
  Fields.byteLength_append_le lengthLimit _ _ (byteLength_identity_le c)

structure Legible (c : Context) : Prop where
  origin : ∀ o, c.origin = some o → ';' ∉ o ∧ Text.trim o = o
  key : ∀ e ∈ c.baggage.entries, '=' ∉ e.1 ∧ ';' ∉ e.1 ∧ Text.trim e.1 = e.1
  value : ∀ e ∈ c.baggage.entries, ';' ∉ e.2 ∧ Text.trim e.2 = e.2

def ownBaggage (c : Context) : Dict Text := c.baggage.filter fun e => !isReserved e.1

def items (c : Context) : List (Text × Text) :=
  (c.origin.map (originKey, ·)).toList ++ (ownBaggage c).entries

lemma isReserved_ownBaggage {e : Text × Text} (he : e ∈ (ownBaggage c).entries) :
    isReserved e.1 = false := by
  simpa using (List.mem_filter.mp he).2

lemma optionalFields_eq (c : Context) :
    optionalFields c = (items c).map fun e => e.1 ++ '=' :: e.2 := by
  rw [optionalFields, items, List.map_append]
  cases c.origin <;> rfl

lemma length_optionalFields (c : Context) :
    (optionalFields c).length = c.origin.toList.length + (ownBaggage c).entries.length := by
  rw [optionalFields_eq, List.length_map, items, List.length_append]
  cases c.origin <;> rfl

lemma take_items (c : Context) (n : Nat) :
    (items c).take n =
      ((if n = 0 then none else c.origin).map (originKey, ·)).toList ++
        (ownBaggage c).entries.take (n - c.origin.toList.length) := by
  rw [items, List.take_append]
  cases c.origin <;> cases n <;> simp

namespace Legible

lemma contained (h : Legible c) : Contained c := by
  refine .of_whole (fun o ho => (h.origin o ho).1) fun e he => ?_
  obtain ⟨hk, hs, ht⟩ := h.key e he
  exact ⟨hk, hs, ht, (h.value e he).1⟩

lemma fields_item (h : Legible c) {e : Text × Text} (he : e ∈ items c) :
    fields (e.1 ++ '=' :: e.2) = [e] := by
  rw [items, List.mem_append, Option.mem_toList, Option.map_eq_some_iff] at he
  obtain ⟨o, ho, rfl⟩ | he := he
  · obtain ⟨hs, ht⟩ := h.origin o ho
    have hk : ';' ∉ originKey ∧ '=' ∉ originKey ∧ Text.trim originKey = originKey := by decide
    rw [fields_pair hk.1 hk.2.1 hs, hk.2.2, ht]
  · have hm := (List.mem_filter.mp he).1
    obtain ⟨hk, hs, ht⟩ := h.key e hm
    obtain ⟨hx, hy⟩ := h.value e hm
    rw [fields_pair hs hk hx, ht, hy]

lemma strayFields_eq (h : Legible c) :
    strayFields c = (items c).take
      (Fields.fitting lengthLimit (Text.byteLength (identity c)) (optionalFields c)) := by
  have hf : ∀ n, ((optionalFields c).take n).flatMap fields = (items c).take n := by
    intro n
    rw [optionalFields_eq, ← List.map_take, List.flatMap_map]
    have hi : ∀ e ∈ (items c).take n, fields (e.1 ++ '=' :: e.2) = [e] := fun e he =>
      h.fields_item (List.mem_of_mem_take he)
    rw [List.flatMap_congr hi, List.flatMap_singleton']
  exact hf _

end Legible

section Kept

variable {o : Option Text} {es : List (Text × Text)}

lemma stated_origin (h : ∀ e ∈ es, isReserved e.1 = false) :
    stated (· = originKey) ((o.map (originKey, ·)).toList ++ es) = o := by
  have hn : stated (· = originKey) es = none := by
    refine stated_eq_none fun e he => decide_eq_false ?_
    intro hk
    have hr : isReserved originKey := by decide
    rw [← hk, h e he] at hr
    cases hr
  rw [stated_append, hn, Option.none_or]
  cases o with
  | none => rfl
  | some t => exact stated_singleton _

lemma filter_items (h : ∀ e ∈ es, isReserved e.1 = false) :
    ((o.map (originKey, ·)).toList ++ es).filter (fun e => !isReserved e.1) = es := by
  have ho : (o.map (originKey, ·)).toList.filter (fun e => !isReserved e.1) = [] := by
    cases o with
    | none => rfl
    | some t =>
      have hr : isReserved originKey := by decide
      simp [hr]
  rw [List.filter_append, ho, List.nil_append, List.filter_eq_self]
  exact fun e he => by rw [h e he, Bool.not_false]

lemma received_of_strayFields {n : Nat} (h : strayFields c = (items c).take n) :
    (received c).origin = (if n = 0 then none else c.origin) ∧
      (received c).baggage.entries =
        (ownBaggage c).entries.take (n - c.origin.toList.length) := by
  have hr : ∀ e ∈ (ownBaggage c).entries.take (n - c.origin.toList.length),
      isReserved e.1 = false := fun e he => isReserved_ownBaggage (List.mem_of_mem_take he)
  rw [received, Reading.after, h, take_items, stated_origin hr, filter_items hr]
  exact ⟨Option.or_none, Dict.entries_ofList_take _ _⟩

end Kept

/-- The header never passes its limit. What is read of it beside the identity is a beginning of its
fields, and no longer one would have had room. -/
theorem extract_inject_fitting :
    (∀ c, (inject c).value = [(headerName, header c)] ∧ Text.byteLength (header c) ≤ 256) ∧
    ∀ c v, c.traceId.low ≠ 0 → c.spanId ≠ 0 → Legible c → Delivered (inject c).value v →
      ∃ n r, IsGreatest (Fields.room 256 (identity c) (optionalFields c)) n ∧
        header c = Fields.join (identity c) ((optionalFields c).take n) ∧
        (extract v).value = some (.complete r) ∧
        r.traceId = .narrow c.traceId.low ∧
        r.spanId = c.spanId ∧
        r.sampling.isSampled = c.sampling.isSampled ∧
        r.origin = (if n = 0 then none else c.origin) ∧
        r.baggage.entries = (ownBaggage c).entries.take (n - c.origin.toList.length) ∧
        (Text.byteLength (Fields.join (identity c) (optionalFields c)) ≤ 256 →
          r.origin = c.origin ∧ r.baggage = ownBaggage c) := by
  refine ⟨fun c => ⟨value_inject c, byteLength_header_le c⟩, fun c v hl hs hc hv => ?_⟩
  have hg := Fields.isGreatest_fitting (optionalFields c) (byteLength_identity_le c)
  obtain ⟨ho, hb⟩ := received_of_strayFields hc.strayFields_eq
  have hu := hc.contained.unaltered
  refine ⟨_, _, hg, rfl, value_extract_unaltered hl hs (shows_headers hv) hu, rfl, rfl,
    (unaltered_iff.mp hu).2.2.2, ho, hb, fun hf => ?_⟩
  have hn := Fields.eq_length_of_isGreatest hg hf
  rw [hn, length_optionalFields] at ho hb
  constructor
  · rw [ho]
    cases c.origin <;> simp
  · apply Dict.ext_entries
    rw [hb, Nat.add_sub_cancel_left, List.take_length]

def longContext : Context :=
  { traceId := .wide 1 5
    spanId := 7
    style := .datadog
    sampling := .ofPriority 2
    origin := some "rum".toList
    baggage := .ofList
      [("SELF".toList, "x".toList), ("a".toList, "=".toList), ("b".toList, .replicate 161 'x'),
        ("c".toList, [])] }

set_option maxRecDepth 10000 in
lemma legible_longContext : Legible longContext where
  origin := by
    intro o ho
    obtain rfl := Option.some.inj ho
    decide
  key := by decide
  value := by decide

set_option maxRecDepth 10000 in
theorem extract_inject_fitting_longContext :
    let c := longContext
    let v := HeaderMap.view (HeaderMap.setAll ∅ (inject c).value)
    c.traceId.low ≠ 0 ∧ c.spanId ≠ 0 ∧ Legible c ∧ Delivered (inject c).value v ∧
      Text.byteLength (Fields.join (identity c) ((optionalFields c).take 3)) = 257 ∧
      ∃ n r, IsGreatest (Fields.room 256 (identity c) (optionalFields c)) n ∧
        header c = Fields.join (identity c) ((optionalFields c).take n) ∧
        (extract v).value = some (.complete r) ∧
        r.traceId = .narrow c.traceId.low ∧
        r.spanId = c.spanId ∧
        r.sampling.isSampled = c.sampling.isSampled ∧
        r.origin = (if n = 0 then none else c.origin) ∧
        r.baggage.entries = (ownBaggage c).entries.take (n - c.origin.toList.length) ∧
        (Text.byteLength (Fields.join (identity c) (optionalFields c)) ≤ 256 →
          r.origin = c.origin ∧ r.baggage = ownBaggage c) := by
  intro c v
  have hl : c.traceId.low ≠ 0 := by decide
  have hs : c.spanId ≠ 0 := by decide
  have hb : Text.byteLength (Fields.join (identity c) ((optionalFields c).take 3)) = 257 := by
    decide
  exact ⟨hl, hs, legible_longContext, .map, hb,
    extract_inject_fitting.2 c v hl hs legible_longContext .map⟩

end TraceHeaders.Xray
