import TraceHeaders.Proofs.Findings
import TraceHeaders.Proofs.TraceParent
import TraceHeaders.Proofs.TraceState.Reading

/-! The flags of the `traceparent` decide whether a trace is sampled. A `tracestate` can state
another priority for the decision, and cannot turn it. -/

namespace TraceHeaders

namespace TraceState

variable {key value t : Text} {ms values : List Text} {p : Int8}

def LastItem (key value t : Text) : Prop :=
  ∃ before item after, t.splitOn ';' = before ++ item :: after ∧
    Text.trim item = key ++ ':' :: value ∧ ∀ i ∈ after, ¬ key ++ [':'] <+: Text.trim i

lemma any_cut?_iff (hk : ':' ∉ key) {s : Text} :
    (Text.cut? ':' s).any (·.1 = key) ↔ key ++ [':'] <+: s := by
  rw [Option.any_eq_true]
  constructor
  · rintro ⟨⟨k, x⟩, hc, hx⟩
    obtain rfl : k = key := of_decide_eq_true hx
    rw [Text.cut?_eq_some hc]
    exact ⟨x, by simp⟩
  · rintro ⟨x, rfl⟩
    refine ⟨(key, x), Text.cut?_eq_some_iff.mpr ⟨by simp, hk⟩, decide_eq_true rfl⟩

lemma stated_items_eq_some_iff (hk : ':' ∉ key) :
    stated key (items t) = some value ↔ LastItem key value t := by
  have hs : stated key (items t) = (((t.splitOn ';').reverse.find? fun i =>
      (Text.cut? ':' (Text.trim i)).any (·.1 = key)).bind
        fun i => Text.cut? ':' (Text.trim i)).map (·.2) := by
    rw [stated, items, ← List.filterMap_reverse, List.find?_filterMap]
  rw [hs, Option.map_eq_some_iff]
  constructor
  · rintro ⟨⟨k, x⟩, hx, rfl⟩
    obtain ⟨item, hf, hc⟩ := Option.bind_eq_some_iff.mp hx
    obtain ⟨hp, after, before, hr, ha⟩ := List.find?_eq_some_iff_append.mp hf
    rw [hc] at hp
    obtain rfl : k = key := of_decide_eq_true hp
    refine ⟨before.reverse, item, after.reverse, ?_, Text.cut?_eq_some hc, fun i hi => ?_⟩
    · rw [← List.reverse_reverse (t.splitOn ';'), hr]
      simp
    · rw [← any_cut?_iff hk]
      simpa using ha i (List.mem_reverse.mp hi)
  · rintro ⟨before, item, after, hr, hi, ha⟩
    have hc : Text.cut? ':' (Text.trim item) = some (key, value) :=
      Text.cut?_eq_some_iff.mpr ⟨hi, hk⟩
    refine ⟨(key, value), Option.bind_eq_some_iff.mpr ⟨item, ?_, hc⟩, rfl⟩
    refine List.find?_eq_some_iff_append.mpr ⟨?_, after.reverse, before.reverse, ?_, fun i hm => ?_⟩
    · rw [hc]
      exact decide_eq_true rfl
    · rw [hr]
      simp
    · rw [Bool.not_eq_true', Bool.eq_false_iff, Ne, any_cut?_iff hk]
      exact ha i (List.mem_reverse.mp hm)

def FirstOwn (ms : List Text) (t : Text) : Prop :=
  ∃ before after, ms = before ++ (ownStart ++ t) :: after ∧ ∀ m ∈ before, ¬ ownStart <+: m

lemma own?_eq_some_iff : own? ms = some t ↔ FirstOwn ms t := by
  have hn : ∀ m, ownStart.isPrefixOf? m = none ↔ ¬ ownStart <+: m := by
    intro m
    rw [← Option.not_isSome_iff_eq_none, List.isSome_isPrefixOf?_eq_isPrefixOf,
      List.isPrefixOf_iff_prefix]
  rw [own?, List.findSome?_eq_some_iff]
  constructor
  · rintro ⟨before, m, after, rfl, hm, hb⟩
    rw [← List.isPrefixOf?_eq_some_iff_append_eq.mp hm]
    exact ⟨before, after, rfl, fun x hx => (hn x).mp (hb x hx)⟩
  · rintro ⟨before, after, rfl, hb⟩
    exact ⟨before, _, after, rfl, List.isPrefixOf?_eq_some_iff_append_eq.mpr rfl,
      fun x hx => (hn x).mpr (hb x hx)⟩

structure StatesPriority (values : List Text) (p : Int8) : Prop where
  printable : ([','].intercalate (members values)).all isPrintableAscii
  item : ∃ t x, FirstOwn (members values) t ∧ LastItem ['s'] x t ∧ Text.int8? x = some p

lemma priority_read_iff :
    (read values).value.bind (·.2.priority) = some p ↔ StatesPriority values p := by
  have hs : ∀ t, (Own.readAll {} (items t)).value.priority = some p ↔
      ∃ x, LastItem ['s'] x t ∧ Text.int8? x = some p := by
    intro t
    have hk : ':' ∉ ['s'] := by decide
    rw [Own.value_readAll]
    simp only [← stated_items_eq_some_iff hk]
    cases stated ['s'] (items t) <;> simp
  by_cases hp : ([','].intercalate (members values)).all isPrintableAscii
  · have hi : StatesPriority values p ↔
        ∃ t x, own? (members values) = some t ∧ LastItem ['s'] x t ∧ Text.int8? x = some p := by
      simp only [own?_eq_some_iff]
      exact ⟨fun h => h.item, fun h => ⟨hp, h⟩⟩
    rw [hi]
    simp only [read, hp]
    cases own? (members values) with
    | none => simp
    | some t => simp [hs]
  · have hn : ¬ StatesPriority values p := fun h => hp h.printable
    simp [read, hp, hn]

end TraceState

namespace TraceContext

variable {v : HeaderView} {c : Context}

open TraceState (StatesPriority)

lemma priority_readState_iff {p : Int8} :
    (readState v).value.bind (·.2.priority) = some p ↔ StatesPriority (v.getAll stateName) p := by
  rw [← TraceState.priority_read_iff, readState]
  cases v.getAll stateName <;> rfl

lemma priority_of_agrees {isSampled : Bool} {p : Int8} (h : 0 < p ↔ isSampled) :
    priority isSampled (some p) = p := by
  rw [priority, if_pos (Bool.eq_iff_iff.mpr (by simpa using h))]

lemma priority_of_not_agrees {isSampled : Bool} {stated : Option Int8}
    (h : ∀ p, stated = some p → ¬ (0 < p ↔ isSampled)) :
    priority isSampled stated = if isSampled then 1 else 0 := by
  cases stated with
  | none => rfl
  | some p =>
    have hp : decide (0 < p) ≠ isSampled := fun hd => h p rfl (by rw [← hd, decide_eq_true_eq])
    rw [priority, if_neg hp]
    rfl

lemma pos_priority_iff (isSampled : Bool) (stated : Option Int8) :
    0 < priority isSampled stated ↔ isSampled := by
  by_cases h : ∃ p, stated = some p ∧ (0 < p ↔ isSampled)
  · obtain ⟨p, rfl, hp⟩ := h
    rwa [priority_of_agrees hp]
  · rw [priority_of_not_agrees fun p hp hn => h ⟨p, hp, hn⟩]
    cases isSampled <;> decide

theorem priority_extract (h : (extract v).value = some (.complete c)) :
    ∃ header flags p, v.get? parentName = some header ∧
      Text.hex? (TraceParent.flagDigits (Text.trim header)) = some flags ∧
      c.sampling.priority = some p ∧
      (0 < p ↔ flags.testBit 0) ∧
      (∀ q, StatesPriority (v.getAll stateName) q → (0 < q ↔ flags.testBit 0) → p = q) ∧
      ((∀ q, StatesPriority (v.getAll stateName) q → ¬ (0 < q ↔ flags.testBit 0)) →
        p = if flags.testBit 0 then 1 else 0) := by
  obtain ⟨t, q, hg, hq, rfl⟩ := extract_eq_complete_iff.mp h
  obtain ⟨header, hh, rfl⟩ := Option.map_eq_some_iff.mp hg
  obtain ⟨flags, hf, hb⟩ := TraceParent.exists_flags_of_ofText hq
  have hp : (context v q (readState v).value).sampling.priority =
      some (priority (flags.testBit 0) ((readState v).value.bind (·.2.priority))) := by
    rw [← hb]
    cases (readState v).value <;> rfl
  refine ⟨header, flags, _, hh, hf, hp, pos_priority_iff _ _, fun p hs ha => ?_, fun ha => ?_⟩
  · rw [priority_readState_iff.mpr hs, priority_of_agrees ha]
  · exact priority_of_not_agrees fun p hs => ha p (priority_readState_iff.mp hs)

def statingHeaders : Snapshot :=
  ⟨[("traceparent".toList, " 01-00000000000000010000000000000005-0000000000000007-03-x".toList),
    ("tracestate".toList, "v=1, dd=s:5;o:x;s:x ; s:+2;ss:1".toList),
    ("tracestate".toList, "dd=s:-1".toList)]⟩

def statedContext : Context where
  traceId := .wide 1 5
  spanId := 7
  style := .traceContext
  sampling := .ofPriority 2
  origin := some ['x']
  tagSet := { traceState := some "v=1,dd=s:5;o:x;s:x ; s:+2;ss:1,dd=s:-1".toList }

set_option maxRecDepth 10000 in
theorem priority_extract_statingHeaders :
    let v := statingHeaders.view
    let c := statedContext
    (extract v).value = some (.complete c) ∧ StatesPriority (v.getAll stateName) 2 ∧
      ∃ header flags p, v.get? parentName = some header ∧
        Text.hex? (TraceParent.flagDigits (Text.trim header)) = some flags ∧
        c.sampling.priority = some p ∧
        (0 < p ↔ flags.testBit 0) ∧
        (∀ q, StatesPriority (v.getAll stateName) q → (0 < q ↔ flags.testBit 0) → p = q) ∧
        ((∀ q, StatesPriority (v.getAll stateName) q → ¬ (0 < q ↔ flags.testBit 0)) →
          p = if flags.testBit 0 then 1 else 0) := by
  intro v c
  have hc : (extract v).value = some (.complete c) := by decide
  exact ⟨hc, priority_readState_iff.mp (by decide), priority_extract hc⟩

end TraceContext

end TraceHeaders
