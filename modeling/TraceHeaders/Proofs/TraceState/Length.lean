import TraceHeaders.Proofs.RoundTrip.TraceContext
import TraceHeaders.Proofs.TraceState.Foreign

/-! The limit of the own member holds back tags only, so an origin can pass it. -/

namespace TraceHeaders

namespace TraceState

variable {c : Context}

lemma length_encodeValue (t : Text) : (encodeValue t).length = t.length := by
  rw [encodeValue, Text.replace, List.length_map, sanitize, List.length_map]

lemma byteLength_ownMember_le_iff :
    Text.byteLength (ownMember c).value ≤ ownLimit ↔ Text.byteLength (ownBase c) ≤ ownLimit := by
  rw [value_ownMember]
  constructor
  · intro h
    rw [Fields.byteLength_join] at h
    exact (Nat.le_add_right _ _).trans h
  · exact fun h => Fields.byteLength_append_le ownLimit _ _ h

lemma byteLength_ownBase (c : Context) : Text.byteLength (ownBase c) = (ownBase c).length := by
  apply Text.byteLength_of_ascii
  intro ch hc
  have hv : TagSet.isValueChar ch := by
    obtain h | h := List.mem_append.mp hc
    · exact of_mem_ownMember (c := c) (List.mem_append_left _ h)
    · obtain rfl | ⟨t, ht, hm⟩ := Text.eq_or_mem_of_mem_intercalate h
      · decide
      · exact (of_mem_fixedItems ht hm).1
  have hp := (tagSet_isValueChar_iff.mp hv).1
  simp only [isPrintableAscii, Bool.and_eq_true, decide_eq_true_eq] at hp
  omega

def priorityExtent (c : Context) : Nat :=
  (c.sampling.priority.map fun p => (Text.ofInt p.toInt).length + 3).getD 0

def originRoom (c : Context) : Nat := 232 - priorityExtent c

lemma priorityExtent_le (c : Context) : priorityExtent c ≤ 7 := by
  rw [priorityExtent]
  cases c.sampling.priority with
  | none => exact Nat.zero_le 7
  | some p => exact Nat.add_le_add_right (Text.length_ofInt_le p) 3

lemma length_ownBase (c : Context) :
    (ownBase c).length = 21 + priorityExtent c + (c.origin.map fun o => o.length + 3).getD 0 := by
  have hw := (Text.length_and_mem_hexWord c.spanId).1
  rw [ownBase, fixedItems, ownStart, priorityExtent]
  cases c.sampling.priority <;> cases c.origin <;>
    simp only [Option.map_none, Option.map_some, Option.toList_none, Option.toList_some,
      Option.getD_none, Option.getD_some, List.nil_append, List.cons_append,
      List.intercalate_cons_cons, List.intercalate_singleton, String.reduceToList,
      List.length_append, List.length_cons, List.length_nil, length_encodeValue] <;>
    omega

lemma byteLength_ownBase_le_iff :
    Text.byteLength (ownBase c) ≤ ownLimit ↔
      ∀ o, c.origin = some o → o.length ≤ originRoom c := by
  have hp := priorityExtent_le c
  rw [byteLength_ownBase, length_ownBase, originRoom, ownLimit]
  cases c.origin with
  | none =>
    rw [Option.map_none, Option.getD_none]
    exact iff_of_true (by omega) fun o ho => by cases ho
  | some o =>
    simp only [Option.map_some, Option.getD_some, Option.some.injEq, forall_eq']
    omega

end TraceState

namespace TraceContext

open TraceState (originRoom ownStart)

variable {c : Context}

theorem byteLength_own_le_iff (ht : c.traceId.isZero = false) (hs : c.spanId ≠ 0) :
    ∃ parent state own, (inject c).value = [(parentName, parent), (stateName, state)] ∧
      (state.splitOn ',').filter (ownStart.isPrefixOf ·) = [own] ∧
      (Text.byteLength own ≤ 256 ↔ ∀ o, c.origin = some o → o.length ≤ originRoom c) := by
  have hi := (value_inject c).trans (headers_eq ht hs)
  exact ⟨_, _, _, hi, TraceState.filter_splitOn_encode c,
    TraceState.byteLength_ownMember_le_iff.trans TraceState.byteLength_ownBase_le_iff⟩

def longOrigin : Context where
  traceId := .narrow 5
  spanId := 7
  style := .datadog
  origin := some (.replicate 233 'x')

theorem byteLength_own_le_iff_longOrigin :
    let c := longOrigin
    c.traceId.isZero = false ∧ c.spanId ≠ 0 ∧
      ∃ parent state own, (inject c).value = [(parentName, parent), (stateName, state)] ∧
        (state.splitOn ',').filter (ownStart.isPrefixOf ·) = [own] ∧
        (Text.byteLength own ≤ 256 ↔ ∀ o, c.origin = some o → o.length ≤ originRoom c) :=
  ⟨by decide, by decide, byteLength_own_le_iff (by decide) (by decide)⟩

set_option maxRecDepth 10000 in
theorem own_passes_limit :
    ¬ ∀ c : Context, c.traceId.isZero = false → c.spanId ≠ 0 →
      ∀ h ∈ (inject c).value, h.1 = stateName →
        ∀ own ∈ h.2.splitOn ',', ownStart <+: own → Text.byteLength own ≤ 256 := by
  intro h
  have hb : ∃ s ∈ (inject longOrigin).value, s.1 = stateName ∧
      ∃ own ∈ s.2.splitOn ',', ownStart <+: own ∧ 256 < Text.byteLength own := by
    decide
  obtain ⟨s, hs, hn, own, hm, ho, hl⟩ := hb
  have hk := h longOrigin (by decide) (by decide) s hs hn own hm ho
  omega

end TraceContext

end TraceHeaders
