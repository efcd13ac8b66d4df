import TraceHeaders.Proofs.Datadog.Headers
import TraceHeaders.Proofs.Datadog.HighHalf
import TraceHeaders.Proofs.TraceId

namespace TraceHeaders.Datadog

structure Writable (c : Context) : Prop where
  low : c.traceId.low ≠ 0
  high : c.traceId.isWide → c.traceId.high ≠ 0
  origin : ∀ o, c.origin = some o → o ≠ [] ∧ Text.trim o = o
  tags : TagSet.Sayable c.tagSet.tags
  highHalf : c.tagSet.get? TagSet.highHalfKey = none
  baggage : ∀ e ∈ c.baggage.entries, Text.lower (baggageStart ++ e.1) = baggageStart ++ e.1

def TagsFit (limit : Nat) (c : Context) : Prop :=
  (outgoingTags c).tags = ∅ ∨ Text.byteLength (TagSet.encode (outgoingTags c).tags) ≤ limit

section Tags

variable {c : Context} {limit : Nat} {v : HeaderView}

lemma sayable_insert_highHalf {d : Dict Text} (h : TagSet.Sayable d) (w : UInt64) :
    TagSet.Sayable (d.insert TagSet.highHalfKey (Text.hexWord w)) where
  keys := by
    intro e he
    obtain rfl | he := mem_insertEntry he
    · have hk : TagSet.isKey TagSet.highHalfKey ∧ '=' ∉ TagSet.highHalfKey := by decide
      refine ⟨hk.1, List.all_eq_true.mpr fun ch hc => ?_, hk.2⟩
      exact TagSet.isValueChar_of_isLowerHexDigit (Text.mem_hexPadded hc)
    · exact h.keys e he
  decisionMaker := by
    intro m hm
    rw [Dict.get?_insert, if_neg (by decide)] at hm
    exact h.decisionMaker m hm

lemma sayable_outgoingTags (h : Writable c) : TagSet.Sayable (outgoingTags c).tags := by
  rw [outgoingTags]
  split
  · exact sayable_insert_highHalf h.tags _
  · exact h.tags

lemma takeHighHalf_outgoingTags (h : Writable c) :
    (takeHighHalf { tags := (outgoingTags c).tags }).value =
      (c.traceId.high, { tags := c.tagSet.tags }) := by
  cases hw : c.traceId.isWide with
  | true =>
    have ho : (outgoingTags c).tags =
        c.tagSet.tags.insert TagSet.highHalfKey (Text.hexWord c.traceId.high) := by
      rw [outgoingTags, if_pos hw, TagSet.withTag]
    have hh : isHighHalf (Text.hexWord c.traceId.high) := by
      rw [isHighHalf, Bool.and_eq_true, decide_eq_true_eq, List.all_eq_true]
      exact Text.length_and_mem_hexWord c.traceId.high
    simp only [takeHighHalf, TagSet.get?, TagSet.erase, ho, Dict.get?_insert_self, hh, if_true,
      Text.hex?_hexWord, Option.getD_some, UInt64.ofNat_toNat, Logged.value_pure,
      Dict.erase_insert h.highHalf]
  | false =>
    have ho : outgoingTags c = c.tagSet := by
      rw [outgoingTags, if_neg (by simp [hw])]
    have hn : c.tagSet.tags.get? TagSet.highHalfKey = none := h.highHalf
    rw [TraceId.high_eq_zero hw, ho]
    simp only [takeHighHalf, TagSet.get?, hn, Logged.value_pure]

lemma folded_of_tagsFit (h : Writable c) (hf : TagsFit limit c)
    (hv : v.get? tagsName = ((outgoingTags c).header? limit).value) :
    (takeHighHalf (tagSet limit v).value).value =
      (c.traceId.high, { tags := c.tagSet.tags }) := by
  rw [← takeHighHalf_outgoingTags h, tagSet, hv]
  by_cases hd : (outgoingTags c).tags.entries = []
  · have he : (outgoingTags c).tags = ∅ := Dict.ext_entries hd
    rw [TagSet.value_header?_of_nil hd, he]
    rfl
  · have hl : Text.byteLength (TagSet.encode (outgoingTags c).tags) ≤ limit :=
      hf.resolve_left fun he => hd (congrArg Dict.entries he)
    rw [TagSet.value_header? hd hl]
    simp only
    rw [TagSet.value_ofHeader_of_sayable (sayable_outgoingTags h) hd hl]

lemma folded_of_not_tagsFit (hf : ¬ TagsFit limit c)
    (hv : v.get? tagsName = ((outgoingTags c).header? limit).value) :
    (takeHighHalf (tagSet limit v).value).value = (0, {}) := by
  have hl : limit < Text.byteLength (TagSet.encode (outgoingTags c).tags) := by
    by_contra hn
    exact hf (.inr (Nat.le_of_not_lt hn))
  rw [tagSet, hv, TagSet.value_header?_of_lt hl]
  rfl

end Tags

section Baggage

variable {c : Context} {limit : Nat} {v : HeaderView}

lemma apart_baggage (h : Writable c) :
    Baggage.Apart baggageStart.isPrefixOf? (baggageStart ++ ·) names c.baggage where
  names := by decide
  key _ _ := List.isPrefixOf?_eq_some_iff_append_eq.mpr rfl
  lower := h.baggage

lemma extractBaggage_inject (h : Writable c) {b : Bool}
    (hv : Delivered (inject b limit c).value v) :
    (extractBaggage b v).value = if b then c.baggage else ∅ := by
  cases b with
  | false => rfl
  | true =>
    rw [value_inject, if_pos rfl] at hv
    rw [extractBaggage, if_pos rfl, if_pos rfl]
    exact (apart_baggage h).value_extract_beside (plainHeaders_headers c _) (names_headers c _).subset hv

lemma origin?_shown (h : Writable c) {tags : Option Text}
    (hv : Shows v (headers c tags) names) : origin? v = c.origin := by
  have hu : valueUnder (headers c tags) originName = c.origin := by
    rw [headers]
    cases c.sampling.priority <;> cases c.origin <;> cases tags <;> rfl
  rw [origin?, (hv originName (by decide)).1, hu]
  cases ho : c.origin with
  | none => rfl
  | some o =>
    obtain ⟨hn, ht⟩ := h.origin o ho
    exact Text.trimmed?_eq_some_iff.mpr ⟨ht, hn⟩

end Baggage

section Mechanism

def statedMechanism : Text → UInt8
  | ['-', d] => .ofNat (d.toNat - '0'.toNat)
  | _ => 0

lemma mechanismOf?_of_isDecisionMaker {m : Text} (h : TagSet.isDecisionMaker m) :
    Sampling.mechanismOf? m = some (statedMechanism m) := by
  unfold TagSet.isDecisionMaker at h
  split at h
  · next d =>
    rw [Bool.and_eq_true, decide_eq_true_eq, decide_eq_true_eq] at h
    have hd : Text.decimalDigit? d = some (d.toNat - '0'.toNat) := if_pos h
    have hn : Text.natural? [d] = some (d.toNat - '0'.toNat) := by
      unfold Text.natural?
      split
      · next he =>
        obtain rfl := (List.cons.inj he).1
        exact absurd h.1 (by decide)
      · simp [Text.decimal?, Text.digits?, Text.digitsFrom, hd]
    have hl : d.toNat ≤ '9'.toNat := h.2
    have hu : d.toNat - '0'.toNat < UInt8.size := by
      change d.toNat - 48 < 256
      change d.toNat ≤ 57 at hl
      omega
    change (Text.natural? [d]).bind _ = _
    rw [hn, Option.bind_some, if_pos hu]
    rfl
  · cases h

lemma mechanism_of_sayable {s : TagSet} (h : TagSet.Sayable s.tags) :
    s.decisionMaker.bind Sampling.mechanismOf? = s.decisionMaker.map statedMechanism := by
  cases hm : s.decisionMaker with
  | none => rfl
  | some m => exact mechanismOf?_of_isDecisionMaker (h.decisionMaker m hm)

end Mechanism

/-- The span, the priority, the origin and the baggage come back whatever the limit is. With tags
that fit, so do the tags and the trace identifier; else the receiver knows its low half and no tag. -/
theorem extract_inject_within {c : Context} (h : Writable c) (b : Bool) (limit : Nat)
    {v : HeaderView} (hv : Delivered (inject b limit c).value v) :
    ∃ r, (extract b limit v).value = some (.complete r) ∧
      r.spanId = c.spanId ∧
      r.sampling.priority = c.sampling.priority ∧
      r.origin = c.origin ∧
      r.tagSet.error = none ∧
      r.baggage = (if b then c.baggage else ∅) ∧
      (TagsFit limit c →
        r.traceId = c.traceId ∧ r.tagSet.tags = c.tagSet.tags ∧
          r.sampling.mechanism = c.tagSet.decisionMaker.map statedMechanism) ∧
      (¬ TagsFit limit c →
        r.traceId = .narrow c.traceId.low ∧ r.tagSet.tags = ∅ ∧ r.sampling.mechanism = none) := by
  have hs := shows_headers hv
  obtain ⟨ht, he⟩ := value_extract_headers b limit h.low hs
  refine ⟨_, he, rfl, rfl, origin?_shown h hs, ?_, extractBaggage_inject h hv, ?_, ?_⟩
  · by_cases hf : TagsFit limit c
    · rw [contextOf, folded_of_tagsFit h hf ht]
    · rw [contextOf, folded_of_not_tagsFit hf ht]
  · intro hf
    rw [contextOf, folded_of_tagsFit h hf ht]
    exact ⟨TraceId.ofParts_of_high h.high, rfl, mechanism_of_sayable h.tags⟩
  · intro hf
    rw [contextOf, folded_of_not_tagsFit hf ht]
    exact ⟨rfl, rfl, rfl⟩

def writableContext : Context :=
  { traceId := .wide 1 5
    spanId := 0
    style := .b3multi
    sampling := .ofPriority (-1)
    origin := some "r u m".toList
    tagSet :=
      { tags := .ofList [("_dd.p.dm".toList, "-4".toList), ("_dd.p.a".toList, "b=c d".toList)]
        isDebug := true }
    baggage := .ofList [("clé".toList, "a%,é ".toList), ([], "+".toList)] }

set_option maxRecDepth 10000 in
lemma writable_writableContext : Writable writableContext where
  low := by decide
  high := by decide
  origin := by
    intro o ho
    obtain rfl := Option.some.inj ho
    decide
  tags := by
    refine ⟨by decide, fun m hm => ?_⟩
    have hd : writableContext.tagSet.tags.get? TagSet.decisionMakerKey = some "-4".toList := by
      decide
    obtain rfl := Option.some.inj (hd.symm.trans hm)
    decide
  highHalf := by decide
  baggage := by decide

set_option maxRecDepth 10000 in
theorem extract_inject_within_writableContext :
    let c := writableContext
    let v := HeaderMap.view (HeaderMap.setAll ∅ (inject true 60 c).value)
    Writable c ∧ Delivered (inject true 60 c).value v ∧ TagsFit 60 c ∧ ¬ TagsFit 30 c ∧
      ∃ r, (extract true 60 v).value = some (.complete r) ∧
        r.spanId = c.spanId ∧
        r.sampling.priority = c.sampling.priority ∧
        r.origin = c.origin ∧
        r.tagSet.error = none ∧
        r.baggage = (if true then c.baggage else ∅) ∧
        (TagsFit 60 c →
          r.traceId = c.traceId ∧ r.tagSet.tags = c.tagSet.tags ∧
            r.sampling.mechanism = c.tagSet.decisionMaker.map statedMechanism) ∧
        (¬ TagsFit 60 c →
          r.traceId = .narrow c.traceId.low ∧ r.tagSet.tags = ∅ ∧
            r.sampling.mechanism = none) := by
  intro c v
  have hf : TagsFit 60 c := .inr (by decide)
  have hn : ¬ TagsFit 30 c := by
    rintro (h | h)
    · exact absurd h (by decide)
    · exact absurd h (by decide)
  exact ⟨writable_writableContext, .map, hf, hn,
    extract_inject_within writable_writableContext true 60 .map⟩

end TraceHeaders.Datadog
