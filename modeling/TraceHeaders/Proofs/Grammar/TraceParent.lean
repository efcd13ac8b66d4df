import TraceHeaders.Proofs.Findings
import TraceHeaders.Proofs.TraceParent

namespace TraceHeaders

namespace TraceParent

structure Parts.Grammatical (p : Parts) : Prop where
  version : p.version.length = 2 ∧ ∀ c ∈ p.version, Text.isHexDigit c
  version_ne : ¬ Text.sameName p.version "ff".toList
  traceId : p.traceId.length = 32 ∧ Text.Identifying p.traceId
  spanId : p.spanId.length = 16 ∧ Text.Identifying p.spanId
  flags : p.flags.length = 2 ∧ ∀ c ∈ p.flags, Text.isHexDigit c
  tail : p.tail = [] ∨ p.version ≠ "00".toList ∧ ∃ line, p.tail = '-' :: line ∧ '\n' ∉ line

lemma isTail_iff {t : Text} : isTail t ↔ t = [] ∨ ∃ line, t = '-' :: line ∧ '\n' ∉ line := by
  cases t with
  | nil => simp [isTail]
  | cons c r =>
    simp only [isTail, Bool.and_eq_true, decide_eq_true_eq, List.all_eq_true]
    constructor
    · rintro ⟨rfl, hr⟩
      exact .inr ⟨r, rfl, fun hn => hr _ hn rfl⟩
    · rintro (h | ⟨line, h, hn⟩)
      · cases h
      · obtain ⟨rfl, rfl⟩ := List.cons.inj h
        refine ⟨rfl, fun d hd => ?_⟩
        rintro rfl
        exact hn hd

namespace Parts

variable {p : Parts}

lemma Formed.ofParts_eq_ok_iff (h : p.Formed) {q : TraceParent} :
    ofParts p = .ok q ↔ Text.hexValue p.traceId ≠ 0 ∧ Text.hexValue p.spanId ≠ 0 ∧
      q = ⟨Text.hexValue p.traceId, .ofNat (Text.hexValue p.spanId),
        Text.hexValue p.flags % 2 = 1⟩ := by
  have hx : ∀ {width : Nat} {t : Text}, t.length = width ∧ (∀ c ∈ t, Text.isHexDigit c) →
      0 < width → Text.hex? t = some (Text.hexValue t) := by
    rintro width t ⟨rfl, ht⟩ hw
    exact Text.hex?_eq_hexValue (List.ne_nil_of_length_pos hw) ht
  rw [TraceParent.ofParts_eq_ok_iff, hx h.traceId (by decide), hx h.spanId (by decide),
    hx h.flags (by decide)]
  rfl

lemma Formed.denotes_iff (h : p.Formed) {traceId : TraceId} {spanId : UInt64} :
    TraceId.Denotes p.traceId p.spanId traceId spanId ↔
      traceId = .ofNat (Text.hexValue p.traceId) ∧ spanId = .ofNat (Text.hexValue p.spanId) := by
  have ht := Text.hexValue_lt h.traceId.2
  have hs := Text.hexValue_lt h.spanId.2
  rw [h.traceId.1] at ht
  rw [h.spanId.1] at hs
  exact TraceId.denotes_iff ht hs

lemma grammatical_iff :
    p.Grammatical ↔ p.Formed ∧ ¬ Text.sameName p.version "ff".toList ∧
      (p.version = "00".toList → p.tail = []) ∧
      Text.hexValue p.traceId ≠ 0 ∧ Text.hexValue p.spanId ≠ 0 := by
  constructor
  · intro h
    have ht := h.traceId.2
    have hs := h.spanId.2
    have hl : isTail p.tail := isTail_iff.mpr (h.tail.imp_right fun hl => hl.2)
    refine ⟨⟨h.version, ⟨h.traceId.1, ht.digits⟩, ⟨h.spanId.1, hs.digits⟩, h.flags, hl⟩,
      h.version_ne, fun hv => ?_, (Text.identifying_iff ht.digits).mp ht,
      (Text.identifying_iff hs.digits).mp hs⟩
    exact h.tail.resolve_right fun hn => hn.1 hv
  · rintro ⟨h, hf, hv, ht, hs⟩
    refine ⟨h.version, hf, ⟨h.traceId.1, (Text.identifying_iff h.traceId.2).mpr ht⟩,
      ⟨h.spanId.1, (Text.identifying_iff h.spanId.2).mpr hs⟩, h.flags, ?_⟩
    rcases isTail_iff.mp h.tail with hn | hl
    · exact .inl hn
    · refine .inr ⟨fun h0 => ?_, hl⟩
      obtain ⟨line, hl, -⟩ := hl
      cases hl.symm.trans (hv h0)

end Parts

lemma exists_ofText_iff {t : Text} {traceId : TraceId} {spanId : UInt64} :
    (∃ q, (ofText t).value = .ok q ∧ traceId = .ofNat q.traceId ∧ spanId = q.spanId) ↔
      ∃ p : Parts, t = p.text ∧ p.Grammatical ∧
        TraceId.Denotes p.traceId p.spanId traceId spanId := by
  constructor
  · rintro ⟨q, hq, ht, hs⟩
    obtain ⟨p, hp, hv, h0, hn⟩ := value_ofText_eq_ok_iff.mp hq
    obtain ⟨hf, he⟩ := parts?_eq_some_iff.mp hp
    obtain ⟨hnt, hns, rfl⟩ := hf.ofParts_eq_ok_iff.mp hn
    exact ⟨p, he, Parts.grammatical_iff.mpr ⟨hf, hv, h0, hnt, hns⟩, hf.denotes_iff.mpr ⟨ht, hs⟩⟩
  · rintro ⟨p, he, hg, hd⟩
    obtain ⟨hf, hv, h0, hnt, hns⟩ := Parts.grammatical_iff.mp hg
    obtain ⟨ht, hs⟩ := hf.denotes_iff.mp hd
    have hn := hf.ofParts_eq_ok_iff.mpr ⟨hnt, hns, rfl⟩
    have hp := parts?_eq_some_iff.mpr ⟨hf, he⟩
    exact ⟨_, value_ofText_eq_ok_iff.mpr ⟨p, hp, hv, h0, hn⟩, ht, hs⟩

end TraceParent

namespace TraceContext

open TraceParent (Parts)

theorem exists_extract_iff_grammatical {v : HeaderView} {traceId : TraceId} {spanId : UInt64} :
    (∃ c, (extract v).value = some (.complete c) ∧ c.traceId = traceId ∧ c.spanId = spanId) ↔
      ∃ (header : Text) (p : Parts), v.get? parentName = some header ∧
        Text.trim header = p.text ∧ p.Grammatical ∧
        TraceId.Denotes p.traceId p.spanId traceId spanId := by
  constructor
  · rintro ⟨c, hc, rfl, rfl⟩
    obtain ⟨t, q, hg, hq, rfl⟩ := extract_eq_complete_iff.mp hc
    obtain ⟨header, hh, rfl⟩ := Option.map_eq_some_iff.mp hg
    obtain ⟨p, he, hp, hd⟩ := TraceParent.exists_ofText_iff.mp ⟨q, hq, rfl, rfl⟩
    exact ⟨header, p, hh, he, hp, hd⟩
  · rintro ⟨header, p, hh, he, hp, hd⟩
    obtain ⟨q, hq, rfl, rfl⟩ := TraceParent.exists_ofText_iff.mpr ⟨p, he, hp, hd⟩
    refine ⟨_, extract_eq_complete_iff.mpr ⟨_, q, ?_, hq, rfl⟩, rfl, rfl⟩
    rw [hh, Option.map_some]

end TraceContext

end TraceHeaders
