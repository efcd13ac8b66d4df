import TraceHeaders.Proofs.Fields
import TraceHeaders.Proofs.TagSet.Decoding

/-! What a reader keeps of a header are some of its elements, so written again they need no more
room than the header had. -/

namespace TraceHeaders

namespace Text

variable {sep : Char} {ps : List Text}

lemma byteLength_intercalate (hs : sep.utf8Size = 1) (hp : ps ≠ []) :
    byteLength ([sep].intercalate ps) + 1 = Fields.extent ps := by
  induction ps with
  | nil => exact absurd rfl hp
  | cons p ps ih =>
    cases ps with
    | nil => simp [Fields.extent]
    | cons q qs =>
      have hq := ih (List.cons_ne_nil q qs)
      rw [List.intercalate_cons_cons, byteLength_append, byteLength_append, byteLength_cons,
        byteLength_nil, hs, Fields.extent, ← hq]
      omega

lemma byteLength_intercalate_le {t : Text} (hs : sep.utf8Size = 1) (hp : ps ≠ [])
    (h : ps.Subperm (t.splitOn sep)) : byteLength ([sep].intercalate ps) ≤ byteLength t := by
  have he := Fields.extent_le_of_subperm h
  rw [← byteLength_intercalate hs hp, ← byteLength_intercalate hs (List.splitOn_ne_nil sep t),
    List.intercalate_splitOn] at he
  exact Nat.le_of_succ_le_succ he

end Text

namespace TagSet

section Read

variable {limit : Nat} {header : Text}

lemma exists_elements (h : (ofHeader limit header).value.tags ≠ ∅) :
    Text.byteLength header ≤ limit ∧
      ∃ es, readElements (elements header) = .ok es ∧
        (ofHeader limit header).value = (checkDecisionMaker { tags := .ofList es }).value := by
  obtain ⟨e, he⟩ := List.exists_mem_of_ne_nil _ fun hn => h (Dict.ext_entries hn)
  obtain ⟨hr, -⟩ := (outcome_ofHeader limit header).of_get? (Dict.mem_entries_iff.mp he)
  exact ⟨hr.length, _, readElements_eq_ok_iff.mpr ⟨hr.formed, rfl⟩, hr.value_ofHeader⟩

lemma of_mem_ofHeader {e : Text × Text} (he : e ∈ (ofHeader limit header).value.tags.entries) :
    pair e ∈ header.splitOn ',' ∧ isKey e.1 ∧ isValue e.2 ∧ '=' ∉ e.1 := by
  obtain ⟨p, hp, hs, hv⟩ := (outcome_ofHeader limit header).exists_tells he
  obtain ⟨hk, hx⟩ := valid_iff.mp hv
  rw [hs.eq] at hp
  exact ⟨(List.mem_filter.mp hp).1, hk, hx, hs.cut⟩

lemma sayable_ofHeader (limit : Nat) (header : Text) :
    Sayable (ofHeader limit header).value.tags where
  keys _ he := (of_mem_ofHeader he).2
  decisionMaker _ hm :=
    isDecisionMaker_iff.mpr (((outcome_ofHeader limit header).of_get? hm).2.2 rfl)

lemma pair_inj {d e : Text × Text} (hd : '=' ∉ d.1) (he : '=' ∉ e.1) (h : pair d = pair e) :
    d = e := by
  have hc := congrArg (Text.cut? '=') h
  rw [cut?_pair, cut?_pair, arriving_of_not_mem hd, arriving_of_not_mem he] at hc
  exact Option.some.inj hc

lemma byteLength_encode_ofHeader (h : (ofHeader limit header).value.tags ≠ ∅) :
    Text.byteLength (encode (ofHeader limit header).value.tags) ≤ Text.byteLength header := by
  have hw := (sayable_ofHeader limit header).keys
  have hm := @of_mem_ofHeader limit header
  generalize (ofHeader limit header).value.tags = d at h hw hm
  have hn : (d.entries.map pair).Nodup := by
    refine List.Nodup.map_on (fun a ha b hb => ?_) d.nodup_keys.of_map
    exact pair_inj (hw a ha).2.2 (hw b hb).2.2
  have hs : d.entries.map pair ⊆ header.splitOn ',' := by
    intro p hp
    obtain ⟨e, he, rfl⟩ := List.mem_map.mp hp
    exact (hm he).1
  have h0 : d.entries.map pair ≠ [] := by
    rw [Ne, List.map_eq_nil_iff]
    exact fun he => h (Dict.ext_entries he)
  exact Text.byteLength_intercalate_le rfl h0 (List.subperm_of_subset hn hs)

end Read

lemma exists_header {s : TagSet} {limit : Nat} (hs : Sayable s.tags) (hd : s.tags ≠ ∅)
    (hl : Text.byteLength (encode s.tags) ≤ limit) :
    (s.header? limit).value = some (encode s.tags) ∧
      (ofHeader limit (encode s.tags)).value = { tags := s.tags } := by
  have he : s.tags.entries ≠ [] := fun he => hd (Dict.ext_entries he)
  exact ⟨value_header? he hl, value_ofHeader_of_sayable hs he hl⟩

theorem ofHeader_header (limit : Nat) :
    (∀ header, (ofHeader limit header).value.tags ≠ ∅ →
      ∃ written, ((ofHeader limit header).value.header? limit).value = some written ∧
        Text.byteLength written ≤ Text.byteLength header ∧
        (ofHeader limit written).value = { tags := (ofHeader limit header).value.tags }) ∧
    ∀ s : TagSet, s.tags ≠ ∅ → Sayable s.tags → Text.byteLength (encode s.tags) ≤ limit →
      ∃ written, (s.header? limit).value = some written ∧
        (ofHeader limit written).value = { tags := s.tags } := by
  constructor
  · intro header h
    have hb := byteLength_encode_ofHeader h
    obtain ⟨hw, hr⟩ := exists_header (sayable_ofHeader limit header) h
      (hb.trans (exists_elements h).1)
    exact ⟨_, hw, hb, hr⟩
  · intro s hd hs hl
    exact ⟨_, exists_header hs hd hl⟩

def crowdedHeader : Text := "_dd.p.a=1,x=é,_dd.p.dm=4,,_dd.p.a=b=c".toList

def sayableTags : TagSet where
  tags := .ofList [("_dd.p.dm".toList, "-4".toList), ("_dd.p.:;".toList, " =~".toList)]
  isDebug := true

lemma sayable_sayableTags : Sayable sayableTags.tags where
  keys := by decide
  decisionMaker m hm := by
    have hd : sayableTags.tags.get? decisionMakerKey = some "-4".toList := by decide
    obtain rfl := Option.some.inj (hd.symm.trans hm)
    decide

set_option maxRecDepth 10000 in
theorem ofHeader_header_crowdedHeader :
    (ofHeader 38 crowdedHeader).value.tags = .ofList [("_dd.p.a".toList, "b=c".toList)] ∧
      (∃ written, ((ofHeader 38 crowdedHeader).value.header? 38).value = some written ∧
        Text.byteLength written ≤ Text.byteLength crowdedHeader ∧
        (ofHeader 38 written).value = { tags := (ofHeader 38 crowdedHeader).value.tags }) ∧
      sayableTags.tags ≠ ∅ ∧ Sayable sayableTags.tags ∧
      Text.byteLength (encode sayableTags.tags) ≤ 38 ∧
      ∃ written, (sayableTags.header? 38).value = some written ∧
        (ofHeader 38 written).value = { tags := sayableTags.tags } := by
  have ht : (ofHeader 38 crowdedHeader).value.tags =
      .ofList [("_dd.p.a".toList, "b=c".toList)] := by decide
  have hn : (ofHeader 38 crowdedHeader).value.tags ≠ ∅ := by
    rw [ht]
    decide
  have hs : sayableTags.tags ≠ ∅ := by decide
  have hl : Text.byteLength (encode sayableTags.tags) ≤ 38 := by decide
  exact ⟨ht, (ofHeader_header 38).1 crowdedHeader hn, hs, sayable_sayableTags, hl,
    (ofHeader_header 38).2 sayableTags hs sayable_sayableTags hl⟩

end TagSet

end TraceHeaders
