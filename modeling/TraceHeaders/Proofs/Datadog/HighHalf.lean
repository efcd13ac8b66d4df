import TraceHeaders.Proofs.TagSet.Header

namespace TraceHeaders.Datadog

def highHalfOf (t : Option Text) : UInt64 :=
  (t.filter isHighHalf).elim 0 fun t => .ofNat ((Text.hex? t).getD 0)

lemma value_takeHighHalf_fst (s : TagSet) :
    (takeHighHalf s).value.1 = highHalfOf (s.get? TagSet.highHalfKey) := by
  unfold takeHighHalf
  cases s.get? TagSet.highHalfKey with
  | none => rfl
  | some t => by_cases ht : isHighHalf t <;> simp [ht, highHalfOf, Option.filter]

lemma highHalfOf_hexWord (w : UInt64) : highHalfOf (some (Text.hexWord w)) = w := by
  have ht : isHighHalf (Text.hexWord w) := by
    rw [isHighHalf, Bool.and_eq_true, decide_eq_true_eq, List.all_eq_true]
    exact Text.length_and_mem_hexWord w
  simp [highHalfOf, Option.filter, ht, Text.hex?_hexWord]

lemma highHalfOf_of_mem {t : Text} (h : '=' ∈ t) : highHalfOf (some t) = 0 := by
  have ht : isHighHalf t = false := by
    rw [isHighHalf, Bool.and_eq_false_iff, List.all_eq_false]
    exact .inr ⟨'=', h, by decide⟩
  simp [highHalfOf, Option.filter, ht]

lemma exists_hex? {t : Text} (h : isHighHalf t) : ∃ n, Text.hex? t = some n ∧ n < UInt64.size := by
  rw [isHighHalf, Bool.and_eq_true, decide_eq_true_eq, List.all_eq_true] at h
  have ht : t ≠ [] := by
    rintro rfl
    simp at h
  obtain ⟨n, hn⟩ := Text.exists_digitsFrom
    (fun c hc => Text.isHexDigit_of_isLowerHexDigit (h.2 c hc)) 0
  have hx := Text.hex?_eq_some_iff.mpr ⟨ht, hn⟩
  have hlt := Text.hex?_lt hx
  rw [h.1] at hlt
  exact ⟨n, hx, hlt⟩

lemma highHalfOf_eq_zero_iff {o : Option Text} :
    highHalfOf o = 0 ↔ ∀ t, o = some t → isHighHalf t → Text.hex? t = some 0 := by
  cases o with
  | none => simp [highHalfOf]
  | some t =>
    by_cases ht : isHighHalf t
    · obtain ⟨n, hn, hlt⟩ := exists_hex? ht
      simp [highHalfOf, Option.filter, ht, hn, Text.ofNat_eq_zero_iff hlt]
    · simp [highHalfOf, Option.filter, ht]

lemma get?_ofHeader_readable {d : Dict Text} {limit : Nat} (h : ∀ e ∈ d.entries, TagSet.Carried e)
    (hd : d.entries ≠ []) (hl : Text.byteLength (TagSet.encode d) ≤ limit)
    (hr : TagSet.HighHalfReadable d) :
    (TagSet.ofHeader limit (TagSet.encode d)).value.get? TagSet.highHalfKey =
      d.get? TagSet.highHalfKey := by
  rw [TagSet.value_ofHeader_encode h hd hl, TagSet.readElements_eq_ok h hr.keys]
  simp only
  rw [TagSet.get?_checkDecisionMaker]
  exact TagSet.get?_ofList_arriving hr.unshadowed

lemma highHalfOf_ofHeader_unreadable {d : Dict Text} {limit : Nat}
    (h : ∀ e ∈ d.entries, TagSet.Carried e) (hd : d.entries ≠ [])
    (hl : Text.byteLength (TagSet.encode d) ≤ limit) (hr : ¬ TagSet.HighHalfReadable d) :
    highHalfOf ((TagSet.ofHeader limit (TagSet.encode d)).value.get? TagSet.highHalfKey) = 0 := by
  rw [TagSet.value_ofHeader_encode h hd hl]
  by_cases hk : ∀ e ∈ d.entries, TagSet.isKey (TagSet.arriving e).1
  · have hs : ∃ s ∈ d.entries, TagSet.highHalfKey ++ ['='] <+: s.1 := by
      by_contra hn
      push Not at hn
      exact hr ⟨hk, hn⟩
    obtain ⟨s, hs, hp⟩ := hs
    rw [TagSet.readElements_eq_ok h hk]
    simp only
    rw [TagSet.get?_checkDecisionMaker, TagSet.get?]
    cases hg : (Dict.ofList (d.entries.map TagSet.arriving)).get? TagSet.highHalfKey with
    | none => rfl
    | some x => exact highHalfOf_of_mem (TagSet.mem_value_of_shadowed hs hp hg)
  · push Not at hk
    obtain ⟨e, he, hn⟩ := hk
    obtain ⟨p, hp⟩ := TagSet.readElements_eq_error h he hn
    rw [hp]
    rfl

lemma highHalf_received {s : TagSet} {limit : Nat} {v : HeaderView}
    (h : ∀ e ∈ s.tags.entries, TagSet.Carried e)
    (hl : Text.byteLength (TagSet.encode s.tags) ≤ limit)
    (hv : v.get? tagsName = (s.header? limit).value) :
    (TagSet.HighHalfReadable s.tags → (takeHighHalf (tagSet limit v).value).value.1 =
        highHalfOf (s.get? TagSet.highHalfKey)) ∧
      (¬ TagSet.HighHalfReadable s.tags →
        (takeHighHalf (tagSet limit v).value).value.1 = 0) := by
  rw [value_takeHighHalf_fst, tagSet, hv]
  by_cases hd : s.tags.entries = []
  · have hg : s.get? TagSet.highHalfKey = none := by
      simp [TagSet.get?, Dict.get?, hd]
    rw [TagSet.value_header?_of_nil hd, hg]
    exact ⟨fun _ => rfl, fun _ => rfl⟩
  · rw [TagSet.value_header? hd hl]
    constructor
    · intro hr
      exact congrArg highHalfOf (get?_ofHeader_readable h hd hl hr)
    · exact highHalfOf_ofHeader_unreadable h hd hl

end TraceHeaders.Datadog
