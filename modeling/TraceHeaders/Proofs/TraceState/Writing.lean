import TraceHeaders.Proofs.Text.Numeral
import TraceHeaders.Proofs.TraceState.Reading

/-! The written header says the items of the context, then those that the propagated tags make. -/

namespace TraceHeaders.TraceState

section Chars

lemma allowed_of_mem_sanitize {allowed : Char → Bool} (h : allowed '_') {t : Text} {c : Char}
    (hc : c ∈ sanitize allowed t) : allowed c := by
  obtain ⟨d, -, rfl⟩ := List.mem_map.mp hc
  by_cases hd : allowed d
  · rwa [if_pos hd]
  · rwa [if_neg hd]

lemma mem_of_mem_sanitize {allowed : Char → Bool} {t : Text} {c : Char}
    (hc : c ∈ sanitize allowed t) : c = '_' ∨ c ∈ t := by
  obtain ⟨d, hd, rfl⟩ := List.mem_map.mp hc
  by_cases ha : allowed d
  · rw [if_pos ha]
    exact .inr hd
  · exact .inl (if_neg ha)

lemma of_mem_encodeValue {t : Text} {c : Char} (hc : c ∈ encodeValue t) :
    TagSet.isValueChar c ∧ c ≠ ';' := by
  obtain ⟨d, hd, rfl⟩ := List.mem_map.mp hc
  have hv := allowed_of_mem_sanitize (by decide) hd
  by_cases he : d = '='
  · simp [he, TagSet.isValueChar]
  · simp only [isValueChar, Bool.and_eq_true, decide_eq_true_eq] at hv
    rw [if_neg he, tagSet_isValueChar_iff]
    exact ⟨⟨hv.1.1.1, hv.1.1.2⟩, hv.1.2⟩

lemma decodeValue_encodeValue (t : Text) :
    decodeValue (encodeValue t) = sanitize isValueChar t := by
  rw [decodeValue, encodeValue, Text.replace, Text.replace, List.map_map]
  refine (List.map_congr_left fun c hc => ?_).trans (List.map_id _)
  have hv := allowed_of_mem_sanitize (by decide) hc
  by_cases he : c = '='
  · simp [he]
  · have ht : c ≠ '~' := by
      rintro rfl
      exact absurd hv (by decide)
    simp [he, ht]

lemma isBlank_replace {old new : Char} (ho : Text.isBlank old = false)
    (hn : Text.isBlank new = false) (c : Char) :
    Text.isBlank (if c = old then new else c) = Text.isBlank c := by
  by_cases h : c = old
  · rw [if_pos h, h, ho, hn]
  · rw [if_neg h]

def received (o : Text) : Text := Text.trimRight (sanitize isValueChar o)

lemma decodeValue_trimRight (t : Text) :
    decodeValue (Text.trimRight t) = Text.trimRight (decodeValue t) :=
  (Text.trimRight_map (isBlank_replace (by decide) (by decide)) t).symm

lemma isValueChar_of_isLowerHexDigit {c : Char} (h : Text.isLowerHexDigit c) :
    TagSet.isValueChar c ∧ c ≠ ';' := by
  refine ⟨TagSet.isValueChar_of_isLowerHexDigit h, ?_⟩
  rintro rfl
  exact absurd h (by decide)

lemma of_mem_ofInt {z : Int} {c : Char} (h : c ∈ Text.ofInt z) :
    TagSet.isValueChar c ∧ c ≠ ';' := by
  cases z with
  | ofNat n =>
    exact isValueChar_of_isLowerHexDigit
      (Text.isLowerHexDigit_of_isDigit (Text.isDigit_of_mem_ofNat h))
  | negSucc n =>
    rw [Text.ofInt, List.mem_cons] at h
    obtain rfl | h := h
    · decide
    · exact isValueChar_of_isLowerHexDigit
        (Text.isLowerHexDigit_of_isDigit (Text.isDigit_of_mem_ofNat h))

end Chars

section Own

variable (c : Context)

def writtenTags : List Text :=
  let texts := (tagItems c).map (·.2)
  texts.take (Fields.fitting ownLimit (Text.byteLength (ownBase c)) texts)

lemma value_ownMember : (ownMember c).value = Fields.join (ownBase c) (writtenTags c) := by
  simp only [ownMember]
  split <;> rfl

def strayItems : List (Text × Text) := (writtenTags c).flatMap items

def fixedFields : List (Text × Text) :=
  (c.sampling.priority.map fun p => (['s'], Text.ofInt p.toInt)).toList ++
    (c.origin.map fun o => (['o'], Text.trimRight (encodeValue o))).toList ++
    [(['p'], Text.hexWord c.spanId)]

variable {c}

lemma of_mem_tagItem {k x t : Text} (h : tagItem? k x = some t) {ch : Char} (hc : ch ∈ t) :
    TagSet.isValueChar ch := by
  obtain ⟨suffix, -, rfl⟩ := Option.map_eq_some_iff.mp h
  simp only [List.mem_append, List.mem_cons] at hc
  obtain (hc | hc) | rfl | hc := hc
  · revert ch
    apply Text.forall_mem_of_all
    decide
  · have hk := allowed_of_mem_sanitize (by decide) hc
    simp only [isKeyChar, Bool.and_eq_true, decide_eq_true_eq] at hk
    exact tagSet_isValueChar_iff.mpr ⟨hk.1.1.1, hk.1.2⟩
  · decide
  · exact (of_mem_encodeValue hc).1

lemma mem_writtenTags {t : Text} (h : t ∈ writtenTags c) :
    ∃ e ∈ c.tagSet.tags.entries, tagItem? e.1 e.2 = some t := by
  obtain ⟨i, hi, rfl⟩ := List.mem_map.mp (List.mem_of_mem_take h)
  obtain ⟨e, he, ht⟩ := List.mem_filterMap.mp hi
  obtain ⟨x, hx, rfl⟩ := Option.map_eq_some_iff.mp ht
  exact ⟨e, he, hx⟩

lemma of_mem_fixedItems {t : Text} (ht : t ∈ fixedItems c) {ch : Char} (hc : ch ∈ t) :
    TagSet.isValueChar ch ∧ ch ≠ ';' := by
  simp only [fixedItems, List.mem_append, Option.mem_toList, Option.map_eq_some_iff,
    List.mem_singleton] at ht
  obtain (⟨p, -, rfl⟩ | ⟨o, -, rfl⟩) | rfl := ht <;> rw [List.mem_append] at hc <;>
    obtain hc | hc := hc
  · revert ch
    apply Text.forall_mem_of_all
    decide
  · exact of_mem_ofInt hc
  · revert ch
    apply Text.forall_mem_of_all
    decide
  · exact of_mem_encodeValue hc
  · revert ch
    apply Text.forall_mem_of_all
    decide
  · exact isValueChar_of_isLowerHexDigit (Text.mem_hexPadded hc)

lemma items_pair {k x : Text} (hk : Text.trimLeft k = k) (hc : ':' ∉ k) (hs : ';' ∉ k)
    (hx : ';' ∉ x) : items (k ++ ':' :: x) = [(k, Text.trimRight x)] := by
  have h : ';' ∉ k ++ ':' :: x := by simp [hs, hx]
  rw [items_of_not_mem h, Text.trim_append_cons (by decide), hk, Text.cut?_append_of_not_mem hc]
  simp [Text.cut?]

lemma items_priority (p : Int8) :
    items ('s' :: ':' :: Text.ofInt p.toInt) = [(['s'], Text.ofInt p.toInt)] := by
  have hi := items_pair (k := ['s']) rfl (by decide) (by decide)
    fun h => (of_mem_ofInt (z := p.toInt) h).2 rfl
  rwa [Text.trimRight_of_not_blank fun _ => Text.not_blank_of_mem_ofInt] at hi

lemma items_origin (o : Text) :
    items ('o' :: ':' :: encodeValue o) = [(['o'], Text.trimRight (encodeValue o))] :=
  items_pair (k := ['o']) rfl (by decide) (by decide) fun h => (of_mem_encodeValue h).2 rfl

lemma items_lastParent (w : UInt64) :
    items ('p' :: ':' :: Text.hexWord w) = [(['p'], Text.hexWord w)] := by
  have hx := (Text.length_and_mem_hexWord w).2
  have hi := items_pair (k := ['p']) rfl (by decide) (by decide)
    fun h => (isValueChar_of_isLowerHexDigit (hx _ h)).2 rfl
  rwa [Text.trimRight_of_not_blank fun ch hc => Text.not_blank_of_isLowerHexDigit (hx ch hc)] at hi

lemma flatMap_items_fixedItems (c : Context) : (fixedItems c).flatMap items = fixedFields c := by
  rw [fixedItems, fixedFields]
  cases c.sampling.priority <;> cases c.origin <;>
    simp [items_priority, items_origin, items_lastParent]

def ownBody (c : Context) : Text := Fields.join ([';'].intercalate (fixedItems c)) (writtenTags c)

lemma value_ownMember_eq (c : Context) : (ownMember c).value = ownStart ++ ownBody c := by
  rw [value_ownMember, ownBody, Fields.join, Fields.join, ownBase, List.append_assoc]

lemma items_ownBody (c : Context) : items (ownBody c) = fixedFields c ++ strayItems c := by
  rw [ownBody, items_join, items_intercalate, flatMap_items_fixedItems, strayItems]

lemma of_mem_ownMember {ch : Char} (h : ch ∈ ownStart ++ ownBody c) : TagSet.isValueChar ch := by
  rw [ownBody, Fields.join, List.mem_append, List.mem_append, List.mem_flatMap] at h
  obtain h | h | ⟨t, ht, h⟩ := h
  · revert ch
    apply Text.forall_mem_of_all
    decide
  · obtain rfl | ⟨t, ht, h⟩ := Text.eq_or_mem_of_mem_intercalate h
    · decide
    · exact (of_mem_fixedItems ht h).1
  · obtain rfl | h := List.mem_cons.mp h
    · decide
    · obtain ⟨e, -, he⟩ := mem_writtenTags ht
      exact of_mem_tagItem he h

lemma trim_ownMember (c : Context) :
    Text.trim (ownStart ++ ownBody c) = ownStart ++ Text.trimRight (ownBody c) := by
  change Text.trim ('d' :: 'd' :: '=' :: ownBody c) = 'd' :: 'd' :: '=' :: _
  rw [Text.trim_cons_of_not_blank (by decide), Text.trimRight_cons_of_not_blank (by decide),
    Text.trimRight_cons_of_not_blank (by decide)]
  rfl

end Own

section Members

variable {c : Context}

lemma of_mem_foreign {t m : Text} (h : m ∈ foreign t) :
    Text.trimmed? m = some m ∧ ',' ∉ m ∧ m ⊆ t :=
  Text.mem_commaElements (List.mem_of_mem_filter (List.mem_of_mem_take h))

def foreignMembers (c : Context) : List Text := (c.tagSet.traceState.map foreign).getD []

lemma mem_foreignMembers {m : Text} (h : m ∈ foreignMembers c) :
    ∃ t, c.tagSet.traceState = some t ∧ m ∈ foreign t := by
  unfold foreignMembers at h
  cases ht : c.tagSet.traceState with
  | none => simp [ht] at h
  | some t => exact ⟨t, rfl, by simpa [ht] using h⟩

lemma value_encode (c : Context) :
    (encode c).value = [','].intercalate ((ownStart ++ ownBody c) :: foreignMembers c) := by
  rw [← value_ownMember_eq]
  rfl

lemma comma_not_mem {m : Text} (hm : m ∈ (ownStart ++ ownBody c) :: foreignMembers c) : ',' ∉ m := by
  intro hc
  rcases List.mem_cons.mp hm with rfl | hm
  · exact (tagSet_isValueChar_iff.mp (of_mem_ownMember hc)).2 rfl
  · obtain ⟨t, -, hm⟩ := mem_foreignMembers hm
    exact (of_mem_foreign hm).2.1 hc

lemma members_encode (c : Context) :
    members [(encode c).value] =
      (ownStart ++ Text.trimRight (ownBody c)) :: foreignMembers c := by
  have hf : (foreignMembers c).filterMap Text.trimmed? = foreignMembers c := by
    refine (List.filterMap_congr fun m hm => ?_).trans List.filterMap_some
    obtain ⟨t, -, hm⟩ := mem_foreignMembers hm
    exact (of_mem_foreign hm).1
  have ho : Text.trimmed? (ownStart ++ ownBody c) =
      some (ownStart ++ Text.trimRight (ownBody c)) := by
    rw [Text.trimmed?_eq_some_iff, trim_ownMember]
    exact ⟨rfl, List.cons_ne_nil _ _⟩
  rw [members, List.flatMap_singleton, value_encode,
    Text.commaElements_intercalate fun m => comma_not_mem, List.filterMap_cons, ho, hf]

lemma own?_encode (t : Text) (ms : List Text) : own? ((ownStart ++ t) :: ms) = some t := by
  have h : ownStart.isPrefixOf? (ownStart ++ t) = some t := rfl
  rw [own?, List.findSome?_cons, h]

end Members

section Read

variable {c : Context}

lemma stated_priority_fixedFields :
    stated ['s'] (fixedFields c) = c.sampling.priority.map fun p => Text.ofInt p.toInt := by
  rw [fixedFields]
  cases c.sampling.priority <;> cases c.origin <;> rfl

lemma stated_origin_fixedFields :
    stated ['o'] (fixedFields c) = c.origin.map fun o => Text.trimRight (encodeValue o) := by
  rw [fixedFields]
  cases c.sampling.priority <;> cases c.origin <;> rfl

lemma isParent_hexWord (w : UInt64) : isParent (Text.hexWord w) := by
  rw [isParent, Bool.and_eq_true, decide_eq_true_eq, List.all_eq_true]
  exact Text.length_and_mem_hexWord w

lemma stated_lastParent_fixedFields :
    stated ['p'] ((fixedFields c).filter fun i => isParent i.2) = some (Text.hexWord c.spanId) := by
  rw [fixedFields, List.filter_append, stated_append, List.filter_cons_of_pos]
  · rfl
  · exact isParent_hexWord c.spanId

lemma readAll_written (c : Context) :
    (Own.readAll {} (fixedFields c ++ strayItems c)).value =
      { priority := ((stated ['s'] (strayItems c)).map Text.int8?).getD c.sampling.priority
        origin := ((stated ['o'] (strayItems c)).map decodeValue).or (c.origin.map received)
        lastParent := (stated ['p'] ((strayItems c).filter fun i => isParent i.2)).or
          (some (Text.hexWord c.spanId))
        tags := .ofList ((fixedFields c ++ strayItems c).filterMap tag?) } := by
  rw [Own.value_readAll, Own.mk.injEq]
  refine ⟨?_, ?_, ?_, rfl⟩
  · rw [stated_append, stated_priority_fixedFields]
    cases stated ['s'] (strayItems c) <;> cases c.sampling.priority <;> simp [Text.int8?_ofInt]
  · rw [stated_append, stated_origin_fixedFields]
    cases stated ['o'] (strayItems c) <;> cases c.origin <;>
      simp [decodeValue_trimRight, decodeValue_encodeValue, received]
  · rw [List.filter_append, stated_append, stated_lastParent_fixedFields]
    cases stated ['p'] ((strayItems c).filter fun i => isParent i.2) <;> rfl

lemma isPrintableAscii_of_mem_members {ms : List Text}
    (h : ∀ m ∈ ms, ∀ ch ∈ m, isPrintableAscii ch) :
    ([','].intercalate ms).all isPrintableAscii := by
  rw [List.all_eq_true]
  intro ch hc
  obtain rfl | ⟨m, hm, hc⟩ := Text.eq_or_mem_of_mem_intercalate hc
  · decide
  · exact h m hm ch hc

def delivered (c : Context) : Text := [','].intercalate (members [(encode c).value])

lemma printable_delivered
    (hp : ∀ t, c.tagSet.traceState = some t → ∀ ch ∈ t, isPrintableAscii ch) :
    (delivered c).all isPrintableAscii := by
  apply isPrintableAscii_of_mem_members
  rw [members_encode]
  intro m hm ch hc
  rcases List.mem_cons.mp hm with rfl | hm
  · rw [← trim_ownMember] at hc
    exact (tagSet_isValueChar_iff.mp (of_mem_ownMember (Text.trim_subset _ hc))).1
  · obtain ⟨t, ht, hm⟩ := mem_foreignMembers hm
    exact hp t ht ch ((of_mem_foreign hm).2.2 hc)

lemma value_read_encode
    (hp : ∀ t, c.tagSet.traceState = some t → ∀ ch ∈ t, isPrintableAscii ch) :
    (read [(encode c).value]).value =
      some (delivered c, (Own.readAll {} (fixedFields c ++ strayItems c)).value) := by
  have ht := printable_delivered hp
  rw [delivered] at ht
  have ho : own? (members [(encode c).value]) = some (Text.trimRight (ownBody c)) := by
    rw [members_encode, own?_encode]
  simp only [read, ht, ho, items_trimRight, items_ownBody]
  rfl

lemma key_of_mem_items_tagItem {k x t : Text} (hk : ';' ∉ k) (h : tagItem? k x = some t)
    {i : Text × Text} (hi : i ∈ items t) : ∃ s, i.1 = 't' :: '.' :: s := by
  -- The item holds no semicolon, so it is read as one item, and it begins as it was written.
  obtain ⟨suffix, hp, rfl⟩ := Option.map_eq_some_iff.mp h
  have hs : ';' ∉ sanitize isKeyChar suffix := by
    intro hc
    rcases mem_of_mem_sanitize hc with hc | hc
    · exact absurd hc (by decide)
    · rw [← List.isPrefixOf?_eq_some_iff_append_eq.mp hp] at hk
      exact hk (List.mem_append_right _ hc)
  have ht : ';' ∉ 't' :: '.' :: (sanitize isKeyChar suffix ++ ':' :: encodeValue x) := by
    have hx : ';' ∉ encodeValue x := fun hc => (of_mem_encodeValue hc).2 rfl
    simp [hs, hx]
  change i ∈ items ('t' :: '.' :: (sanitize isKeyChar suffix ++ ':' :: encodeValue x)) at hi
  rw [items_of_not_mem ht, Text.trim_cons_of_not_blank (by decide),
    Text.trimRight_cons_of_not_blank (by decide), Option.mem_toList] at hi
  simp only [Text.cut?, show ¬ 't' = ':' by decide, show ¬ '.' = ':' by decide, if_false,
    Option.map_map, Option.map_eq_some_iff] at hi
  obtain ⟨p, -, rfl⟩ := hi
  exact ⟨p.1, rfl⟩

lemma key_of_mem_strayItems (h : ∀ e ∈ c.tagSet.tags.entries, ';' ∉ e.1) {i : Text × Text}
    (hi : i ∈ strayItems c) : ∃ s, i.1 = 't' :: '.' :: s := by
  obtain ⟨t, ht, hi⟩ := List.mem_flatMap.mp hi
  obtain ⟨e, he, ht⟩ := mem_writtenTags ht
  exact key_of_mem_items_tagItem (h e he) ht hi

lemma stated_eq_none_of_keys (h : ∀ e ∈ c.tagSet.tags.entries, ';' ∉ e.1)
    {is : List (Text × Text)} (hi : is ⊆ strayItems c) (k : Char) : stated [k] is = none := by
  rw [Option.eq_none_iff_forall_ne_some]
  intro t ht
  obtain ⟨x, hx⟩ := key_of_mem_strayItems h (hi (mem_of_stated ht))
  simp at hx

end Read

end TraceHeaders.TraceState
