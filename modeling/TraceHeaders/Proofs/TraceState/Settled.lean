import TraceHeaders.Proofs.TraceState.Foreign

/-! What was read from a `tracestate` is written so that it is read as it is, and what is then read
is written the same again. -/

namespace TraceHeaders.TraceState

variable {c d : Context}

structure SettledTag (e : Text × Text) : Prop where
  key : ∃ suffix, e.1 = TagSet.keyStart ++ suffix ∧ ':' ∉ suffix ∧ ';' ∉ suffix ∧
    sanitize isKeyChar suffix = suffix
  value : received e.2 = e.2

structure Settled (c : Context) : Prop where
  tags : ∀ e ∈ c.tagSet.tags.entries, SettledTag e
  origin : ∀ o, c.origin = some o → received o = o

section Write

def tagTexts (es : List (Text × Text)) : List Text := es.filterMap fun e => tagItem? e.1 e.2

lemma SettledTag.exists_tagItem {e : Text × Text} (h : SettledTag e) :
    ∃ t, tagItem? e.1 e.2 = some t ∧ (items t).filterMap tag? = [e] := by
  obtain ⟨k, x⟩ := e
  obtain ⟨suffix, rfl, hc, hs, hk⟩ := h.key
  have hx : ';' ∉ encodeValue x := fun hm => (of_mem_encodeValue hm).2 rfl
  have hp : TagSet.keyStart.isPrefixOf? (TagSet.keyStart ++ suffix) = some suffix :=
    List.isPrefixOf?_eq_some_iff_append_eq.mpr rfl
  have ht : "t.".toList.isPrefixOf? ("t.".toList ++ suffix) = some suffix :=
    List.isPrefixOf?_eq_some_iff_append_eq.mpr rfl
  refine ⟨"t.".toList ++ suffix ++ ':' :: encodeValue x, ?_, ?_⟩
  · rw [tagItem?, hp, Option.map_some, hk]
  · have hl : Text.trimLeft ("t.".toList ++ suffix) = "t.".toList ++ suffix := rfl
    rw [items_pair hl (by simpa using hc) (by simpa using hs) hx, List.filterMap_cons, tag?, ht,
      Option.map_some, decodeValue_trimRight, decodeValue_encodeValue]
    exact congrArg (fun y => [(TagSet.keyStart ++ suffix, y)]) h.value

lemma tagTexts_cons {e : Text × Text} {t : Text} (h : tagItem? e.1 e.2 = some t)
    (es : List (Text × Text)) : tagTexts (e :: es) = t :: tagTexts es :=
  List.filterMap_cons_some h

lemma tagTexts_take {es : List (Text × Text)} (h : ∀ e ∈ es, SettledTag e) (n : Nat) :
    tagTexts (es.take n) = (tagTexts es).take n := by
  induction es generalizing n with
  | nil => simp [tagTexts]
  | cons e es ih =>
    obtain ⟨t, ht, -⟩ := (h e List.mem_cons_self).exists_tagItem
    cases n with
    | zero => rfl
    | succ n =>
      rw [List.take_succ_cons, tagTexts_cons ht, tagTexts_cons ht, List.take_succ_cons,
        ih fun d hd => h d (List.mem_cons_of_mem e hd)]

lemma length_tagTexts (h : ∀ e ∈ es, SettledTag e) : (tagTexts es).length = es.length := by
  induction es with
  | nil => rfl
  | cons e es ih =>
    obtain ⟨t, ht, -⟩ := (h e List.mem_cons_self).exists_tagItem
    rw [tagTexts_cons ht, List.length_cons, List.length_cons,
      ih fun d hd => h d (List.mem_cons_of_mem e hd)]

lemma tags_tagTexts {es : List (Text × Text)} (h : ∀ e ∈ es, SettledTag e) :
    ((tagTexts es).flatMap items).filterMap tag? = es := by
  induction es with
  | nil => rfl
  | cons e es ih =>
    obtain ⟨t, ht, hi⟩ := (h e List.mem_cons_self).exists_tagItem
    rw [tagTexts_cons ht, List.flatMap_cons, List.filterMap_append, hi,
      ih fun d hd => h d (List.mem_cons_of_mem e hd), List.singleton_append]

def kept (c : Context) : List (Text × Text) :=
  c.tagSet.tags.entries.take
    (Fields.fitting ownLimit (Text.byteLength (ownBase c)) (tagTexts c.tagSet.tags.entries))

lemma kept_subset (c : Context) : kept c ⊆ c.tagSet.tags.entries := List.take_subset _ _

lemma writtenTags_eq (c : Context) :
    writtenTags c = (tagTexts c.tagSet.tags.entries).take
      (Fields.fitting ownLimit (Text.byteLength (ownBase c))
        (tagTexts c.tagSet.tags.entries)) := by
  have ht : (tagItems c).map (·.2) = tagTexts c.tagSet.tags.entries := by
    rw [tagItems, List.map_filterMap, tagTexts]
    refine List.filterMap_congr fun e _ => ?_
    rw [Option.map_map]
    exact Option.map_id'
  rw [writtenTags, ht]

lemma Settled.writtenTags_eq_kept (h : Settled c) : writtenTags c = tagTexts (kept c) := by
  rw [writtenTags_eq, kept, tagTexts_take h.tags]

lemma tags_fixedFields (c : Context) : (fixedFields c).filterMap tag? = [] := by
  rw [fixedFields]
  cases c.sampling.priority <;> cases c.origin <;> rfl

lemma Settled.semicolon_not_mem (h : Settled c) :
    ∀ e ∈ c.tagSet.tags.entries, ';' ∉ e.1 := by
  intro e he
  obtain ⟨suffix, hk, -, hs, -⟩ := (h.tags e he).key
  rw [hk, List.mem_append, not_or]
  exact ⟨by decide, hs⟩

def keptDict (c : Context) : Dict Text :=
  ⟨kept c, c.tagSet.tags.sorted.sublist (List.take_sublist _ _)⟩

lemma Settled.value_readAll (h : Settled c) :
    (Own.readAll {} (fixedFields c ++ strayItems c)).value =
      { priority := c.sampling.priority
        origin := c.origin
        lastParent := some (Text.hexWord c.spanId)
        tags := keptDict c } := by
  have hn : ∀ k, ∀ is ⊆ strayItems c, stated [k] is = none := fun k _ hi =>
    stated_eq_none_of_keys h.semicolon_not_mem hi k
  have ho : c.origin.map received = c.origin := by
    cases hc : c.origin with
    | none => rfl
    | some o => rw [Option.map_some, h.origin o hc]
  have ht : (fixedFields c ++ strayItems c).filterMap tag? = (keptDict c).entries := by
    rw [List.filterMap_append, tags_fixedFields, List.nil_append, strayItems,
      h.writtenTags_eq_kept]
    exact tags_tagTexts fun e he => h.tags e (kept_subset c he)
  rw [readAll_written, hn _ _ (List.Subset.refl _), hn _ _ (List.Subset.refl _),
    hn _ _ (List.filter_subset_self _), ht, Dict.ofList_entries, ho]
  rfl

lemma Settled.value_encode_eq (h : Settled c) (hp : d.sampling.priority = c.sampling.priority)
    (ho : d.origin = c.origin) (hs : d.spanId = c.spanId) (ht : d.tagSet.tags = keptDict c)
    (hm : d.tagSet.traceState = some (delivered c)) : (encode d).value = (encode c).value := by
  have hf : fixedItems d = fixedItems c := by rw [fixedItems, fixedItems, hp, ho, hs]
  -- The tags that had room are the first ones again, and they have room again.
  have hw : writtenTags d = writtenTags c := by
    have hk : tagTexts d.tagSet.tags.entries = writtenTags c := by
      rw [ht, h.writtenTags_eq_kept]
      rfl
    rw [writtenTags_eq, hk, ownBase, hf, writtenTags_eq, ← ownBase, Fields.fitting_take,
      List.take_take, Nat.min_self]
  have hr : foreignMembers d = foreignMembers c := by
    rw [foreignMembers, hm]
    exact foreign_delivered c
  rw [value_encode, value_encode, ownBody, ownBody, hf, hw, hr]

end Write

section Read

variable {t : Text} {i : Text × Text}

lemma of_mem_items (h : i ∈ items t) :
    ':' ∉ i.1 ∧ ';' ∉ i.1 ∧ ';' ∉ i.2 ∧ Text.trimRight i.2 = i.2 := by
  obtain ⟨p, hp, hc⟩ := List.mem_filterMap.mp h
  have hs : ';' ∉ Text.trim p := fun hm =>
    Text.sep_not_mem_of_mem_splitOn hp (Text.trim_subset p hm)
  obtain ⟨h₁, h₂⟩ := Text.subset_of_cut? hc
  refine ⟨Text.not_mem_of_cut? hc, fun hm => hs (h₁ hm), fun hm => hs (h₂ hm), ?_⟩
  -- The value ends where the trimmed piece does.
  have hr : Text.trimRight (Text.trim p) = Text.trim p :=
    List.rdropWhile_idempotent Text.isBlank (Text.trimLeft p)
  rw [Text.cut?_eq_some hc, Text.trimRight_append_cons (by decide)] at hr
  exact (List.cons.inj (List.append_cancel_left hr)).2

lemma sanitize_eq_self {allowed : Char → Bool} (h : ∀ ch ∈ t, allowed ch) :
    sanitize allowed t = t :=
  (List.map_congr_left fun ch hc => if_pos (h ch hc)).trans (List.map_id t)

lemma allowed_of_mem_decodeValue (h : ∀ ch ∈ t, TagSet.isValueChar ch) (hs : ';' ∉ t) :
    ∀ ch ∈ decodeValue t, isValueChar ch := by
  intro ch hc
  obtain ⟨k, hk, rfl⟩ := List.mem_map.mp hc
  by_cases ht : k = '~'
  · rw [if_pos ht]
    decide
  · have hv := tagSet_isValueChar_iff.mp (h k hk)
    have hn : k ≠ ';' := fun he => hs (he ▸ hk)
    rw [if_neg ht]
    simp [isValueChar, hv, hn, ht]

lemma received_decodeValue (h : ∀ ch ∈ t, TagSet.isValueChar ch) (hi : i ∈ items t) :
    received (decodeValue i.2) = decodeValue i.2 := by
  obtain ⟨-, -, hs, hr⟩ := of_mem_items hi
  have hv : ∀ ch ∈ i.2, TagSet.isValueChar ch := fun ch hc => h ch ((subset_of_mem_items hi).2 hc)
  rw [received, sanitize_eq_self (allowed_of_mem_decodeValue hv hs), ← decodeValue_trimRight, hr]

lemma settledTag_of_tag? {e : Text × Text} (h : ∀ ch ∈ t, TagSet.isValueChar ch) (hi : i ∈ items t)
    (he : tag? i = some e) (hk : ∀ ch ∈ e.1.drop TagSet.keyStart.length, isKeyChar ch) :
    SettledTag e := by
  obtain ⟨suffix, hs, rfl⟩ := Option.map_eq_some_iff.mp he
  rw [List.drop_left] at hk
  obtain ⟨hc, hn, -, -⟩ := of_mem_items hi
  rw [← List.isPrefixOf?_eq_some_iff_append_eq.mp hs, List.mem_append, not_or] at hc hn
  exact ⟨⟨suffix, rfl, hc.2, hn.2, sanitize_eq_self hk⟩, received_decodeValue h hi⟩

lemma settled_of_readAll (h : ∀ ch ∈ t, TagSet.isValueChar ch)
    (ho : c.origin = (Own.readAll {} (items t)).value.origin)
    (ht : c.tagSet.tags = (Own.readAll {} (items t)).value.tags)
    (hk : ∀ e ∈ c.tagSet.tags.entries, ∀ ch ∈ e.1.drop TagSet.keyStart.length, isKeyChar ch) :
    Settled c := by
  rw [Own.value_readAll] at ho ht
  constructor
  · intro e he
    have hm := hk e he
    rw [ht] at he
    obtain ⟨i, hi, hx⟩ := List.mem_filterMap.mp (Dict.mem_of_mem_ofList he)
    exact settledTag_of_tag? h hi hx hm
  · intro o hc
    rw [ho] at hc
    obtain ⟨x, hx, rfl⟩ := Option.map_eq_some_iff.mp ((Option.or_none).symm.trans hc)
    exact received_decodeValue h (mem_of_stated hx)

end Read

end TraceHeaders.TraceState
