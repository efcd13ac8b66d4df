import TraceHeaders.Format.TraceState
import TraceHeaders.Proofs.Fields
import TraceHeaders.Proofs.TagSet.Header

namespace TraceHeaders.TraceState

lemma tagSet_isValueChar_iff {c : Char} :
    TagSet.isValueChar c ↔ isPrintableAscii c ∧ c ≠ ',' := by
  simp [TagSet.isValueChar, isPrintableAscii]

section Items

lemma items_append_cons (s t : Text) : items (s ++ ';' :: t) = items s ++ items t := by
  rw [items, List.splitOn_append_cons_self, List.filterMap_append, items, items]

lemma items_join (start : Text) (fields : List Text) :
    items (Fields.join start fields) = items start ++ fields.flatMap items := by
  rw [items, Fields.splitOn_join, List.filterMap_append, List.filterMap_flatMap]
  rfl

lemma items_intercalate (fields : List Text) :
    items ([';'].intercalate fields) = fields.flatMap items := by
  induction fields with
  | nil => rfl
  | cons f r ih =>
    cases r with
    | nil => simp
    | cons g r =>
      rw [List.intercalate_cons_cons, List.append_assoc, List.singleton_append, items_append_cons,
        ih, List.flatMap_cons (x := f)]

lemma items_trimRight (t : Text) : items (Text.trimRight t) = items t := by
  have hc : ∀ ps : List Text, (ps.filterMap fun i => Text.cut? ':' (Text.trim i)) =
      (ps.map Text.trimRight).filterMap fun i => Text.cut? ':' (Text.trim i) := by
    intro ps
    rw [List.filterMap_map]
    congr 1
    funext i
    rw [Function.comp_apply, Text.trim_trimRight]
  rw [items, items, hc, Text.map_trimRight_splitOn_trimRight (by decide), ← hc]

lemma items_of_not_mem {t : Text} (h : ';' ∉ t) :
    items t = (Text.cut? ':' (Text.trim t)).toList := by
  rw [items, List.splitOn_eq_singleton h]
  cases hc : Text.cut? ':' (Text.trim t) <;> simp [hc]

lemma subset_of_mem_items {t : Text} {i : Text × Text} (h : i ∈ items t) : i.1 ⊆ t ∧ i.2 ⊆ t := by
  obtain ⟨p, hp, hc⟩ := List.mem_filterMap.mp h
  have ht : Text.trim p ⊆ t :=
    List.Subset.trans (Text.trim_subset p) (Text.subset_of_mem_splitOn hp)
  obtain ⟨h₁, h₂⟩ := Text.subset_of_cut? hc
  exact ⟨List.Subset.trans h₁ ht, List.Subset.trans h₂ ht⟩

end Items

def stated (key : Text) (is : List (Text × Text)) : Option Text :=
  (is.reverse.find? (·.1 = key)).map (·.2)

section Stated

variable {key : Text}

lemma stated_append (is js : List (Text × Text)) :
    stated key (is ++ js) = (stated key js).or (stated key is) := by
  rw [stated, List.reverse_append, List.find?_append, Option.map_or, stated, stated]

lemma stated_cons (i : Text × Text) (is : List (Text × Text)) :
    stated key (i :: is) = (stated key is).or (if i.1 = key then some i.2 else none) := by
  rw [← List.singleton_append, stated_append]
  by_cases h : i.1 = key <;> simp [stated, h]

lemma mem_of_stated {is : List (Text × Text)} {t : Text} (h : stated key is = some t) :
    (key, t) ∈ is :=
  List.mem_reverse.mp (mem_of_find?_key h)

end Stated

def tag? (i : Text × Text) : Option (Text × Text) :=
  ("t.".toList.isPrefixOf? i.1).map fun suffix => (TagSet.keyStart ++ suffix, decodeValue i.2)

lemma Own.value_read (o : Own) (i : Text × Text) :
    (o.read i.1 i.2).value =
      { priority := if i.1 = ['s'] then Text.int8? i.2 else o.priority
        origin := if i.1 = ['o'] then some (decodeValue i.2) else o.origin
        lastParent := if i.1 = ['p'] ∧ isParent i.2 then some i.2 else o.lastParent
        tags := o.tags.insertMany (tag? i).toList } := by
  obtain ⟨k, x⟩ := i
  unfold Own.read
  by_cases hs : k = ['s']
  · subst hs
    rfl
  by_cases ho : k = ['o']
  · subst ho
    rfl
  by_cases hp : k = ['p']
  · subst hp
    by_cases hx : isParent x
    · simp [hx]
      rfl
    · simp [hx]
      rfl
  · rw [if_neg hs, if_neg ho, if_neg hp, tag?]
    cases "t.".toList.isPrefixOf? k with
    | none =>
      simp [hs, ho, hp]
      rfl
    | some suffix =>
      simp [hs, ho, hp]
      rfl

lemma Own.value_readAll (o : Own) (is : List (Text × Text)) :
    (o.readAll is).value =
      { priority := ((stated ['s'] is).map Text.int8?).getD o.priority
        origin := ((stated ['o'] is).map decodeValue).or o.origin
        lastParent := (stated ['p'] (is.filter fun i => isParent i.2)).or o.lastParent
        tags := o.tags.insertMany (is.filterMap tag?) } := by
  induction is generalizing o with
  | nil => rfl
  | cons i r ih =>
    rw [Own.readAll, Logged.value_bind, ih, value_read, Own.mk.injEq]
    refine ⟨?_, ?_, ?_, ?_⟩
    · rw [stated_cons]
      cases stated ['s'] r <;> by_cases hk : i.1 = ['s'] <;> simp [hk]
    · rw [stated_cons]
      cases stated ['o'] r <;> by_cases hk : i.1 = ['o'] <;> simp [hk]
    · rw [List.filter_cons]
      by_cases hx : isParent i.2
      · rw [if_pos hx, stated_cons, Option.or_assoc]
        by_cases hk : i.1 = ['p'] <;> simp [hk, hx]
      · simp [hx]
    · rw [List.filterMap_cons]
      cases tag? i <;> simp [Dict.insertMany]

section Carried

lemma carried_of_tag? {i e : Text × Text} (h : tag? i = some e)
    (hk : ∀ c ∈ i.1, TagSet.isValueChar c) (hv : ∀ c ∈ i.2, TagSet.isValueChar c) :
    TagSet.Carried e := by
  obtain ⟨suffix, hs, rfl⟩ := Option.map_eq_some_iff.mp h
  refine ⟨List.prefix_append _ _, ?_, ?_⟩
  · intro c hc
    rw [List.mem_append] at hc
    obtain hc | hc := hc
    · revert c
      apply Text.forall_mem_of_all
      decide
    · apply hk c
      rw [← List.isPrefixOf?_eq_some_iff_append_eq.mp hs]
      exact List.mem_append_right _ hc
  · intro c hc
    obtain ⟨d, hd, rfl⟩ := List.mem_map.mp hc
    by_cases ht : d = '~'
    · rw [if_pos ht]
      decide
    · rw [if_neg ht]
      exact hv d hd

lemma of_mem_members {m : Text} {values : List Text} (h : m ∈ members values) :
    Text.trimmed? m = some m ∧ ',' ∉ m := by
  obtain ⟨t, -, hm⟩ := List.mem_flatMap.mp h
  exact ⟨(Text.mem_commaElements hm).1, (Text.mem_commaElements hm).2.1⟩

lemma of_mem_own? {ms : List Text} {t : Text} (h : own? ms = some t) :
    ∃ m ∈ ms, t ⊆ m := by
  obtain ⟨m, hm, hp⟩ := List.exists_of_findSome?_eq_some h
  refine ⟨m, hm, ?_⟩
  rw [← List.isPrefixOf?_eq_some_iff_append_eq.mp hp]
  exact List.subset_append_right _ _

lemma carried_ofList {t : Text} (h : ∀ c ∈ t, TagSet.isValueChar c) :
    ∀ e ∈ (Dict.ofList ((items t).filterMap tag?)).entries, TagSet.Carried e := by
  intro e he
  have hm := Dict.mem_of_mem_ofList he
  obtain ⟨i, hi, hs⟩ := List.mem_filterMap.mp hm
  obtain ⟨hk, hv⟩ := subset_of_mem_items hi
  exact carried_of_tag? hs (fun c hc => h c (hk hc)) fun c hc => h c (hv hc)

lemma exists_items_of_read {values : List Text} {text : Text} {own : Own}
    (h : (read values).value = some (text, own)) :
    text.all isPrintableAscii ∧
      ∃ t, (∀ c ∈ t, TagSet.isValueChar c) ∧ own = (Own.readAll {} (items t)).value := by
  simp only [read] at h
  by_cases hp : ([','].intercalate (members values)).all isPrintableAscii
  · rw [hp] at h
    cases ho : own? (members values) with
    | none =>
      rw [ho] at h
      obtain ⟨rfl, rfl⟩ : [','].intercalate (members values) = text ∧ {} = own := by simpa using h
      exact ⟨hp, [], List.forall_mem_nil _, rfl⟩
    | some t =>
      rw [ho] at h
      obtain ⟨rfl, rfl⟩ : [','].intercalate (members values) = text ∧
        (Own.readAll {} (items t)).value = own := by simpa using h
      refine ⟨hp, t, fun c hc => ?_, rfl⟩
      obtain ⟨m, hm, ht⟩ := of_mem_own? ho
      rw [tagSet_isValueChar_iff]
      constructor
      · exact List.all_eq_true.mp hp c (Text.subset_intercalate ',' hm (ht hc))
      · rintro rfl
        exact (of_mem_members hm).2 (ht hc)
  · rw [if_pos (by simpa using hp)] at h
    cases h

lemma carried_read {values : List Text} {text : Text} {own : Own}
    (h : (read values).value = some (text, own)) :
    ∀ e ∈ own.tags.entries, TagSet.Carried e := by
  obtain ⟨-, t, ht, rfl⟩ := exists_items_of_read h
  rw [Own.value_readAll]
  exact carried_ofList ht

end Carried

end TraceHeaders.TraceState
