import TraceHeaders.Proofs.Carriers

/-! What a map shows after headers were set in it, also where it held names in mixed case before. -/

namespace TraceHeaders

lemma isAscii_of_sameName {s t : Text} (h : Text.sameName s t) (hs : s.isAscii) : t.isAscii := by
  rw [Text.sameName, beq_iff_eq] at h
  rwa [← isAscii_asciiLower, ← h, isAscii_asciiLower]

lemma lower_eq_of_sameName {s t : Text} (h : Text.sameName s t) (hs : s.isAscii) :
    Text.lower s = Text.lower t := by
  rw [lower_of_isAscii hs, lower_of_isAscii (isAscii_of_sameName h hs)]
  exact beq_iff_eq.mp h

lemma lower_eq_iff_sameName {s t : Text} (hs : s.isAscii) (ht : t.isAscii) :
    Text.lower s = Text.lower t ↔ Text.sameName s t := by
  rw [lower_of_isAscii hs, lower_of_isAscii ht, Text.sameName, beq_iff_eq]

namespace HeaderMap

variable {m : HeaderMap} {h : Header} {hs es : List Header} {name : Text}

def found (m : HeaderMap) (es : List Header) (name : Text) : Option Text :=
  (Dict.get? m (Text.lower name)).or ((es.find? fun e => Text.sameName e.1 name).map (·.2))

lemma found_entries (m : HeaderMap) (name : Text) : found m m.entries name = get? m name := rfl

/-- Names are in ASCII, and where the lower-case form of a name is no key, one entry at most has the
name. -/
structure Clear (m : HeaderMap) : Prop where
  ascii : AsciiNames m.entries
  unique : ∀ a ∈ m.entries, ∀ b ∈ m.entries, Text.sameName a.1 b.1 →
    Dict.get? m (Text.lower a.1) = none → a = b

lemma Distinct.clear (hm : m.Distinct) : m.Clear where
  ascii := hm.ascii
  unique _ ha _ hb hs _ := hm.eq_of_sameName ha hb hs

namespace Clear

lemma found_eq (hm : m.Clear) (hp : es.Perm m.entries) (name : Text) :
    found m es name = get? m name := by
  rw [← found_entries, found, found]
  cases hd : Dict.get? m (Text.lower name) with
  | some x => rfl
  | none =>
    have hu : ∀ a ∈ m.entries, ∀ b ∈ m.entries, Text.sameName a.1 name → Text.sameName b.1 name →
        a = b := by
      intro a ha b hb hn hk
      apply hm.unique a ha b hb (Text.sameName_trans hn (Text.sameName_comm name b.1 ▸ hk))
      rwa [lower_eq_of_sameName hn (hm.ascii a ha)]
    rw [find?_eq_of_perm hp hu]

lemma set (hm : m.Clear) (ha : h.1.isAscii) : (set m h).Clear := by
  have hl : (Text.lower h.1).isAscii := by rwa [lower_of_isAscii ha, isAscii_asciiLower]
  have hi : Text.lower (Text.lower h.1) = Text.lower h.1 := by
    rw [lower_of_isAscii hl, lower_of_isAscii ha, asciiLower_asciiLower ha]
  -- An entry whose lower-case name is no key is an old one.
  have ho : ∀ e ∈ (HeaderMap.set m h).entries,
      Dict.get? (HeaderMap.set m h) (Text.lower e.1) = none →
        e ∈ m.entries ∧ Dict.get? m (Text.lower e.1) = none := by
    intro e he hn
    rw [HeaderMap.set, Dict.get?_insert] at hn
    split at hn
    · cases hn
    · next hne =>
      obtain rfl | he := mem_insertEntry he
      · exact absurd hi.symm hne
      · exact ⟨he, hn⟩
  constructor
  · intro e he
    obtain rfl | he := mem_insertEntry he
    · exact hl
    · exact hm.ascii e he
  · intro a ha' b hb hs hn
    obtain ⟨hma, hna⟩ := ho a ha' hn
    have hab : Text.lower a.1 = Text.lower b.1 := lower_eq_of_sameName hs (hm.ascii a hma)
    exact hm.unique a hma b (ho b hb (hab ▸ hn)).1 hs hna

lemma setAll (hm : m.Clear) (ha : AsciiNames hs) : (setAll m hs).Clear := by
  induction hs generalizing m with
  | nil => exact hm
  | cons h hs ih =>
    obtain ⟨hh, ha⟩ := List.forall_mem_cons.mp ha
    exact ih (hm.set hh) ha

end Clear

lemma get?_set (ha : h.1.isAscii) (m : HeaderMap) (name : Text) :
    get? (set m h) name = if Text.lower h.1 = Text.lower name then some h.2 else get? m name := by
  rw [get?, set, Dict.get?_insert]
  split
  · rfl
  · next hne =>
    -- The new key does not count for the name, so the search does not see it.
    have hn : Text.sameName (Text.lower h.1) name = false := by
      rw [Bool.eq_false_iff]
      intro hs
      rw [lower_of_isAscii ha] at hs
      have hk : Text.sameName h.1 name := by
        rwa [Text.sameName, asciiLower_asciiLower ha] at hs
      exact hne (lower_eq_of_sameName hk ha)
    have hf : (insertEntry (Text.lower h.1) h.2 m.entries).find?
        (fun e => Text.sameName e.1 name) = m.entries.find? fun e => Text.sameName e.1 name :=
      find?_insertEntry_of_key (p := fun k => Text.sameName k name) hn _ _
    change Option.or _ (Option.map _ ((insertEntry _ _ _).find? _)) = _
    rw [hf]
    rfl

def lastSet (hs : List Header) (name : Text) : Option Text :=
  (hs.reverse.find? fun h => Text.lower h.1 = Text.lower name).map (·.2)

lemma lastSet_cons (h : Header) (hs : List Header) (name : Text) :
    lastSet (h :: hs) name =
      (lastSet hs name).or (if Text.lower h.1 = Text.lower name then some h.2 else none) := by
  rw [lastSet, lastSet, List.reverse_cons, List.find?_append, Option.map_or, List.find?_singleton]
  simp only [decide_eq_true_eq]
  split <;> rfl

lemma get?_setAll (ha : AsciiNames hs) (m : HeaderMap) (name : Text) :
    get? (setAll m hs) name = (lastSet hs name).or (get? m name) := by
  induction hs generalizing m with
  | nil => rfl
  | cons h hs ih =>
    obtain ⟨hh, ha⟩ := List.forall_mem_cons.mp ha
    rw [setAll, List.foldl_cons, ← setAll, ih ha, get?_set hh, lastSet_cons, Option.or_assoc]
    congr 1
    split <;> rfl

lemma lastSet_of_isAscii (ha : AsciiNames hs) (hn : name.isAscii) :
    lastSet hs name = (hs.reverse.find? fun h => Text.sameName h.1 name).map (·.2) := by
  rw [lastSet]
  congr 1
  refine List.find?_congr fun h hh => ?_
  rw [Bool.eq_iff_iff, decide_eq_true_eq]
  exact lower_eq_iff_sameName (ha h (List.mem_reverse.mp hh)) hn

lemma clear_empty : Clear ∅ where
  ascii _ he := nomatch he
  unique _ ha := nomatch ha

lemma mem_keys_setAll_iff {k : Text} :
    k ∈ (setAll ∅ hs).keys ↔ ∃ h ∈ hs, Text.lower h.1 = k := by
  rw [setAll_eq_ofList, Dict.keys, List.mem_map]
  constructor
  · rintro ⟨e, he, rfl⟩
    obtain ⟨h, hh, rfl⟩ := List.mem_map.mp (Dict.mem_of_mem_ofList he)
    exact ⟨h, hh, rfl⟩
  · rintro ⟨h, hh, rfl⟩
    obtain ⟨x, hx⟩ := Dict.exists_mem_ofList (List.mem_map_of_mem hh)
    exact ⟨_, hx, rfl⟩

lemma keys_setAll_perm (ha : AsciiNames hs) :
    (setAll ∅ hs).keys.Perm (hs.map fun h => Text.asciiLower h.1).eraseDups := by
  have hn : (setAll ∅ hs).keys.Nodup := Dict.nodup_keys _
  rw [List.perm_ext_iff_of_nodup hn (nodup_eraseDups _)]
  intro k
  rw [mem_keys_setAll_iff, List.mem_eraseDups, List.mem_map]
  refine exists_congr fun h => and_congr_right fun hh => ?_
  rw [lower_of_isAscii (ha h hh)]

/-- A look-up finds what was set last under a name whose lower case is the same, and else what it
found before, in whatever order it goes through the map. -/
theorem found_setAll (hm : m.Distinct) (ha : AsciiNames hs) :
    (∀ (es : List Header) (name : Text), es.Perm (setAll m hs).entries →
      found (setAll m hs) es name = (lastSet hs name).or (get? m name)) ∧
      (∀ es : List Header, es.Perm m.entries → ∀ name, found m es name = get? m name) ∧
      (∀ name : Text, name.isAscii →
        lastSet hs name = (hs.reverse.find? fun h => Text.sameName h.1 name).map (·.2)) ∧
      (setAll ∅ hs).keys.Perm (hs.map fun h => Text.asciiLower h.1).eraseDups ∧
      ∀ k ∈ (setAll ∅ hs).keys, Text.lower k = k := by
  refine ⟨fun es name hp => ?_, fun es hp name => hm.clear.found_eq hp name,
    fun name => lastSet_of_isAscii ha, keys_setAll_perm ha, fun k hk => ?_⟩
  · rw [(hm.clear.setAll ha).found_eq hp, get?_setAll ha]
  · obtain ⟨h, hh, rfl⟩ := mem_keys_setAll_iff.mp hk
    have hl : (Text.asciiLower h.1).isAscii := by
      rw [isAscii_asciiLower]
      exact ha h hh
    rw [lower_of_isAscii (ha h hh), lower_of_isAscii hl, asciiLower_asciiLower (ha h hh)]

def staleMap : HeaderMap := .ofList [("X-User".toList, "a".toList), ("x-TEAM".toList, "b".toList)]

def freshHeaders : List Header :=
  [("X-USER".toList, "c".toList), ("Via".toList, "d".toList), ("x-User".toList, "e".toList)]

theorem found_setAll_staleMap :
    staleMap.Distinct ∧ AsciiNames freshHeaders ∧
      (setAll staleMap freshHeaders).entries.length = 4 ∧
      found (setAll staleMap freshHeaders) (setAll staleMap freshHeaders).entries.reverse
        "x-user".toList = some "e".toList ∧
      found (setAll staleMap freshHeaders) (setAll staleMap freshHeaders).entries.reverse
        "X-Team".toList = some "b".toList := by
  have hm : staleMap.Distinct := ⟨by unfold AsciiNames; decide, by decide⟩
  have ha : AsciiNames freshHeaders := by unfold AsciiNames; decide
  obtain ⟨hs, -⟩ := found_setAll hm ha
  refine ⟨hm, ha, by decide, ?_, ?_⟩
  · rw [hs _ _ (List.reverse_perm _)]
    decide
  · rw [hs _ _ (List.reverse_perm _)]
    decide

theorem not_forall_get?_setAll_sameName :
    ¬ ∀ (m : HeaderMap) (hs : List Header) (name : Text), m.Distinct → AsciiNames hs →
      get? (setAll m hs) name =
        ((hs.reverse.find? fun h => Text.sameName h.1 name).map (·.2)).or (get? m name) := by
  intro h
  have ha : AsciiNames [("k".toList, "v".toList)] := by unfold AsciiNames; decide
  have hk := h ∅ [("k".toList, "v".toList)] ['K'] ⟨clear_empty.ascii, .nil⟩ ha
  exact absurd hk (by decide)

end HeaderMap

end TraceHeaders
