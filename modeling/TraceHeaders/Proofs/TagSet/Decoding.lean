import TraceHeaders.Proofs.TagSet.Header

/-! What becomes of a header of tags, told without the reader. -/

namespace TraceHeaders.TagSet

def elements (header : Text) : List Text := (header.splitOn ',').filter (· ≠ [])

structure Valid (e : Text × Text) : Prop where
  key : ∃ suffix, e.1 = keyStart ++ suffix ∧ suffix ≠ [] ∧
    ∀ c ∈ suffix, '!' ≤ c ∧ c ≤ '~' ∧ c ≠ ','
  value : ∀ c ∈ e.2, ' ' ≤ c ∧ c ≤ '~' ∧ c ≠ ','

/-- An element is cut at its first equals sign, and concerns tags if its key begins as theirs do. -/
structure Tells (p : Text) (e : Text × Text) : Prop where
  eq : p = e.1 ++ '=' :: e.2
  cut : '=' ∉ e.1
  start : keyStart <+: e.1

def Malformed (p : Text) : Prop := '=' ∉ p ∨ ∃ e, Tells p e ∧ ¬ Valid e

def Stands (ps : List Text) (k x : Text) : Prop :=
  ∃ before p after, ps = before ++ p :: after ∧ Tells p (k, x) ∧ ∀ q ∈ after, ∀ y, ¬ Tells q (k, y)

def Decision (m : Text) : Prop := ∃ d, m = ['-', d] ∧ '0' ≤ d ∧ d ≤ '9'

structure Readable (limit : Nat) (header : Text) : Prop where
  enabled : 0 < limit
  length : Text.byteLength header ≤ limit
  formed : ∀ p ∈ elements header, ¬ Malformed p

inductive Outcome (limit : Nat) (header : Text) : TagSet → Prop
  | disabled : limit = 0 → Outcome limit header { error := some "disabled".toList }
  | tooLong : 0 < limit → limit < Text.byteLength header →
      Outcome limit header { error := some "extract_max_size".toList }
  | undecodable {p : Text} : 0 < limit → Text.byteLength header ≤ limit → p ∈ elements header →
      Malformed p → Outcome limit header { error := some "decoding_error".toList }
  | decoded {tags : Dict Text} : Readable limit header →
      (∀ k x, tags.get? k = some x ↔ Stands (elements header) k x) →
      (∀ m, Stands (elements header) decisionMakerKey m → Decision m) →
      Outcome limit header { tags }
  | undecided {tags : Dict Text} {m : Text} : Readable limit header →
      Stands (elements header) decisionMakerKey m → ¬ Decision m →
      (∀ k x, tags.get? k = some x ↔ k ≠ decisionMakerKey ∧ Stands (elements header) k x) →
      Outcome limit header { tags, error := some "decoding_error".toList }

section Element

variable {p k x m : Text} {e : Text × Text} {c : Char}

lemma isKeyChar_iff : isKeyChar c ↔ '!' ≤ c ∧ c ≤ '~' ∧ c ≠ ',' := by
  simp only [isKeyChar, Bool.and_eq_true, decide_eq_true_eq, and_assoc]
  rfl

lemma isValueChar_iff : isValueChar c ↔ ' ' ≤ c ∧ c ≤ '~' ∧ c ≠ ',' := by
  simp only [isValueChar, Bool.and_eq_true, decide_eq_true_eq, and_assoc]
  rfl

lemma isKey_iff :
    isKey k ↔ ∃ suffix, k = keyStart ++ suffix ∧ suffix ≠ [] ∧
      ∀ c ∈ suffix, '!' ≤ c ∧ c ≤ '~' ∧ c ≠ ',' := by
  rw [isKey]
  cases hs : keyStart.isPrefixOf? k with
  | none =>
    refine iff_of_false (fun h => nomatch h) ?_
    rintro ⟨suffix, rfl, -⟩
    rw [List.isPrefixOf?_eq_some_iff_append_eq.mpr rfl] at hs
    cases hs
  | some suffix =>
    have hk := List.isPrefixOf?_eq_some_iff_append_eq.mp hs
    simp only [Bool.and_eq_true, Bool.not_eq_true', List.isEmpty_eq_false_iff, List.all_eq_true,
      isKeyChar_iff, ← hk, List.append_cancel_left_eq, exists_eq_left']

lemma valid_iff : Valid e ↔ isKey e.1 ∧ isValue e.2 := by
  simp only [isKey_iff, isValue, List.all_eq_true, isValueChar_iff]
  exact ⟨fun h => ⟨h.key, h.value⟩, fun h => ⟨h.1, h.2⟩⟩

lemma tells_iff : Tells p e ↔ Text.cut? '=' p = some e ∧ keyStart <+: e.1 := by
  obtain ⟨k, x⟩ := e
  rw [Text.cut?_eq_some_iff]
  exact ⟨fun h => ⟨⟨h.eq, h.cut⟩, h.start⟩, fun h => ⟨h.1.1, h.1.2, h.2⟩⟩

lemma Tells.unique {d : Text × Text} (h : Tells p d) (h' : Tells p e) : d = e :=
  Option.some.inj ((tells_iff.mp h).1.symm.trans (tells_iff.mp h').1)

lemma Tells.malformed_iff (h : Tells p e) : Malformed p ↔ ¬ Valid e := by
  constructor
  · rintro (hn | ⟨d, hd, hv⟩)
    · exact absurd (h.eq ▸ List.mem_append_right _ List.mem_cons_self) hn
    · exact hd.unique h ▸ hv
  · exact fun hv => .inr ⟨e, h, hv⟩

lemma element_of_tells (h : Tells p e) :
    element p = if isKey e.1 && isValue e.2 then .tag e.1 e.2 else .malformed := by
  obtain ⟨hc, hs⟩ := tells_iff.mp h
  simp only [element, hc, List.isPrefixOf_iff_prefix.mpr hs, Bool.not_true, Bool.false_eq_true,
    if_false]

lemma element_of_not_mem (h : '=' ∉ p) : element p = .malformed := by
  rw [element, Text.cut?_eq_none_iff.mpr h]

lemma element_of_not_tells (h : '=' ∈ p) (hn : ∀ e, ¬ Tells p e) : element p = .foreign := by
  rw [element]
  cases hc : Text.cut? '=' p with
  | none => exact absurd h (Text.cut?_eq_none_iff.mp hc)
  | some e =>
    have hs : keyStart.isPrefixOf e.1 = false := by
      rw [Bool.eq_false_iff, Ne, List.isPrefixOf_iff_prefix]
      exact fun hs => hn e (tells_iff.mpr ⟨hc, hs⟩)
    simp only [hs, Bool.not_false, if_true]

def Element.pair? : Element → Option (Text × Text)
  | tag k x => some (k, x)
  | _ => none

lemma element_eq_malformed_iff : element p = .malformed ↔ Malformed p := by
  by_cases hm : '=' ∈ p
  · by_cases hs : ∃ e, Tells p e
    · obtain ⟨e, hs⟩ := hs
      rw [element_of_tells hs, hs.malformed_iff, valid_iff, ← Bool.and_eq_true]
      split <;> simp [*]
    · rw [element_of_not_tells hm (not_exists.mp hs)]
      refine iff_of_false (fun h => nomatch h) ?_
      rintro (hn | ⟨e, he, -⟩)
      · exact hn hm
      · exact hs ⟨e, he⟩
  · rw [element_of_not_mem hm]
    exact iff_of_true rfl (.inl hm)

lemma pair?_element_eq_some_iff (h : ¬ Malformed p) :
    (element p).pair? = some e ↔ Tells p e := by
  have hm : '=' ∈ p := not_not.mp fun hn => h (.inl hn)
  by_cases hs : ∃ d, Tells p d
  · obtain ⟨d, hs⟩ := hs
    have hv := valid_iff.mp (not_not.mp (hs.malformed_iff.not.mp h))
    rw [element_of_tells hs, if_pos (Bool.and_eq_true_iff.mpr hv)]
    exact ⟨fun he => Option.some.inj he ▸ hs, fun he => congrArg some (hs.unique he)⟩
  · rw [element_of_not_tells hm (not_exists.mp hs)]
    exact iff_of_false (fun he => nomatch he) (not_exists.mp hs e)

end Element

section Elements

variable {ps : List Text} {es : List (Text × Text)} {k x : Text}

def said (ps : List Text) : List (Text × Text) := ps.filterMap fun p => (element p).pair?

lemma readElements_eq_ok_iff :
    readElements ps = .ok es ↔ (∀ p ∈ ps, ¬ Malformed p) ∧ es = said ps := by
  induction ps generalizing es with
  | nil => simp [readElements, said, eq_comm]
  | cons p ps ih =>
    rw [readElements, List.forall_mem_cons, ← element_eq_malformed_iff]
    cases he : element p with
    | malformed => simp
    | foreign => simp [ih, said, he, Element.pair?]
    | tag k x =>
      have hs : said (p :: ps) = (k, x) :: said ps := by
        rw [said, List.filterMap_cons, he]
        rfl
      cases hr : readElements ps with
      | error q =>
        have hn : ¬ ∀ p ∈ ps, ¬ Malformed p := by
          intro h
          cases hr.symm.trans (ih.mpr ⟨h, rfl⟩)
        simp [Except.map, hn]
      | ok ds =>
        obtain ⟨h, rfl⟩ := ih.mp hr
        simpa [Except.map, hs, eq_comm] using fun _ => h

lemma get?_said (h : ∀ p ∈ ps, ¬ Malformed p) :
    (Dict.ofList (said ps)).get? k = some x ↔ Stands ps k x := by
  have he : ∀ p ∈ ps, ∀ e, (element p).pair? = some e ↔ Tells p e :=
    fun p hp e => pair?_element_eq_some_iff (h p hp)
  rw [said, Dict.get?_ofList_filterMap]
  refine exists_congr fun before => exists_congr fun p => exists_congr fun after =>
    and_congr_right fun hs => ?_
  have ha : ∀ q ∈ p :: after, q ∈ ps := fun q hq => hs ▸ List.mem_append_right before hq
  refine and_congr (he p (ha p List.mem_cons_self) _) ?_
  exact forall₂_congr fun q hq => forall_congr' fun y =>
    not_congr (he q (ha q (List.mem_cons_of_mem p hq)) _)

end Elements

section Header

variable {limit : Nat} {header : Text} {s : TagSet}

lemma isDecisionMaker_iff {m : Text} : isDecisionMaker m ↔ Decision m := by
  rw [Decision]
  unfold isDecisionMaker
  split
  · simp
  · next h =>
    refine iff_of_false (fun hf => nomatch hf) ?_
    rintro ⟨d, rfl, -⟩
    exact h d rfl

lemma value_checkDecisionMaker_of_decided
    (h : ∀ m, s.tags.get? decisionMakerKey = some m → Decision m) :
    s.checkDecisionMaker.value = s := by
  rw [checkDecisionMaker]
  cases hm : s.tags.get? decisionMakerKey with
  | none => rfl
  | some m => simp only [isDecisionMaker_iff.mpr (h m hm), if_true, Logged.value_pure]

lemma value_checkDecisionMaker_of_undecided {m : Text}
    (hm : s.tags.get? decisionMakerKey = some m) (h : ¬ Decision m) :
    s.checkDecisionMaker.value =
      { s with tags := s.tags.erase decisionMakerKey, error := some "decoding_error".toList } := by
  rw [checkDecisionMaker, hm]
  simp only [isDecisionMaker_iff, h, if_false]
  rfl

lemma value_ofHeader_of_lt (h0 : 0 < limit) (hl : limit < Text.byteLength header) :
    (ofHeader limit header).value = failed .tooLong := by
  rw [ofHeader, if_neg (Nat.ne_of_gt h0), if_pos hl]
  rfl

lemma value_ofHeader_of_le (h0 : 0 < limit) (hl : Text.byteLength header ≤ limit) :
    (ofHeader limit header).value =
      match readElements (elements header) with
      | .error _ => failed .undecodable
      | .ok es => (checkDecisionMaker { tags := .ofList es }).value := by
  rw [ofHeader, if_neg (Nat.ne_of_gt h0), if_neg (Nat.not_lt.mpr hl), ← elements]
  cases readElements (elements header) <;> rfl

lemma value_ofHeader_of_malformed {p : Text} (h0 : 0 < limit)
    (hl : Text.byteLength header ≤ limit) (hp : p ∈ elements header) (hm : Malformed p) :
    (ofHeader limit header).value = failed .undecodable := by
  rw [value_ofHeader_of_le h0 hl]
  cases hr : readElements (elements header) with
  | error q => rfl
  | ok es => exact absurd hm ((readElements_eq_ok_iff.mp hr).1 p hp)

lemma Readable.value_ofHeader (h : Readable limit header) :
    (ofHeader limit header).value =
      (checkDecisionMaker { tags := .ofList (said (elements header)) }).value := by
  rw [value_ofHeader_of_le h.enabled h.length, readElements_eq_ok_iff.mpr ⟨h.formed, rfl⟩]

lemma Readable.get?_said (h : Readable limit header) (k x : Text) :
    (Dict.ofList (said (elements header))).get? k = some x ↔ Stands (elements header) k x :=
  TagSet.get?_said h.formed

lemma Readable.get?_erase (h : Readable limit header) (k x : Text) :
    ((Dict.ofList (said (elements header))).erase decisionMakerKey).get? k = some x ↔
      k ≠ decisionMakerKey ∧ Stands (elements header) k x := by
  rw [Dict.get?_erase, ← h.get?_said]
  by_cases hk : decisionMakerKey = k
  · simp [hk]
  · simp [hk, Ne.symm hk]

lemma outcome_ofHeader (limit : Nat) (header : Text) :
    Outcome limit header (ofHeader limit header).value := by
  rcases Nat.eq_zero_or_pos limit with rfl | h0
  · exact .disabled rfl
  rcases Nat.lt_or_ge limit (Text.byteLength header) with hl | hl
  · rw [value_ofHeader_of_lt h0 hl]
    exact .tooLong h0 hl
  by_cases hm : ∃ p ∈ elements header, Malformed p
  · obtain ⟨p, hp, hm⟩ := hm
    rw [value_ofHeader_of_malformed h0 hl hp hm]
    exact .undecodable h0 hl hp hm
  have h : Readable limit header := ⟨h0, hl, fun p hp hp' => hm ⟨p, hp, hp'⟩⟩
  rw [h.value_ofHeader]
  by_cases hd : ∀ m, Stands (elements header) decisionMakerKey m → Decision m
  · rw [value_checkDecisionMaker_of_decided fun m hm => hd m ((h.get?_said _ _).mp hm)]
    exact .decoded h h.get?_said hd
  · push Not at hd
    obtain ⟨m, hs, hd⟩ := hd
    rw [value_checkDecisionMaker_of_undecided ((h.get?_said _ _).mpr hs) hd]
    exact .undecided h hs hd h.get?_erase

lemma Outcome.value_ofHeader (h : Outcome limit header s) : (ofHeader limit header).value = s := by
  have hx : ∀ {d e : Dict Text} {holds : Text → Text → Prop},
      (∀ k x, d.get? k = some x ↔ holds k x) → (∀ k x, e.get? k = some x ↔ holds k x) → d = e :=
    fun hd he => Dict.ext_get? fun k => Option.ext fun x => (hd k x).trans (he k x).symm
  cases h with
  | disabled h0 =>
    rw [h0]
    rfl
  | tooLong h0 hl => exact value_ofHeader_of_lt h0 hl
  | undecodable h0 hl hp hm => exact value_ofHeader_of_malformed h0 hl hp hm
  | decoded h hg hd =>
    obtain rfl := hx hg h.get?_said
    rw [h.value_ofHeader]
    exact value_checkDecisionMaker_of_decided fun m hm => hd m ((hg _ _).mp hm)
  | undecided h hs hd hg =>
    obtain rfl := hx hg h.get?_erase
    rw [h.value_ofHeader]
    exact value_checkDecisionMaker_of_undecided ((h.get?_said _ _).mpr hs) hd

lemma Stands.tells {ps : List Text} {k x : Text} (h : Stands ps k x) : ∃ p ∈ ps, Tells p (k, x) := by
  obtain ⟨before, p, after, rfl, hs, -⟩ := h
  exact ⟨p, List.mem_append_right _ List.mem_cons_self, hs⟩

lemma Outcome.of_get? (h : Outcome limit header s) {k x : Text} (hx : s.tags.get? k = some x) :
    Readable limit header ∧ Stands (elements header) k x ∧
      (k = decisionMakerKey → Decision x) := by
  cases h with
  | disabled | tooLong | undecodable => cases hx
  | decoded h hg hd =>
    have hs := (hg k x).mp hx
    exact ⟨h, hs, fun hk => hd x (hk ▸ hs)⟩
  | undecided h _ _ hg =>
    obtain ⟨hk, hs⟩ := (hg k x).mp hx
    exact ⟨h, hs, fun he => absurd he hk⟩

lemma Outcome.exists_tells (h : Outcome limit header s) {e : Text × Text} (he : e ∈ s.tags.entries) :
    ∃ p ∈ elements header, Tells p e ∧ Valid e := by
  obtain ⟨hr, hs, -⟩ := h.of_get? (Dict.mem_entries_iff.mp he)
  obtain ⟨p, hp, hs⟩ := hs.tells
  exact ⟨p, hp, hs, not_not.mp (hs.malformed_iff.not.mp (hr.formed p hp))⟩

theorem value_ofHeader_iff_outcome (limit : Nat) (header : Text) :
    (∀ s, (ofHeader limit header).value = s ↔ Outcome limit header s) ∧
      ∀ e ∈ (ofHeader limit header).value.tags.entries, Valid e := by
  have ho := outcome_ofHeader limit header
  refine ⟨fun s => ⟨?_, Outcome.value_ofHeader⟩, fun e he => ?_⟩
  · rintro rfl
    exact ho
  · obtain ⟨-, -, -, hv⟩ := ho.exists_tells he
    exact hv

def repeatedHeader : Text := "_dd.p.dm=-4,x=é,,_dd.p.a=1,_dd.p.dm=-4=,_dd.p.a=b=c".toList

set_option maxRecDepth 10000 in
theorem value_ofHeader_iff_outcome_repeatedHeader :
    let s : TagSet :=
      { tags := .ofList [("_dd.p.a".toList, "b=c".toList)]
        error := some "decoding_error".toList }
    (ofHeader 52 repeatedHeader).value = s ∧ Outcome 52 repeatedHeader s ∧
      ("_dd.p.a".toList, "b=c".toList) ∈ (ofHeader 52 repeatedHeader).value.tags.entries ∧
      Valid ("_dd.p.a".toList, "b=c".toList) := by
  intro s
  have hs : (ofHeader 52 repeatedHeader).value = s := by decide
  have hm : ("_dd.p.a".toList, "b=c".toList) ∈
      (ofHeader 52 repeatedHeader).value.tags.entries := by
    rw [hs]
    decide
  exact ⟨hs, ((value_ofHeader_iff_outcome 52 repeatedHeader).1 s).mp hs, hm,
    (value_ofHeader_iff_outcome 52 repeatedHeader).2 _ hm⟩

end Header

end TraceHeaders.TagSet
