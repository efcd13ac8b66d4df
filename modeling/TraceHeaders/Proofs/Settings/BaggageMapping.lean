import TraceHeaders.Proofs.Dict
import TraceHeaders.Proofs.Text.Trim
import TraceHeaders.Settings.Decode
import Mathlib.Tactic.MkIffOfInductiveProp

namespace TraceHeaders.BaggageMapping

section Element

variable {e name header key : Text}

/-- An element is cut at its first colon. It says a header and a key, the two sides without the
blanks around them, if something is left of both. -/
structure Says (e header key : Text) : Prop where
  cut : ∃ a b, e = a ++ ':' :: b ∧ ':' ∉ a ∧ Text.trim a = header ∧ Text.trim b = key
  header_ne : header ≠ []
  key_ne : key ≠ []

def WellFormed (e : Text) : Prop := ∃ header key, Says e header key

lemma says_iff :
    Says e header key ↔
      (Text.cut? ':' e).map (fun p => (Text.trim p.1, Text.trim p.2)) = some (header, key) ∧
        header ≠ [] ∧ key ≠ [] := by
  rw [Option.map_eq_some_iff]
  constructor
  · rintro ⟨⟨a, b, he, hn, rfl, rfl⟩, hh, hk⟩
    exact ⟨⟨(a, b), Text.cut?_eq_some_iff.mpr ⟨he, hn⟩, rfl⟩, hh, hk⟩
  · rintro ⟨⟨⟨a, b⟩, hc, hp⟩, hh, hk⟩
    obtain ⟨he, hn⟩ := Text.cut?_eq_some_iff.mp hc
    obtain ⟨ha, hb⟩ := Prod.mk.inj hp
    exact ⟨⟨a, b, he, hn, ha, hb⟩, hh, hk⟩

lemma says_trim_iff : Says (Text.trim e) header key ↔ Says e header key := by
  rw [says_iff, says_iff, Text.map_trim_cut?_trim rfl]

lemma pair?_eq_some_iff :
    pair? e = some (name, key) ↔ ∃ header, Says e header key ∧ Text.lower header = name := by
  constructor
  · intro h
    obtain ⟨⟨a, b⟩, hc, hp⟩ := Option.bind_eq_some_iff.mp h
    obtain ⟨he, hn⟩ := Text.cut?_eq_some_iff.mp hc
    split at hp
    · next header _ ha hb =>
      obtain ⟨rfl, rfl⟩ := Prod.mk.inj (Option.some.inj hp)
      obtain ⟨ha, hh⟩ := Text.trimmed?_eq_some_iff.mp ha
      obtain ⟨hb, hk⟩ := Text.trimmed?_eq_some_iff.mp hb
      exact ⟨header, ⟨⟨a, b, he, hn, ha, hb⟩, hh, hk⟩, rfl⟩
    · cases hp
  · rintro ⟨header, ⟨⟨a, b, he, hn, ha, hb⟩, hh, hk⟩, rfl⟩
    rw [pair?, Text.cut?_eq_some_iff.mpr ⟨he, hn⟩]
    simp only [Option.bind_some, Text.trimmed?_eq_some_iff.mpr ⟨ha, hh⟩,
      Text.trimmed?_eq_some_iff.mpr ⟨hb, hk⟩]

-- The reader trims an element before it is cut, and the sides again.
lemma pair?_trim (e : Text) : pair? (Text.trim e) = pair? e := by
  apply Option.ext
  rintro ⟨name, key⟩
  simp only [pair?_eq_some_iff, says_trim_iff]

lemma bind_pair?_trimmed? (e : Text) : (Text.trimmed? e).bind pair? = pair? e := by
  rw [← pair?_trim e, Text.trimmed?]
  split
  · next h =>
    rw [h]
    rfl
  · rfl

lemma wellFormed_iff : WellFormed e ↔ (pair? e).isSome := by
  simp only [Option.isSome_iff_exists, Prod.exists, pair?_eq_some_iff, WellFormed]
  constructor
  · rintro ⟨header, key, h⟩
    exact ⟨_, key, header, h, rfl⟩
  · rintro ⟨_, key, header, h, -⟩
    exact ⟨header, key, h⟩

instance : DecidablePred WellFormed := fun _ => decidable_of_iff _ wellFormed_iff.symm

lemma not_wellFormed_of_blank (h : ∀ c ∈ e, Text.isBlank c) : ¬ WellFormed e := by
  rintro ⟨_, _, ⟨_, _, rfl, -⟩, -⟩
  exact absurd (h ':' (List.mem_append_right _ List.mem_cons_self)) (by decide)

end Element

section Elements

variable {es fs : List Text}

def Gives (es : List Text) (name key : Text) : Prop :=
  ∃ before e after header, es = before ++ e :: after ∧ Says e header key ∧
    Text.lower header = name ∧ ∀ d ∈ after, ∀ h k, Says d h k → Text.lower h ≠ name

lemma get?_ofList_pairs {name key : Text} :
    (Dict.ofList (es.filterMap pair?)).get? name = some key ↔ Gives es name key := by
  rw [Dict.get?_ofList_filterMap]
  simp only [pair?_eq_some_iff, Ne, not_exists, not_and]
  constructor
  · rintro ⟨before, e, after, rfl, ⟨header, hs, hl⟩, hn⟩
    exact ⟨before, e, after, header, rfl, hs, hl, fun d hd h k hk => hn d hd k h hk⟩
  · rintro ⟨before, e, after, header, rfl, hs, hl, hn⟩
    exact ⟨before, e, after, rfl, ⟨header, hs, hl⟩, fun d hd k h hk => hn d hd h k hk⟩

instance (name key : Text) : Decidable (Gives es name key) :=
  decidable_of_iff _ get?_ofList_pairs

lemma contains_ofList_pairs {name : Text} :
    (Dict.ofList (es.filterMap pair?)).contains name ↔
      ∃ e ∈ es, ∃ header key, Says e header key ∧ Text.lower header = name := by
  rw [Dict.contains_ofList_iff]
  simp only [List.mem_filterMap, pair?_eq_some_iff]
  constructor
  · rintro ⟨key, e, he, header, h⟩
    exact ⟨e, he, header, key, h⟩
  · rintro ⟨e, he, header, key, h⟩
    exact ⟨key, e, he, header, h⟩

lemma value_ofText_intercalate (h : ∀ e ∈ es, ',' ∉ e) :
    (ofText ([','].intercalate es)).value = .ofList (es.filterMap pair?) := by
  rw [value_ofText, Text.commaElements_intercalate h, List.filterMap_filterMap]
  simp only [bind_pair?_trimmed?]

lemma value_ofText_splitOn (t : Text) :
    (ofText t).value = .ofList ((t.splitOn ',').filterMap pair?) := by
  have hc : ∀ e ∈ t.splitOn ',', ',' ∉ e := fun _ => Text.sep_not_mem_of_mem_splitOn
  have h := value_ofText_intercalate hc
  rwa [List.intercalate_splitOn] at h

lemma filterMap_filter_wellFormed (es : List Text) :
    (es.filter WellFormed).filterMap pair? = es.filterMap pair? := by
  rw [List.filterMap_filter]
  refine List.filterMap_congr fun e _ => ?_
  by_cases h : WellFormed e
  · rw [if_pos (decide_eq_true h)]
  · rw [if_neg (by simpa using h)]
    rw [wellFormed_iff, Option.not_isSome_iff_eq_none] at h
    exact h.symm

end Elements

section Written

variable {p : Text × Text} {ps : List (Text × Text)}

def element (p : Text × Text) : Text := p.1 ++ ':' :: p.2

def written (ps : List (Text × Text)) : Text := [','].intercalate (ps.map element)

@[mk_iff]
structure Writable (p : Text × Text) : Prop where
  header_ne : p.1 ≠ []
  header_trim : Text.trim p.1 = p.1
  header_lower : Text.lower p.1 = p.1
  header_chars : ',' ∉ p.1 ∧ ':' ∉ p.1
  key_ne : p.2 ≠ []
  key_trim : Text.trim p.2 = p.2
  key_chars : ',' ∉ p.2

instance : DecidablePred Writable := fun p => decidable_of_iff' _ (writable_iff p)

lemma pair?_element (h : Writable p) : pair? (element p) = some p :=
  pair?_eq_some_iff.mpr ⟨p.1, ⟨⟨p.1, p.2, rfl, h.header_chars.2, h.header_trim, h.key_trim⟩,
    h.header_ne, h.key_ne⟩, h.header_lower⟩

lemma comma_notMem_element (h : Writable p) : ',' ∉ element p := by
  rw [element, List.mem_append, List.mem_cons, not_or, not_or]
  exact ⟨h.header_chars.1, by decide, h.key_chars⟩

lemma value_ofText_written (h : ∀ p ∈ ps, Writable p) :
    (ofText (written ps)).value = .ofList ps := by
  have hc : ∀ e ∈ ps.map element, ',' ∉ e := by
    intro e he
    obtain ⟨p, hp, rfl⟩ := List.mem_map.mp he
    exact comma_notMem_element (h p hp)
  have hp : (ps.map element).filterMap pair? = ps := by
    rw [List.filterMap_map]
    exact (List.filterMap_congr fun p hp => pair?_element (h p hp)).trans List.filterMap_some
  rw [written, value_ofText_intercalate hc, hp]

end Written

/-- Every text is read as a mapping: each header of a well-formed element has the key that it is
given last. Pairs that are written in any order are read back. -/
theorem mappingOf_elements :
    (∀ t : Text, ∃ d, (Settings.mappingOf (.text t)).value = .ok d ∧
      (∀ name, d.contains name ↔
        ∃ e ∈ t.splitOn ',', ∃ header key, Says e header key ∧ Text.lower header = name) ∧
      ∀ name key, d.get? name = some key ↔ Gives (t.splitOn ',') name key) ∧
    (∀ e : Text, (∀ c ∈ e, Text.isBlank c) → ¬ WellFormed e) ∧
    (∀ es fs : List Text, (∀ e ∈ es ++ fs, ',' ∉ e) →
      es.filter WellFormed = fs.filter WellFormed →
      (Settings.mappingOf (.text ([','].intercalate es))).value =
        (Settings.mappingOf (.text ([','].intercalate fs))).value) ∧
    ∀ (d : Dict Text) (ps : List (Text × Text)), (∀ p ∈ d.entries, Writable p) →
      ps.Perm d.entries → (Settings.mappingOf (.text (written ps))).value = .ok d := by
  have hv : ∀ t, (Settings.mappingOf (.text t)).value = .ok (ofText t).value := fun _ => rfl
  refine ⟨fun t => ⟨_, hv t, ?_, ?_⟩, fun _ => not_wellFormed_of_blank, ?_, ?_⟩
  · intro name
    rw [value_ofText_splitOn]
    exact contains_ofList_pairs
  · intro name key
    rw [value_ofText_splitOn]
    exact get?_ofList_pairs
  · intro es fs hc hf
    obtain ⟨he, hs⟩ := List.forall_mem_append.mp hc
    rw [hv, hv, value_ofText_intercalate he, value_ofText_intercalate hs,
      ← filterMap_filter_wellFormed es, hf, filterMap_filter_wellFormed]
  · intro d ps hw hp
    rw [hv, value_ofText_written fun p hm => hw p (hp.mem_iff.mp hm), Dict.ofList_of_perm hp]

def crowdedText : Text :=
  "X-Tenant:a, broken ,x-tenant : b:c,:nokey, ,x-account:account".toList

def tenantMapping : Dict Text :=
  .ofList [("x-account".toList, "account".toList), ("x-tenant".toList, "b:c".toList)]

theorem mappingOf_elements_crowdedText :
    let es := crowdedText.splitOn ','
    let fs := ["X-Tenant:a".toList, "x-tenant : b:c".toList, "x-account:account".toList]
    let ps := tenantMapping.entries.reverse
    (∃ d, (Settings.mappingOf (.text crowdedText)).value = .ok d ∧
      d.get? "x-tenant".toList = some "b:c".toList) ∧
      (∀ c ∈ " ".toList, Text.isBlank c) ∧ ¬ WellFormed " ".toList ∧
      (∀ e ∈ es ++ fs, ',' ∉ e) ∧ es.filter WellFormed = fs.filter WellFormed ∧
      (Settings.mappingOf (.text ([','].intercalate es))).value =
        (Settings.mappingOf (.text ([','].intercalate fs))).value ∧
      (∀ p ∈ tenantMapping.entries, Writable p) ∧ ps.Perm tenantMapping.entries ∧
      (Settings.mappingOf (.text (written ps))).value = .ok tenantMapping := by
  intro es fs ps
  obtain ⟨hr, hb, hn, hw⟩ := mappingOf_elements
  obtain ⟨d, hd, -, hg⟩ := hr crowdedText
  have hk : d.get? "x-tenant".toList = some "b:c".toList := (hg _ _).mpr (by decide)
  have hl : ∀ c ∈ " ".toList, Text.isBlank c := Text.forall_mem_of_all (by decide)
  have hc : ∀ e ∈ es ++ fs, ',' ∉ e := by decide
  have hf : es.filter WellFormed = fs.filter WellFormed := by decide
  have hm : ∀ p ∈ tenantMapping.entries, Writable p := by decide
  have hp : ps.Perm tenantMapping.entries := List.reverse_perm _
  exact ⟨⟨d, hd, hk⟩, hl, hb _ hl, hc, hf, hn es fs hc hf, hm, hp, hw _ ps hm hp⟩

end TraceHeaders.BaggageMapping
