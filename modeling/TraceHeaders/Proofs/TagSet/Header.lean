import TraceHeaders.Format.Datadog
import TraceHeaders.Proofs.Dict
import TraceHeaders.Proofs.Text.Numeral
import Mathlib.Data.List.Find

namespace TraceHeaders.TagSet

lemma isValueChar_of_isLowerHexDigit {c : Char} (h : Text.isLowerHexDigit c) : isValueChar c := by
  have hn := Text.toNat_of_isLowerHexDigit h
  have hc : c ≠ ',' := by
    rintro rfl
    exact absurd h (by decide)
  simp only [isValueChar, Bool.and_eq_true, decide_eq_true_eq]
  exact ⟨⟨by omega, by omega⟩, hc⟩

structure Carried (e : Text × Text) : Prop where
  start : keyStart <+: e.1
  key : ∀ c ∈ e.1, isValueChar c
  value : ∀ c ∈ e.2, isValueChar c

def pair (e : Text × Text) : Text := e.1 ++ '=' :: e.2

def arriving (e : Text × Text) : Text × Text :=
  match Text.cut? '=' e.1 with
  | none => e
  | some (k, rest) => (k, rest ++ '=' :: e.2)

lemma cut?_pair (e : Text × Text) : Text.cut? '=' (pair e) = some (arriving e) := by
  rw [pair, arriving]
  cases hc : Text.cut? '=' e.1 with
  | none =>
    rw [Text.cut?_append_of_not_mem (Text.cut?_eq_none_iff.mp hc)]
    simp [Text.cut?]
  | some p => exact Text.cut?_append_of_eq_some hc _

lemma arriving_of_not_mem {e : Text × Text} (h : '=' ∉ e.1) : arriving e = e := by
  rw [arriving, Text.cut?_eq_none_iff.mpr h]

lemma arriving_of_mem {e : Text × Text} (h : '=' ∈ e.1) :
    ∃ rest, e.1 = (arriving e).1 ++ '=' :: rest ∧ (arriving e).2 = rest ++ '=' :: e.2 := by
  rw [arriving]
  cases hc : Text.cut? '=' e.1 with
  | none => exact absurd h (Text.cut?_eq_none_iff.mp hc)
  | some p => exact ⟨p.2, Text.cut?_eq_some hc, rfl⟩

lemma carried_of_isKey {e : Text × Text} (hk : isKey e.1) (hv : isValue e.2) : Carried e := by
  unfold isKey at hk
  split at hk
  · next suffix hs =>
    have hp := List.isPrefixOf?_eq_some_iff_append_eq.mp hs
    rw [Bool.and_eq_true, List.all_eq_true] at hk
    refine ⟨⟨suffix, hp⟩, fun c hc => ?_, List.all_eq_true.mp hv⟩
    rw [← hp, List.mem_append] at hc
    rcases hc with hc | hc
    · revert c
      apply Text.forall_mem_of_all
      decide
    · have hn := hk.2 c hc
      simp only [isKeyChar, isValueChar, Bool.and_eq_true, decide_eq_true_eq] at hn ⊢
      exact ⟨⟨by omega, hn.1.2⟩, hn.2⟩
  · cases hk

namespace Carried

variable {e : Text × Text}

lemma keyStart_arriving (h : Carried e) : keyStart <+: (arriving e).1 := by
  by_cases he : '=' ∈ e.1
  · obtain ⟨rest, hk, -⟩ := arriving_of_mem he
    have ha : (arriving e).1 <+: e.1 := ⟨_, hk.symm⟩
    rcases List.prefix_or_prefix_of_prefix h.start ha with hp | ⟨t, ht⟩
    · exact hp
    · obtain ⟨u, hu⟩ := h.start
      rw [← ht, hk, List.append_assoc, List.append_cancel_left_eq] at hu
      cases t with
      | nil => simp [← ht]
      | cons c t =>
        obtain rfl : c = '=' := (List.cons.inj hu).1
        have hn : '=' ∉ keyStart := by decide
        exact absurd (ht ▸ List.mem_append_right _ List.mem_cons_self) hn
  · rw [arriving_of_not_mem he]
    exact h.start

lemma isValue_arriving (h : Carried e) : isValue (arriving e).2 := by
  rw [isValue, List.all_eq_true]
  intro c hc
  by_cases he : '=' ∈ e.1
  · obtain ⟨rest, hk, hv⟩ := arriving_of_mem he
    rw [hv, List.mem_append, List.mem_cons] at hc
    obtain hc | rfl | hc := hc
    · apply h.key c
      rw [hk]
      exact List.mem_append_right _ (List.mem_cons_of_mem _ hc)
    · decide
    · exact h.value c hc
  · rw [arriving_of_not_mem he] at hc
    exact h.value c hc

lemma element_pair (h : Carried e) :
    element (pair e) =
      if isKey (arriving e).1 then .tag (arriving e).1 (arriving e).2 else .malformed := by
  have hs : keyStart.isPrefixOf (arriving e).1 := List.isPrefixOf_iff_prefix.mpr h.keyStart_arriving
  simp only [element, cut?_pair, hs, h.isValue_arriving, Bool.not_true, Bool.and_true,
    Bool.false_eq_true, if_false]

lemma comma_not_mem_pair (h : Carried e) : ',' ∉ pair e := by
  rw [pair, List.mem_append, List.mem_cons]
  rintro (hc | hc | hc)
  · exact absurd (h.key _ hc) (by decide)
  · exact absurd hc (by decide)
  · exact absurd (h.value _ hc) (by decide)

end Carried

section Elements

variable {es : List (Text × Text)}

lemma readElements_eq_ok (h : ∀ e ∈ es, Carried e) (hk : ∀ e ∈ es, isKey (arriving e).1) :
    readElements (es.map pair) = .ok (es.map arriving) := by
  induction es with
  | nil => rfl
  | cons e es ih =>
    rw [List.map_cons, readElements, (h e List.mem_cons_self).element_pair,
      if_pos (hk e List.mem_cons_self)]
    simp only
    rw [ih (fun d hd => h d (List.mem_cons_of_mem e hd)) fun d hd =>
      hk d (List.mem_cons_of_mem e hd)]
    rfl

lemma readElements_eq_error (h : ∀ e ∈ es, Carried e) {e : Text × Text} (he : e ∈ es)
    (hk : ¬ isKey (arriving e).1) : ∃ p, readElements (es.map pair) = .error p := by
  induction es with
  | nil => cases he
  | cons d es ih =>
    rw [List.map_cons, readElements, (h d List.mem_cons_self).element_pair]
    by_cases hd : isKey (arriving d).1
    · have hes : e ∈ es := by
        rcases List.mem_cons.mp he with rfl | he
        · exact absurd hd hk
        · exact he
      obtain ⟨p, hp⟩ := ih (fun d hd => h d (List.mem_cons_of_mem _ hd)) hes
      refine ⟨p, ?_⟩
      rw [if_pos hd]
      simp only [hp]
      rfl
    · exact ⟨pair d, by rw [if_neg hd]⟩

lemma splitOn_encode {d : Dict Text} (h : ∀ e ∈ d.entries, Carried e) (hd : d.entries ≠ []) :
    ((encode d).splitOn ',').filter (· ≠ []) = d.entries.map pair := by
  have hp : ∀ p ∈ d.entries.map pair, ',' ∉ p := by
    intro p hp
    obtain ⟨e, he, rfl⟩ := List.mem_map.mp hp
    exact (h e he).comma_not_mem_pair
  have hs : (encode d).splitOn ',' = d.entries.map pair :=
    List.splitOn_intercalate ',' hp (by simpa using hd)
  rw [hs, List.filter_eq_self]
  intro p hp
  obtain ⟨e, -, rfl⟩ := List.mem_map.mp hp
  simp [pair]

end Elements

lemma eq_nil_of_byteLength {t : Text} (h : Text.byteLength t = 0) : t = [] := by
  cases t with
  | nil => rfl
  | cons c r =>
    have hc := c.utf8Size_pos
    rw [Text.byteLength_cons] at h
    omega

lemma get?_checkDecisionMaker (s : TagSet) :
    s.checkDecisionMaker.value.get? highHalfKey = s.get? highHalfKey := by
  unfold checkDecisionMaker
  split
  · rfl
  split
  · rfl
  · exact (Dict.get?_erase _ _ _).trans (if_neg (by decide))

section Header

variable {d : Dict Text} {limit : Nat}

lemma encode_ne_nil (hd : d.entries ≠ []) : encode d ≠ [] := by
  obtain ⟨e, es, he⟩ := List.exists_cons_of_ne_nil hd
  have hm : pair e ∈ d.entries.map pair := by
    rw [he]
    exact List.mem_cons_self
  have hs : pair e ⊆ encode d := Text.subset_intercalate ',' hm
  have hc : '=' ∈ pair e := List.mem_append_right _ List.mem_cons_self
  exact List.ne_nil_of_mem (hs hc)

lemma limit_ne_zero (hd : d.entries ≠ []) (hl : Text.byteLength (encode d) ≤ limit) :
    limit ≠ 0 := by
  rintro rfl
  exact encode_ne_nil hd (eq_nil_of_byteLength (Nat.le_zero.mp hl))

lemma value_header? {s : TagSet} (hd : s.tags.entries ≠ [])
    (hl : Text.byteLength (encode s.tags) ≤ limit) :
    (s.header? limit).value = some (encode s.tags) := by
  have he : s.tags.isEmpty = false := by simpa [Dict.isEmpty] using hd
  rw [header?, if_neg (by simp [he, limit_ne_zero hd hl]), if_neg (Nat.not_lt.mpr hl)]
  rfl

lemma value_header?_of_nil {s : TagSet} (hd : s.tags.entries = []) :
    (s.header? limit).value = none := by
  rw [header?, if_pos (by simp [Dict.isEmpty, hd])]
  rfl

lemma value_header?_of_lt {s : TagSet} (hl : limit < Text.byteLength (encode s.tags)) :
    (s.header? limit).value = none := by
  rw [header?, if_pos hl]
  split <;> rfl

lemma value_ofHeader_encode (h : ∀ e ∈ d.entries, Carried e) (hd : d.entries ≠ [])
    (hl : Text.byteLength (encode d) ≤ limit) :
    (ofHeader limit (encode d)).value =
      match readElements (d.entries.map pair) with
      | .error _ => failed .undecodable
      | .ok tags => (checkDecisionMaker { tags := .ofList tags }).value := by
  rw [ofHeader, if_neg (limit_ne_zero hd hl), if_neg (Nat.not_lt.mpr hl), splitOn_encode h hd]
  cases readElements (d.entries.map pair) <;> rfl

structure Sayable (d : Dict Text) : Prop where
  keys : ∀ e ∈ d.entries, isKey e.1 ∧ isValue e.2 ∧ '=' ∉ e.1
  decisionMaker : ∀ m, d.get? decisionMakerKey = some m → isDecisionMaker m

lemma value_ofHeader_of_sayable (h : Sayable d) (hd : d.entries ≠ [])
    (hl : Text.byteLength (encode d) ≤ limit) :
    (ofHeader limit (encode d)).value = { tags := d } := by
  have hc : ∀ e ∈ d.entries, Carried e := fun e he =>
    carried_of_isKey (h.keys e he).1 (h.keys e he).2.1
  have ha : ∀ e ∈ d.entries, arriving e = id e := fun e he => arriving_of_not_mem (h.keys e he).2.2
  have hk : ∀ e ∈ d.entries, isKey (arriving e).1 := by
    intro e he
    rw [ha e he]
    exact (h.keys e he).1
  rw [value_ofHeader_encode hc hd hl, readElements_eq_ok hc hk, List.map_congr_left ha,
    List.map_id]
  simp only [Dict.ofList_entries, checkDecisionMaker]
  cases hm : d.get? decisionMakerKey with
  | none => rfl
  | some m =>
    simp only [h.decisionMaker m hm, if_true]
    rfl

structure HighHalfReadable (d : Dict Text) : Prop where
  keys : ∀ e ∈ d.entries, isKey (arriving e).1
  unshadowed : ∀ e ∈ d.entries, ¬ highHalfKey ++ ['='] <+: e.1

lemma fst_arriving_eq_iff {e : Text × Text} (he : ¬ highHalfKey ++ ['='] <+: e.1) :
    (arriving e).1 = highHalfKey ↔ e.1 = highHalfKey := by
  by_cases hm : '=' ∈ e.1
  · obtain ⟨rest, hk, -⟩ := arriving_of_mem hm
    constructor
    · intro ha
      rw [ha] at hk
      exact absurd ⟨rest, by rw [hk]; simp⟩ he
    · intro ha
      rw [ha] at hm
      exact absurd hm (by decide)
  · rw [arriving_of_not_mem hm]

lemma get?_ofList_map_arriving (es : List (Text × Text)) (k : Text) :
    (Dict.ofList (es.map arriving)).get? k =
      ((es.reverse.find? fun e => (arriving e).1 = k).map arriving).map (·.2) := by
  rw [Dict.get?_ofList, ← List.map_reverse, List.find?_map]
  rfl

lemma get?_ofList_arriving (h : ∀ e ∈ d.entries, ¬ highHalfKey ++ ['='] <+: e.1) :
    (Dict.ofList (d.entries.map arriving)).get? highHalfKey = d.get? highHalfKey := by
  have hp : ∀ e ∈ d.entries.reverse, decide ((arriving e).1 = highHalfKey) =
      decide (e.1 = highHalfKey) := by
    intro e he
    rw [decide_eq_decide]
    exact fst_arriving_eq_iff (h e (List.mem_reverse.mp he))
  rw [get?_ofList_map_arriving, List.find?_congr hp, Dict.get?_eq_find?_reverse, Option.map_map]
  cases hf : d.entries.reverse.find? fun e => decide (e.1 = highHalfKey) with
  | none => rfl
  | some e =>
    have hk : e.1 = highHalfKey := by simpa using List.find?_some hf
    have hm : '=' ∉ e.1 := by
      rw [hk]
      decide
    rw [Option.map_some, Option.map_some, Function.comp_apply, arriving_of_not_mem hm]

lemma mem_value_of_shadowed {s : Text × Text} (hs : s ∈ d.entries)
    (hk : highHalfKey ++ ['='] <+: s.1) {x : Text}
    (hx : (Dict.ofList (d.entries.map arriving)).get? highHalfKey = some x) : '=' ∈ x := by
  -- The entries are sorted, so a key that begins with the other one comes after it.
  obtain ⟨u, hu⟩ := hk
  have hn : '=' ∉ highHalfKey := by decide
  have ha : (arriving s).1 = highHalfKey := by
    have hc : Text.cut? '=' s.1 = some (highHalfKey, u) := by
      rw [← hu, List.append_assoc, Text.cut?_append_of_not_mem hn]
      simp [Text.cut?]
    rw [arriving, hc]
  rw [get?_ofList_map_arriving, Option.map_map, Option.map_eq_some_iff] at hx
  obtain ⟨e, he, rfl⟩ := hx
  obtain ⟨hek, as, bs, hes, has⟩ := List.find?_eq_some_iff_append.mp he
  rw [decide_eq_true_eq] at hek
  by_cases hm : '=' ∈ e.1
  · obtain ⟨rest, -, hv⟩ := arriving_of_mem hm
    rw [Function.comp_apply, hv]
    exact List.mem_append_right _ List.mem_cons_self
  · rw [arriving_of_not_mem hm] at hek
    exfalso
    have hd : d.entries = bs.reverse ++ [e] ++ as.reverse := by
      rw [← List.reverse_reverse d.entries, hes]
      simp
    have hss : s ∈ bs.reverse := by
      rw [hd, List.mem_append, List.mem_append, List.mem_singleton] at hs
      obtain (hs | rfl) | hs := hs
      · exact hs
      · rw [← hu] at hm
        simp at hm
      · have hns := has s (List.mem_reverse.mp hs)
        simp [ha] at hns
    have hlt : s.1 < e.1 := by
      have hp := d.sorted
      rw [hd, List.pairwise_append, List.pairwise_append] at hp
      exact hp.1.2.2 s hss e (List.mem_singleton_self e)
    rw [hek, ← hu, List.append_assoc] at hlt
    exact List.not_le.mpr hlt (List.le_append_left)

end Header

end TraceHeaders.TagSet
