import TraceHeaders.Text.Basic
import Mathlib.Data.List.DropRight

namespace TraceHeaders.Text

/-- The characters of one text are tried, where an instance for the bare quantifier could go
through the whole type. -/
lemma forall_mem_of_all {p : Char → Prop} [DecidablePred p] {t : Text}
    (h : t.all fun c => decide (p c)) : ∀ c ∈ t, p c := by
  intro c hc
  exact of_decide_eq_true (List.all_eq_true.mp h c hc)

lemma not_blank_of_toNat {c : Char} (hl : 0x20 < c.toNat) (hu : c.toNat < 0x7F) :
    isBlank c = false := by
  rw [isBlank, List.any_eq_false]
  intro r hr
  have hb : r.2 ≤ 0x20 ∨ 0x7F ≤ r.1 := by
    revert r
    decide
  rw [Bool.and_eq_true, decide_eq_true_eq, decide_eq_true_eq]
  omega

lemma trimRight_eq_rdropWhile (t : Text) : trimRight t = t.rdropWhile isBlank := rfl

lemma trimRight_cons (c : Char) (t : Text) :
    trimRight (c :: t) = if trimRight t = [] ∧ isBlank c then [] else c :: trimRight t := by
  rw [trimRight, trimRight, List.reverse_cons, List.dropWhile_append]
  cases h : t.reverse.dropWhile isBlank with
  | nil => by_cases hc : isBlank c <;> simp [hc]
  | cons d r => simp

lemma trimRight_cons_of_not_blank {c : Char} (hc : isBlank c = false) (t : Text) :
    trimRight (c :: t) = c :: trimRight t := by
  simp [trimRight_cons, hc]

lemma trim_cons_of_not_blank {c : Char} (hc : isBlank c = false) (t : Text) :
    trim (c :: t) = c :: trimRight t := by
  rw [trim, trimLeft, List.dropWhile_cons_of_neg (by simp [hc]), trimRight_cons_of_not_blank hc]

lemma trimRight_of_not_blank {t : Text} (h : ∀ c ∈ t, isBlank c = false) : trimRight t = t := by
  induction t with
  | nil => rfl
  | cons c r ih =>
    rw [trimRight_cons_of_not_blank (h c List.mem_cons_self),
      ih fun d hd => h d (List.mem_cons_of_mem c hd)]

lemma trim_of_not_blank {t : Text} (h : ∀ c ∈ t, isBlank c = false) : trim t = t := by
  cases t with
  | nil => rfl
  | cons c r =>
    rw [trim_cons_of_not_blank (h c List.mem_cons_self),
      trimRight_of_not_blank fun d hd => h d (List.mem_cons_of_mem c hd)]

lemma trimLeft_trimRight (t : Text) : trimLeft (trimRight t) = trimRight (trimLeft t) := by
  induction t with
  | nil => rfl
  | cons c r ih =>
    by_cases hc : isBlank c
    · have hl : trimLeft (c :: r) = trimLeft r := List.dropWhile_cons_of_pos hc
      rw [trimRight_cons, hl, ← ih]
      by_cases hr : trimRight r = []
      · simp [hr, hc]
      · rw [if_neg fun h => hr h.1]
        exact List.dropWhile_cons_of_pos hc
    · have hn : isBlank c = false := by simpa using hc
      rw [trimRight_cons_of_not_blank hn, trimLeft, trimLeft, List.dropWhile_cons_of_neg hc,
        List.dropWhile_cons_of_neg hc, trimRight_cons_of_not_blank hn]

lemma trim_trimRight (t : Text) : trim (trimRight t) = trim t := by
  rw [trim, trimLeft_trimRight, trimRight_eq_rdropWhile, trimRight_eq_rdropWhile,
    List.rdropWhile_idempotent]
  rfl

lemma trim_trimLeft (t : Text) : trim (trimLeft t) = trim t := by
  have hl : trimLeft (trimLeft t) = trimLeft t := List.dropWhile_idempotent isBlank t
  rw [trim, hl, trim]

lemma trim_trim (t : Text) : trim (trim t) = trim t :=
  (trim_trimRight (trimLeft t)).trans (trim_trimLeft t)

lemma trimRight_append_cons {c : Char} (hc : isBlank c = false) (s t : Text) :
    trimRight (s ++ c :: t) = s ++ c :: trimRight t := by
  induction s with
  | nil => exact trimRight_cons_of_not_blank hc t
  | cons d r ih =>
    rw [List.cons_append, trimRight_cons, ih, if_neg fun h => by simp at h, List.cons_append]

lemma trim_append_cons {c : Char} (hc : isBlank c = false) (s t : Text) :
    trim (s ++ c :: t) = trimLeft s ++ c :: trimRight t := by
  have hl : trimLeft (s ++ c :: t) = trimLeft s ++ c :: t := by
    rw [trimLeft, trimLeft, List.dropWhile_append]
    cases s.dropWhile isBlank with
    | nil => exact List.dropWhile_cons_of_neg (by simp [hc])
    | cons d r => rfl
  rw [trim, hl, trimRight_append_cons hc]

lemma trimRight_subset (t : Text) : trimRight t ⊆ t := by
  rw [trimRight_eq_rdropWhile]
  exact (List.rdropWhile_prefix isBlank t).subset

lemma trim_subset (t : Text) : trim t ⊆ t := by
  have h : trimLeft t ⊆ t := (List.dropWhile_sublist isBlank).subset
  exact fun c hc => h (trimRight_subset _ hc)

lemma trimRight_map {f : Char → Char} (hf : ∀ c, isBlank (f c) = isBlank c) (t : Text) :
    trimRight (t.map f) = (trimRight t).map f := by
  have h : isBlank ∘ f = isBlank := funext hf
  rw [trimRight, trimRight, ← List.map_reverse, List.dropWhile_map, h, List.map_reverse]

lemma trimmed?_trim (t : Text) : trimmed? (trim t) = trimmed? t := by
  rw [trimmed?, trimmed?, trim_trim]

lemma trimmed?_eq_some_iff {t e : Text} : trimmed? t = some e ↔ trim t = e ∧ e ≠ [] := by
  unfold trimmed?
  by_cases h : trim t = []
  · simp only [h, if_pos]
    constructor
    · intro he
      cases he
    · rintro ⟨rfl, he⟩
      exact absurd rfl he
  · rw [if_neg h, Option.some.injEq]
    constructor
    · rintro rfl
      exact ⟨rfl, h⟩
    · exact fun he => he.1

lemma subset_intercalate (sep : Char) {ps : List Text} {p : Text} (hp : p ∈ ps) :
    p ⊆ [sep].intercalate ps := by
  intro c hc
  rw [List.intercalate, List.mem_flatten]
  refine ⟨p, ?_, hc⟩
  induction ps with
  | nil => cases hp
  | cons q qs ih =>
    cases qs with
    | nil => simpa using hp
    | cons r rs =>
      rw [List.intersperse_cons_cons]
      rcases List.mem_cons.mp hp with rfl | hp
      · exact List.mem_cons_self
      · exact List.mem_cons_of_mem _ (List.mem_cons_of_mem _ (ih hp))

lemma subset_of_mem_splitOn {sep : Char} {t p : Text} (hp : p ∈ t.splitOn sep) : p ⊆ t := by
  have h := subset_intercalate sep hp
  rwa [List.intercalate_splitOn] at h

lemma eq_or_mem_of_mem_intercalate {sep c : Char} {ps : List Text}
    (h : c ∈ [sep].intercalate ps) : c = sep ∨ ∃ p ∈ ps, c ∈ p := by
  induction ps with
  | nil => cases h
  | cons p ps ih =>
    cases ps with
    | nil => exact .inr ⟨p, List.mem_singleton_self p, by simpa using h⟩
    | cons q qs =>
      rw [List.intercalate_cons_cons, List.append_assoc, List.mem_append, List.singleton_append,
        List.mem_cons] at h
      obtain h | rfl | h := h
      · exact .inr ⟨p, List.mem_cons_self, h⟩
      · exact .inl rfl
      · exact (ih h).imp_right fun ⟨r, hr, hc⟩ => ⟨r, List.mem_cons_of_mem p hr, hc⟩

lemma sep_not_mem_of_mem_splitOn {sep : Char} {t p : Text} (hp : p ∈ t.splitOn sep) : sep ∉ p := by
  induction t generalizing p with
  | nil =>
    obtain rfl : p = [] := by simpa using hp
    simp
  | cons c r ih =>
    rw [List.splitOn_cons_eq_if_modifyHead] at hp
    obtain ⟨q, qs, hq⟩ := List.exists_cons_of_ne_nil (List.splitOn_ne_nil sep r)
    rw [hq] at hp ih
    by_cases hc : c = sep
    · rw [if_pos (by simpa using hc), List.mem_cons] at hp
      rcases hp with rfl | hp
      · simp
      · exact ih hp
    · rw [if_neg (by simpa using hc), List.modifyHead_cons, List.mem_cons] at hp
      rcases hp with rfl | hp
      · simp [Ne.symm hc, ih List.mem_cons_self]
      · exact ih (List.mem_cons_of_mem q hp)

lemma map_trimRight_splitOn_trimRight {sep : Char} (hs : isBlank sep = false) (t : Text) :
    ((trimRight t).splitOn sep).map trimRight = (t.splitOn sep).map trimRight := by
  induction t with
  | nil => rfl
  | cons c r ih =>
    have hm : ∀ ps : List Text, (ps.modifyHead (c :: ·)).map trimRight =
        (ps.map trimRight).modifyHead
          fun p => if p = [] ∧ isBlank c then [] else c :: p := by
      rintro (_ | ⟨p, ps⟩)
      · rfl
      · simp [trimRight_cons]
    rw [trimRight_cons]
    by_cases hr : trimRight r = [] ∧ isBlank c
    · have hc : c ≠ sep := by
        rintro rfl
        simp [hs] at hr
      rw [hr.1] at ih
      rw [if_pos hr, List.splitOn_cons_eq_if_modifyHead, if_neg (by simpa using hc), hm, ← ih]
      simp [trimRight, hr.2]
    · rw [if_neg hr, List.splitOn_cons_eq_if_modifyHead, List.splitOn_cons_eq_if_modifyHead]
      by_cases hc : c = sep
      · simp [hc, ih]
      · rw [if_neg (by simpa using hc), if_neg (by simpa using hc), hm, hm, ih]

section Cut

variable {sep : Char}

lemma cut?_append_of_not_mem {s : Text} (h : sep ∉ s) (t : Text) :
    cut? sep (s ++ t) = (cut? sep t).map fun p => (s ++ p.1, p.2) := by
  induction s with
  | nil => simp
  | cons c r ih =>
    rw [List.mem_cons, not_or] at h
    rw [List.cons_append, cut?, if_neg (Ne.symm h.1), ih h.2, Option.map_map]
    rfl

lemma cut?_eq_some_iff {t a b : Text} : cut? sep t = some (a, b) ↔ t = a ++ sep :: b ∧ sep ∉ a := by
  constructor
  · exact fun h => ⟨cut?_eq_some h, not_mem_of_cut? h⟩
  · rintro ⟨rfl, h⟩
    rw [cut?_append_of_not_mem h]
    simp [cut?]

lemma cut?_append_of_eq_some {s a b : Text} (h : cut? sep s = some (a, b)) (t : Text) :
    cut? sep (s ++ t) = some (a, b ++ t) := by
  rw [cut?_eq_some h, List.append_assoc, cut?_append_of_not_mem (not_mem_of_cut? h)]
  simp [cut?]

lemma cut?_append_cons (s t : Text) :
    cut? sep (s ++ sep :: t) =
      some (s.takeWhile (· ≠ sep), (s.dropWhile (· ≠ sep) ++ sep :: t).tail) := by
  induction s with
  | nil => simp [cut?]
  | cons c r ih => by_cases hc : c = sep <;> simp [cut?, hc, ih]

lemma map_trim_cut?_trim (hs : isBlank sep = false) (t : Text) :
    (cut? sep (trim t)).map (fun p => (trim p.1, trim p.2)) =
      (cut? sep t).map fun p => (trim p.1, trim p.2) := by
  cases h : cut? sep t with
  | none =>
    have ht : sep ∉ trim t := fun hm => cut?_eq_none_iff.mp h (trim_subset t hm)
    rw [cut?_eq_none_iff.mpr ht]
  | some p =>
    obtain ⟨a, b⟩ := p
    have ha : sep ∉ trimLeft a := fun hm =>
      not_mem_of_cut? h ((List.dropWhile_sublist isBlank).subset hm)
    rw [cut?_eq_some h, trim_append_cons hs, cut?_append_of_not_mem ha]
    simp [cut?, trim_trimLeft, trim_trimRight]

lemma subset_of_cut? {t a b : Text} (h : cut? sep t = some (a, b)) : a ⊆ t ∧ b ⊆ t := by
  rw [cut?_eq_some h]
  constructor
  · exact List.subset_append_left a _
  · exact List.subset_append_of_subset_right a (List.subset_cons_self sep b)

end Cut

section CommaElements

variable {t e : Text}

lemma mem_commaElements (h : e ∈ commaElements t) :
    trimmed? e = some e ∧ ',' ∉ e ∧ e ⊆ t := by
  obtain ⟨p, hp, he⟩ := List.mem_filterMap.mp h
  obtain ⟨rfl, hne⟩ := trimmed?_eq_some_iff.mp he
  refine ⟨(trimmed?_trim p).trans he, ?_, ?_⟩
  · intro hc
    exact sep_not_mem_of_mem_splitOn hp (trim_subset p hc)
  · exact fun c hc => subset_of_mem_splitOn hp (trim_subset p hc)

lemma trim_of_mem_commaElements (h : e ∈ commaElements t) : trim e = e :=
  (trimmed?_eq_some_iff.mp (mem_commaElements h).1).1

lemma commaElements_intercalate {ms : List Text} (h : ∀ m ∈ ms, ',' ∉ m) :
    commaElements ([','].intercalate ms) = ms.filterMap trimmed? := by
  cases ms with
  | nil => rfl
  | cons m ms => rw [commaElements, List.splitOn_intercalate _ h (List.cons_ne_nil m ms)]

lemma commaElements_join {ms : List Text} (h : ∀ m ∈ ms, trimmed? m = some m ∧ ',' ∉ m) :
    commaElements ([','].intercalate ms) = ms := by
  rw [commaElements_intercalate fun m hm => (h m hm).2,
    List.filterMap_congr fun m hm => (h m hm).1, List.filterMap_some]

lemma commaElements_eq (t : Text) :
    commaElements t = ((t.splitOn ',').map trim).filter (· ≠ []) := by
  rw [commaElements, List.filter_map, ← List.filterMap_eq_map, ← List.filterMap_eq_filter,
    List.filterMap_filterMap]
  refine List.filterMap_congr fun p _ => ?_
  by_cases hp : trim p = [] <;> simp [trimmed?, hp, Option.guard]

end CommaElements

end TraceHeaders.Text
