import TraceHeaders.Dict
import Mathlib.Data.List.Induction
import Mathlib.Data.List.Nodup
import Mathlib.Data.List.Perm.Basic

namespace TraceHeaders

lemma nodup_eraseDups {α : Type} [BEq α] [LawfulBEq α] (xs : List α) : xs.eraseDups.Nodup := by
  cases xs with
  | nil => exact List.nodup_nil
  | cons x xs =>
    rw [List.eraseDups_cons, List.nodup_cons]
    constructor
    · simp [List.mem_eraseDups]
    · exact nodup_eraseDups _
termination_by xs.length
decreasing_by exact Nat.lt_succ_of_le (List.length_filter_le _ _)

lemma pairwise_idxOf_eraseDups {α : Type} [BEq α] [LawfulBEq α] (xs : List α) :
    xs.eraseDups.Pairwise fun a b => xs.idxOf a < xs.idxOf b := by
  induction xs using List.reverseRecOn with
  | nil => exact .nil
  | append_singleton xs x ih =>
    have hi : ∀ a ∈ xs.eraseDups, (xs ++ [x]).idxOf a = xs.idxOf a := fun a ha =>
      List.idxOf_append_of_mem (List.mem_eraseDups.mp ha)
    have ih : xs.eraseDups.Pairwise fun a b => (xs ++ [x]).idxOf a < (xs ++ [x]).idxOf b :=
      ih.imp_of_mem fun ha hb h => by rwa [hi _ ha, hi _ hb]
    rw [List.eraseDups_append]
    by_cases hx : x ∈ xs
    · have hn : [x].removeAll xs = [] := by simp [List.removeAll, hx]
      rwa [hn, List.eraseDups_nil, List.append_nil]
    · have hs : [x].removeAll xs = [x] := by simp [List.removeAll, hx]
      rw [hs, List.pairwise_append]
      refine ⟨ih, List.pairwise_singleton _ _, fun a ha b hb => ?_⟩
      obtain rfl := List.mem_singleton.mp hb
      rw [hi a ha, List.idxOf_append_of_notMem hx]
      exact Nat.lt_add_right _ (List.idxOf_lt_length_of_mem (List.mem_eraseDups.mp ha))

lemma eq_of_pairwise_lt {α : Type} {f : α → Nat} {xs ys : List α}
    (hx : xs.Pairwise fun a b => f a < f b) (hy : ys.Pairwise fun a b => f a < f b)
    (h : ∀ a, a ∈ xs ↔ a ∈ ys) : xs = ys := by
  have hn : ∀ {zs : List α}, zs.Pairwise (fun a b => f a < f b) → zs.Nodup := fun hz =>
    List.nodup_iff_pairwise_ne.mpr (hz.imp fun hab he => Nat.ne_of_lt hab (congrArg f he))
  have hp : xs.Perm ys := (List.perm_ext_iff_of_nodup (hn hx) (hn hy)).mpr h
  exact hp.eq_of_pairwise (fun a b _ _ hab hba => absurd hab (Nat.lt_asymm hba)) hx hy

lemma eraseDupsBy_eq_self {α : Type} {r : α → α → Bool} {xs : List α}
    (h : xs.Pairwise fun a b => r b a = false) : xs.eraseDupsBy r = xs := by
  induction xs with
  | nil => rfl
  | cons x xs ih =>
    obtain ⟨hx, h⟩ := List.pairwise_cons.mp h
    rw [List.eraseDupsBy_cons, List.filter_eq_self.mpr fun y hy => decide_eq_true (hx y hy), ih h]

lemma find?_eq_some_iff_of_unique {α : Type} {xs : List α} {p : α → Bool}
    (hu : ∀ a ∈ xs, ∀ b ∈ xs, p a → p b → a = b) {e : α} :
    xs.find? p = some e ↔ e ∈ xs ∧ p e := by
  constructor
  · exact fun h => ⟨List.mem_of_find?_eq_some h, List.find?_some h⟩
  · rintro ⟨he, hp⟩
    obtain ⟨d, hd⟩ := Option.isSome_iff_exists.mp (List.find?_isSome.mpr ⟨e, he, hp⟩)
    rw [hd, hu d (List.mem_of_find?_eq_some hd) e he (List.find?_some hd) hp]

lemma find?_eq_of_perm {α : Type} {xs ys : List α} {p : α → Bool} (h : xs.Perm ys)
    (hu : ∀ a ∈ ys, ∀ b ∈ ys, p a → p b → a = b) : xs.find? p = ys.find? p := by
  have hx : ∀ a ∈ xs, ∀ b ∈ xs, p a → p b → a = b := fun a ha b hb =>
    hu a (h.mem_iff.mp ha) b (h.mem_iff.mp hb)
  apply Option.ext
  intro e
  rw [find?_eq_some_iff_of_unique hx, find?_eq_some_iff_of_unique hu, h.mem_iff]

section Keyed

variable {β : Type} {es : List (Text × β)}

lemma find?_key_eq_some_iff (h : (es.map (·.1)).Nodup) {k : Text} {x : β} :
    (es.find? (·.1 = k)).map (·.2) = some x ↔ (k, x) ∈ es := by
  have hu : ∀ a ∈ es, ∀ b ∈ es, decide (a.1 = k) → decide (b.1 = k) → a = b := by
    intro a ha b hb hk hl
    exact List.inj_on_of_nodup_map h ha hb ((of_decide_eq_true hk).trans (of_decide_eq_true hl).symm)
  rw [Option.map_eq_some_iff]
  constructor
  · rintro ⟨⟨l, y⟩, hf, rfl⟩
    obtain ⟨hm, hl⟩ := (find?_eq_some_iff_of_unique hu).mp hf
    exact of_decide_eq_true hl ▸ hm
  · exact fun hm => ⟨_, (find?_eq_some_iff_of_unique hu).mpr ⟨hm, decide_eq_true rfl⟩, rfl⟩

lemma mem_of_find?_key {k : Text} {x : β} (h : (es.find? (·.1 = k)).map (·.2) = some x) :
    (k, x) ∈ es := by
  obtain ⟨⟨l, y⟩, hf, rfl⟩ := Option.map_eq_some_iff.mp h
  obtain rfl : l = k := by simpa using List.find?_some hf
  exact List.mem_of_find?_eq_some hf

lemma find?_insertEntry_of_key {p : Text → Bool} {k : Text} (hk : p k = false) (x : β)
    (es : List (Text × β)) : (insertEntry k x es).find? (fun e => p e.1) = es.find? fun e => p e.1 := by
  induction es with
  | nil => simp [insertEntry, hk]
  | cons e es ih =>
    simp only [insertEntry]
    split
    · rw [List.find?_cons_of_neg (by simp [hk])]
    split
    · next he => rw [List.find?_cons_of_neg (by simp [hk]), List.find?_cons_of_neg (by simp [← he, hk])]
    · rw [List.find?_cons, List.find?_cons, ih]

end Keyed

namespace Dict

variable {β : Type}

lemma nodup_keys (d : Dict β) : (d.entries.map (·.1)).Nodup := by
  rw [List.nodup_iff_pairwise_ne, List.pairwise_map]
  refine d.sorted.imp ?_
  intro a b h he
  rw [he] at h
  exact List.lt_irrefl _ h

lemma mem_entries_iff {d : Dict β} {k : Text} {x : β} : (k, x) ∈ d.entries ↔ d.get? k = some x :=
  (find?_key_eq_some_iff d.nodup_keys).symm

lemma get?_eq_none {d : Dict β} {k : Text} (h : ∀ e ∈ d.entries, e.1 ≠ k) : d.get? k = none := by
  rw [Option.eq_none_iff_forall_ne_some]
  exact fun x hx => h _ (mem_entries_iff.mpr hx) rfl

lemma get?_eq_find?_reverse (d : Dict β) (k : Text) :
    d.get? k = (d.entries.reverse.find? (·.1 = k)).map (·.2) := by
  have hr : (d.entries.reverse.map (·.1)).Nodup := by
    rw [List.map_reverse]
    exact List.nodup_reverse.mpr d.nodup_keys
  apply Option.ext
  intro x
  rw [find?_key_eq_some_iff hr, List.mem_reverse, mem_entries_iff]

lemma get?_insertMany (d : Dict β) (es : List (Text × β)) (k : Text) :
    (d.insertMany es).get? k = ((es.reverse.find? (·.1 = k)).map (·.2)).or (d.get? k) := by
  induction es generalizing d with
  | nil => rfl
  | cons e es ih =>
    rw [insertMany, List.foldl_cons, ← insertMany, ih, get?_insert, List.reverse_cons,
      List.find?_append]
    by_cases hk : e.1 = k
    · cases es.reverse.find? (·.1 = k) <;> simp [hk]
    · cases es.reverse.find? (·.1 = k) <;> simp [hk]

lemma get?_ofList (es : List (Text × β)) (k : Text) :
    (ofList es).get? k = (es.reverse.find? (·.1 = k)).map (·.2) := by
  rw [ofList, get?_insertMany, get?_empty, Option.or_none]

lemma get?_ofList_filterMap {α : Type} {f : α → Option (Text × β)} {xs : List α} {k : Text}
    {x : β} :
    (ofList (xs.filterMap f)).get? k = some x ↔ ∃ before a after, xs = before ++ a :: after ∧
      f a = some (k, x) ∧ ∀ b ∈ after, ∀ y, f b ≠ some (k, y) := by
  have hs : ∀ b, !(f b).any (·.1 = k) ↔ ∀ y, f b ≠ some (k, y) := by
    intro b
    rcases f b with _ | ⟨l, y⟩ <;> simp
  -- The first match from the end divides the reversed list, and so the list.
  rw [get?_ofList, ← List.filterMap_reverse, List.find?_filterMap, Option.map_eq_some_iff]
  constructor
  · rintro ⟨⟨l, x⟩, hf, rfl⟩
    obtain ⟨a, ha, hl⟩ := Option.bind_eq_some_iff.mp hf
    obtain ⟨hk, after, before, hx, hn⟩ := List.find?_eq_some_iff_append.mp ha
    obtain rfl : l = k := by simpa [hl] using hk
    refine ⟨before.reverse, a, after.reverse, by simpa using congrArg List.reverse hx, hl, ?_⟩
    exact fun b hb => (hs b).mp (hn b (List.mem_reverse.mp hb))
  · rintro ⟨before, a, after, rfl, ha, hn⟩
    refine ⟨(k, x), Option.bind_eq_some_iff.mpr ⟨a, ?_, ha⟩, rfl⟩
    refine List.find?_eq_some_iff_append.mpr
      ⟨by simp [ha], after.reverse, before.reverse, by simp, fun b hb => ?_⟩
    exact (hs b).mpr (hn b (List.mem_reverse.mp hb))

lemma mem_of_mem_ofList {es : List (Text × β)} {e : Text × β} (h : e ∈ (ofList es).entries) :
    e ∈ es := by
  obtain ⟨k, x⟩ := e
  rw [mem_entries_iff, get?_ofList] at h
  exact List.mem_reverse.mp (mem_of_find?_key h)

lemma exists_mem_ofList {es : List (Text × β)} {e : Text × β} (h : e ∈ es) :
    ∃ x, (e.1, x) ∈ (ofList es).entries := by
  have hf : (es.reverse.find? (·.1 = e.1)).isSome :=
    List.find?_isSome.mpr ⟨e, List.mem_reverse.mpr h, decide_eq_true rfl⟩
  obtain ⟨d, hd⟩ := Option.isSome_iff_exists.mp hf
  refine ⟨d.2, ?_⟩
  rw [mem_entries_iff, get?_ofList, hd, Option.map_some]

lemma contains_ofList_iff {es : List (Text × β)} {k : Text} :
    (ofList es).contains k ↔ ∃ x, (k, x) ∈ es := by
  rw [contains, Option.isSome_iff_exists]
  simp only [← mem_entries_iff]
  constructor
  · rintro ⟨x, hx⟩
    exact ⟨x, mem_of_mem_ofList hx⟩
  · rintro ⟨x, hx⟩
    exact exists_mem_ofList hx

section Perm

variable {d e : Dict β} {es : List (Text × β)}

lemma eq_of_perm (h : d.entries.Perm e.entries) : d = e := by
  have ha : ∀ a b : Text × β, a.1 < b.1 → b.1 < a.1 → a = b := fun a b hab hba =>
    absurd (List.lt_trans hab hba) (List.lt_irrefl _)
  exact ext_entries (h.eq_of_pairwise (fun a b _ _ => ha a b) d.sorted e.sorted)

lemma perm_ofList (hn : (es.map (·.1)).Nodup) : (ofList es).entries.Perm es := by
  have hr : (es.reverse.map (·.1)).Nodup := by
    rw [List.map_reverse]
    exact List.nodup_reverse.mpr hn
  rw [List.perm_ext_iff_of_nodup (nodup_keys _).of_map hn.of_map]
  rintro ⟨k, x⟩
  rw [mem_entries_iff, get?_ofList, find?_key_eq_some_iff hr, List.mem_reverse]

lemma ofList_of_perm (h : es.Perm d.entries) : ofList es = d := by
  have hn : (es.map (·.1)).Nodup := (h.map _).nodup_iff.mpr d.nodup_keys
  exact eq_of_perm ((perm_ofList hn).trans h)

lemma ofList_congr {fs : List (Text × β)} (h : es.Perm fs) (hn : (es.map (·.1)).Nodup) :
    ofList es = ofList fs := by
  have hf : (fs.map (·.1)).Nodup := (h.map _).nodup_iff.mp hn
  exact ofList_of_perm (h.trans (perm_ofList hf).symm)

lemma ofList_entries (d : Dict β) : ofList d.entries = d :=
  ofList_of_perm (.refl _)

lemma insertMany_append (d : Dict β) (es fs : List (Text × β)) :
    d.insertMany (es ++ fs) = (d.insertMany es).insertMany fs :=
  List.foldl_append

lemma perm_insertMany (h : ((d.entries ++ es).map (·.1)).Nodup) :
    (d.insertMany es).entries.Perm (d.entries ++ es) := by
  have he : d.insertMany es = ofList (d.entries ++ es) := by
    rw [ofList, insertMany_append, ← ofList, ofList_entries]
  rw [he]
  exact perm_ofList h

lemma entries_ofList_take (d : Dict β) (n : Nat) :
    (ofList (d.entries.take n)).entries = d.entries.take n := by
  let e : Dict β := ⟨d.entries.take n, d.sorted.sublist (List.take_sublist n _)⟩
  have he : ofList e.entries = e := ofList_entries e
  exact congrArg entries he

lemma ext_get? (h : ∀ k, d.get? k = e.get? k) : d = e := by
  apply eq_of_perm
  rw [List.perm_ext_iff_of_nodup d.nodup_keys.of_map e.nodup_keys.of_map]
  rintro ⟨k, x⟩
  rw [mem_entries_iff, mem_entries_iff, h]

lemma erase_insert {k : Text} (h : d.get? k = none) (x : β) : (d.insert k x).erase k = d := by
  apply ext_get?
  intro l
  rw [get?_erase, get?_insert]
  by_cases hk : k = l
  · rw [if_pos hk, ← hk, h]
  · rw [if_neg hk, if_neg hk]

end Perm

section Map

variable {γ : Type} (f : β → γ)

lemma map_insertEntry (k : Text) (x : β) (es : List (Text × β)) :
    (insertEntry k x es).map (Prod.map id f) = insertEntry k (f x) (es.map (Prod.map id f)) := by
  induction es with
  | nil => rfl
  | cons e es ih =>
    simp only [insertEntry, List.map_cons, Prod.map_fst, id_eq]
    split
    · rfl
    split
    · rfl
    · rw [List.map_cons, ih]

lemma entries_insertMany_map {d : Dict β} {d' : Dict γ}
    (h : d'.entries = d.entries.map (Prod.map id f)) (es : List (Text × β)) :
    (d'.insertMany (es.map (Prod.map id f))).entries =
      (d.insertMany es).entries.map (Prod.map id f) := by
  induction es generalizing d d' with
  | nil => exact h
  | cons e es ih =>
    apply ih
    change insertEntry e.1 (f e.2) d'.entries = _
    rw [h]
    exact (map_insertEntry f e.1 e.2 d.entries).symm

end Map

end Dict

end TraceHeaders
