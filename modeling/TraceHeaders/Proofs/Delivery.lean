import TraceHeaders.Headers
import TraceHeaders.Proofs.Dict
import Mathlib.Data.List.Find

/-! Headers that are written into an empty carrier are found by its view. -/

namespace TraceHeaders

/-- The views through which a receiver can read headers that were written one after another. A
walk over a map has no order of its own. -/
inductive Delivered (hs : List Header) : HeaderView → Prop
  | list : Delivered hs (Snapshot.view ⟨hs⟩)
  | map : Delivered hs (HeaderMap.view (HeaderMap.setAll ∅ hs))
  | walk {es : List Header} (h : es.Perm (HeaderMap.setAll ∅ hs).entries) :
    Delivered hs (Snapshot.view ⟨es⟩)
  | byteWalk {es : List (Text × List UInt8)} (h : es.Perm (ByteMap.setAll ∅ hs).entries) :
    Delivered hs (Snapshot.view (.ofBytes es))

def isPlainName (n : Text) : Bool := n.all fun c => c.toNat < 0x80 && c.toLower == c

section Plain

variable {n : Text}

lemma of_mem_plain (h : isPlainName n) {c : Char} (hc : c ∈ n) : c.toNat < 0x80 ∧ c.toLower = c := by
  have hn := List.all_eq_true.mp h c hc
  rwa [Bool.and_eq_true, decide_eq_true_eq, beq_iff_eq] at hn

lemma asciiLower_of_plain (h : isPlainName n) : Text.asciiLower n = n := by
  have hc : ∀ c ∈ n, c.toLower = id c := fun c hc => (of_mem_plain h hc).2
  exact (List.map_congr_left hc).trans (List.map_id n)

lemma lower_of_plain (h : isPlainName n) : Text.lower n = n := by
  rw [Text.lower_of_ascii fun c hc => (of_mem_plain h hc).1, asciiLower_of_plain h]

lemma prefix_asciiLower {t : Text} (hn : isPlainName n) (h : n <+: t) : n <+: Text.asciiLower t := by
  have hm := h.map Char.toLower
  rwa [← Text.asciiLower, asciiLower_of_plain hn] at hm

lemma prefix_lower {t : Text} (hn : isPlainName n) (h : n <+: t) : n <+: Text.lower t := by
  obtain ⟨r, rfl⟩ := h
  rw [Text.lower, Text.lowerAfter_append_of_ascii fun c hc => (of_mem_plain hn hc).1,
    asciiLower_of_plain hn]
  exact List.prefix_append n _

lemma toLower_of_lowerChar {c : Char} (h : Text.lowerChar c = c) : c.toLower = c := by
  by_cases hc : c.toNat < 0x80
  · rwa [Text.lowerChar_of_lt hc] at h
  · exact Text.toLower_of_le (Nat.le_of_not_lt hc)

lemma lowerAfter_eq_self_iff {t before : Text} :
    Text.lowerAfter before t = t ↔ ∀ c ∈ t, c ≠ 'Σ' ∧ c ≠ 'İ' ∧ Text.lowerChar c = c := by
  induction t generalizing before with
  | nil => exact iff_of_true rfl fun c hc => nomatch hc
  | cons c r ih =>
    rw [Text.lowerAfter, List.forall_mem_cons]
    by_cases hs : c = 'Σ'
    · subst hs
      refine iff_of_false (fun h => ?_) fun h => h.1.1 rfl
      have hc := (List.cons.inj h).1
      split at hc <;> exact absurd hc (by decide)
    by_cases hi : c = 'İ'
    · subst hi
      refine iff_of_false (fun h => ?_) fun h => h.1.2.1 rfl
      exact absurd (List.cons.inj h).1 (by decide)
    rw [if_neg hs, if_neg hi, List.singleton_append, List.cons.injEq, ih]
    exact and_congr_left fun _ => ⟨fun hc => ⟨hs, hi, hc⟩, fun hc => hc.2.2⟩

lemma asciiLower_of_lower {t : Text} (h : Text.lower t = t) : Text.asciiLower t = t := by
  have hc : ∀ c ∈ t, c.toLower = id c := fun c hc =>
    toLower_of_lowerChar (lowerAfter_eq_self_iff.mp h c hc).2.2
  exact (List.map_congr_left hc).trans (List.map_id t)

lemma lower_append_of_plain {t : Text} (hn : isPlainName n) (h : Text.lower t = t) :
    Text.lower (n ++ t) = n ++ t := by
  rw [Text.lower, Text.lowerAfter_append_of_ascii fun c hc => (of_mem_plain hn hc).1,
    asciiLower_of_plain hn, lowerAfter_eq_self_iff.mpr (lowerAfter_eq_self_iff.mp h)]

end Plain

def similar (n name : Text) : Bool := Text.sameName n name || Text.sameName (Text.lower n) name

def under (hs : List Header) (name : Text) : List Header := hs.filter fun h => similar h.1 name

section Under

variable {hs es : List Header} {name : Text}

lemma similar_of_lower {n : Text} (hn : Text.lower n = n) (hm : isPlainName name) :
    similar n name = decide (n = name) := by
  rw [similar, hn, Bool.or_self, Text.sameName, asciiLower_of_lower hn, asciiLower_of_plain hm]
  exact beq_eq_decide n name

lemma similar_of_plain {n : Text} (hn : isPlainName n) (hm : isPlainName name) :
    similar n name = decide (n = name) :=
  similar_of_lower (lower_of_plain hn) hm

lemma prefix_of_similar {n s : Text} (hm : isPlainName name) (hs : isPlainName s) (hp : s <+: n)
    (h : similar n name) : s <+: name := by
  have ht : ∀ t, s <+: t → Text.sameName t name → s <+: name := by
    intro t ht hn
    rw [Text.sameName, beq_iff_eq, asciiLower_of_plain hm] at hn
    rw [← hn]
    exact prefix_asciiLower hs ht
  rw [similar, Bool.or_eq_true] at h
  exact h.elim (ht n hp) (ht _ (prefix_lower hs hp))

lemma under_append (hs es : List Header) (name : Text) :
    under (hs ++ es) name = under hs name ++ under es name :=
  List.filter_append ..

lemma under_flatMap {α : Type} (f : α → List Header) (xs : List α) (name : Text) :
    under (xs.flatMap f) name = xs.flatMap fun x => under (f x) name :=
  List.filter_flatMap

lemma under_eq_nil (h : ∀ e ∈ hs, similar e.1 name = false) : under hs name = [] := by
  rw [under, List.filter_eq_nil_iff]
  exact fun e he => Bool.eq_false_iff.mp (h e he)

end Under

lemma eq_toList_of_perm {α : Type} {es : List α} {o : Option α} (h : es.Perm o.toList) :
    es = o.toList := by
  cases o with
  | none => exact List.perm_nil.mp h
  | some x => exact List.perm_singleton.mp h

lemma filter_eq_toList {α : Type} {es : List α} {p : α → Bool} {o : Option α} (hn : es.Nodup)
    (h : ∀ e, e ∈ es ∧ p e ↔ o = some e) : es.filter p = o.toList := by
  apply eq_toList_of_perm
  have ho : o.toList.Nodup := by cases o <;> simp
  rw [List.perm_ext_iff_of_nodup (hn.filter _) ho]
  intro e
  rw [List.mem_filter, h, Option.mem_toList]

section Carrier

variable {hs es : List Header} {name : Text} {o : Option Text}

lemma filter_sameName_of_under (h : under hs name = (o.map (name, ·)).toList) :
    hs.filter (fun e => Text.sameName e.1 name) = (o.map (name, ·)).toList := by
  have hf : hs.filter (fun e => Text.sameName e.1 name) =
      (under hs name).filter fun e => Text.sameName e.1 name := by
    rw [under, List.filter_filter]
    refine List.filter_congr fun e _ => ?_
    cases hs : Text.sameName e.1 name <;> simp [similar, hs]
  rw [hf, h, List.filter_eq_self]
  intro e he
  obtain ⟨x, -, rfl⟩ := Option.map_eq_some_iff.mp (Option.mem_toList.mp he)
  exact Text.sameName_refl name

lemma getAll_of_filter (h : es.filter (fun e => Text.sameName e.1 name) = (o.map (name, ·)).toList) :
    Snapshot.getAll ⟨es⟩ name = o.toList := by
  rw [Snapshot.getAll, h]
  cases o <;> rfl

lemma get?_of_filter (h : es.filter (fun e => Text.sameName e.1 name) = (o.map (name, ·)).toList) :
    Snapshot.get? ⟨es⟩ name = o := by
  rw [Snapshot.get?_eq_head?, getAll_of_filter h]
  cases o <;> rfl

lemma setAll_eq_ofList (hs : List Header) :
    HeaderMap.setAll ∅ hs = Dict.ofList (hs.map fun h => (Text.lower h.1, h.2)) := by
  rw [Dict.ofList, Dict.insertMany, List.foldl_map]
  rfl

lemma entries_bytes_setAll (hs : List Header) :
    (ByteMap.setAll ∅ hs).entries =
      (HeaderMap.setAll ∅ hs).entries.map (Prod.map id Text.bytes) := by
  have hb : ByteMap.setAll ∅ hs =
      Dict.ofList ((hs.map fun h => (Text.lower h.1, h.2)).map (Prod.map id Text.bytes)) := by
    rw [Dict.ofList, Dict.insertMany, List.foldl_map, List.foldl_map]
    rfl
  rw [hb, setAll_eq_ofList]
  exact Dict.entries_insertMany_map Text.bytes rfl _

lemma ofBytes_perm {es : List (Text × List UInt8)} (h : es.Perm (ByteMap.setAll ∅ hs).entries) :
    (Snapshot.ofBytes es).headers.Perm (HeaderMap.setAll ∅ hs).entries := by
  rw [entries_bytes_setAll] at h
  have ht := h.map fun e => (e.1, Text.ofBytesLossy e.2)
  rw [List.map_map] at ht
  refine ht.trans (List.Perm.of_eq (List.map_id'' (fun e => ?_) _))
  change (e.1, Text.ofBytesLossy (Text.bytes e.2)) = e
  rw [Text.ofBytesLossy_bytes]

lemma mem_entries_setAll_iff (hn : isPlainName name)
    (h : under hs name = (o.map (name, ·)).toList) {e : Header} :
    e ∈ (HeaderMap.setAll ∅ hs).entries ∧ Text.sameName e.1 name ↔ o.map (name, ·) = some e := by
  -- What the map holds under the name was written under a name that a look-up takes for it.
  have hw : ∀ d ∈ hs, similar d.1 name → o.map (name, ·) = some d := by
    intro d hd hs
    rw [← Option.mem_toList, ← h]
    exact List.mem_filter.mpr ⟨hd, hs⟩
  have hf : ∀ d ∈ (HeaderMap.setAll ∅ hs).entries, Text.sameName d.1 name →
      o.map (name, ·) = some d := by
    intro d hd hs
    rw [setAll_eq_ofList] at hd
    obtain ⟨b, hb, rfl⟩ := List.mem_map.mp (Dict.mem_of_mem_ofList hd)
    have hx := hw b hb (Bool.or_eq_true_iff.mpr (.inr hs))
    obtain ⟨x, rfl, rfl⟩ := Option.map_eq_some_iff.mp hx
    rw [lower_of_plain hn]
    rfl
  constructor
  · exact fun he => hf e he.1 he.2
  · intro he
    obtain ⟨x, rfl, rfl⟩ := Option.map_eq_some_iff.mp he
    have hm : (name, x) ∈ under hs name := h ▸ List.mem_singleton_self _
    have hl : (name, x) ∈ hs.map fun h => (Text.lower h.1, h.2) :=
      List.mem_map.mpr ⟨_, (List.mem_filter.mp hm).1, by rw [lower_of_plain hn]⟩
    obtain ⟨y, hy⟩ := Dict.exists_mem_ofList hl
    rw [← setAll_eq_ofList] at hy
    have hx := hf _ hy (Text.sameName_refl name)
    obtain rfl : x = y := congrArg Prod.snd (Option.some.inj hx)
    exact ⟨hy, Text.sameName_refl name⟩

lemma filter_entries_setAll (hn : isPlainName name)
    (h : under hs name = (o.map (name, ·)).toList) :
    (HeaderMap.setAll ∅ hs).entries.filter (fun e => Text.sameName e.1 name) =
      (o.map (name, ·)).toList :=
  filter_eq_toList (Dict.nodup_keys _).of_map fun _ => mem_entries_setAll_iff hn h

lemma map_get?_of_under (hn : isPlainName name) (h : under hs name = (o.map (name, ·)).toList) :
    HeaderMap.get? (HeaderMap.setAll ∅ hs) name = o := by
  have hd : Dict.get? (HeaderMap.setAll ∅ hs) name = o := by
    apply Option.ext
    intro x
    rw [← Dict.mem_entries_iff]
    have hm := mem_entries_setAll_iff hn h (e := (name, x))
    rw [and_iff_left (Text.sameName_refl name)] at hm
    rw [hm]
    simp
  have hf := get?_of_filter (filter_entries_setAll hn h)
  rw [Snapshot.get?] at hf
  rw [HeaderMap.get?, lower_of_plain hn, hd, hf, Option.or_self]

end Carrier

lemma Delivered.get?_and_getAll {hs : List Header} {v : HeaderView} (hv : Delivered hs v)
    {name : Text} {o : Option Text} (hn : isPlainName name)
    (h : under hs name = (o.map (name, ·)).toList) :
    v.get? name = o ∧ v.getAll name = o.toList := by
  cases hv with
  | list =>
    have hf := filter_sameName_of_under h
    exact ⟨get?_of_filter hf, getAll_of_filter hf⟩
  | map =>
    have hg := map_get?_of_under hn h
    exact ⟨hg, congrArg Option.toList hg⟩
  | walk hp =>
    have hf := eq_toList_of_perm ((hp.filter _).trans (.of_eq (filter_entries_setAll hn h)))
    exact ⟨get?_of_filter hf, getAll_of_filter hf⟩
  | byteWalk hp =>
    have hf := eq_toList_of_perm (((ofBytes_perm hp).filter _).trans
      (.of_eq (filter_entries_setAll hn h)))
    exact ⟨get?_of_filter hf, getAll_of_filter hf⟩

structure LowerHeaders (hs : List Header) : Prop where
  lower : ∀ n ∈ hs.map (·.1), Text.lower n = n
  nodup : (hs.map (·.1)).Nodup

namespace LowerHeaders

variable {hs es : List Header}

lemma of_perm (hl : LowerHeaders hs) (h : es.Perm hs) : LowerHeaders es :=
  ⟨fun n hn => hl.lower n ((h.map _).mem_iff.mp hn), (h.map _).nodup_iff.mpr hl.nodup⟩

lemma sameName_iff (hl : LowerHeaders hs) {m n : Text} (hm : m ∈ hs.map (·.1))
    (hn : n ∈ hs.map (·.1)) : Text.sameName m n ↔ m = n := by
  rw [Text.sameName, asciiLower_of_lower (hl.lower m hm), asciiLower_of_lower (hl.lower n hn),
    beq_iff_eq]

lemma names_snapshot (hl : LowerHeaders hs) : Snapshot.names ⟨hs⟩ = hs.map (·.1) := by
  apply eraseDupsBy_eq_self
  refine hl.nodup.imp_of_mem fun hm hn hne => ?_
  rw [Bool.eq_false_iff]
  exact fun h => hne ((hl.sameName_iff hn hm).mp h).symm

lemma get?_snapshot (hl : LowerHeaders hs) {e : Header} (he : e ∈ hs) :
    Snapshot.get? ⟨hs⟩ e.1 = some e.2 := by
  have hf : hs.find? (fun h => Text.sameName h.1 e.1) = hs.find? (·.1 = e.1) := by
    refine List.find?_congr fun h hh => ?_
    rw [Bool.eq_iff_iff, decide_eq_true_eq]
    exact hl.sameName_iff (List.mem_map_of_mem hh) (List.mem_map_of_mem he)
  rw [Snapshot.get?, hf]
  exact (find?_key_eq_some_iff hl.nodup).mpr he

lemma entries_setAll (hl : LowerHeaders hs) : (HeaderMap.setAll ∅ hs).entries.Perm hs := by
  have hi : ∀ h ∈ hs, (Text.lower h.1, h.2) = id h := fun h hh => by
    rw [hl.lower h.1 (List.mem_map_of_mem hh)]
    rfl
  rw [setAll_eq_ofList, List.map_congr_left hi, List.map_id]
  exact Dict.perm_ofList hl.nodup

end LowerHeaders

lemma Delivered.exists_perm {hs : List Header} {v : HeaderView} (hv : Delivered hs v)
    (hl : LowerHeaders hs) :
    ∃ es : List Header, es.Perm hs ∧ v.names = es.map (·.1) ∧ ∀ e ∈ es, v.get? e.1 = some e.2 := by
  have ht : ∀ es : List Header, es.Perm hs →
      Snapshot.names ⟨es⟩ = es.map (·.1) ∧ ∀ e ∈ es, Snapshot.get? ⟨es⟩ e.1 = some e.2 :=
    fun es h => ⟨(hl.of_perm h).names_snapshot, fun _ he => (hl.of_perm h).get?_snapshot he⟩
  cases hv with
  | list => exact ⟨hs, .refl _, ht _ (.refl _)⟩
  | map =>
    refine ⟨_, hl.entries_setAll, rfl, fun e he => ?_⟩
    have hn := (hl.of_perm hl.entries_setAll).lower e.1 (List.mem_map_of_mem he)
    change HeaderMap.get? _ e.1 = some e.2
    rw [HeaderMap.get?, hn, Dict.mem_entries_iff.mp he, Option.some_or]
  | walk h => exact ⟨_, h.trans hl.entries_setAll, ht _ (h.trans hl.entries_setAll)⟩
  | byteWalk h =>
    have hp := (ofBytes_perm h).trans hl.entries_setAll
    exact ⟨_, hp, ht _ hp⟩

structure PlainHeaders (hs : List Header) : Prop where
  plain : ∀ n ∈ hs.map (·.1), isPlainName n
  nodup : (hs.map (·.1)).Nodup

def valueUnder (hs : List Header) (name : Text) : Option Text :=
  (hs.find? (·.1 = name)).map (·.2)

section ValueUnder

variable {hs : List Header} {name : Text}

lemma valueUnder_cons_self (x : Text) : valueUnder ((name, x) :: hs) name = some x := by
  rw [valueUnder, List.find?_cons_of_pos (by simp), Option.map_some]

lemma valueUnder_cons_of_ne {n : Text} (h : n ≠ name) (x : Text) :
    valueUnder ((n, x) :: hs) name = valueUnder hs name := by
  rw [valueUnder, List.find?_cons_of_neg (by simpa using h), valueUnder]

lemma valueUnder_of_notMem (h : name ∉ hs.map (·.1)) : valueUnder hs name = none := by
  rw [valueUnder, Option.map_eq_none_iff, List.find?_eq_none]
  intro e he hn
  exact h (List.mem_map.mpr ⟨e, he, of_decide_eq_true hn⟩)

end ValueUnder

namespace PlainHeaders

variable {hs : List Header}

lemma of_sublist (ns : List Text) (h : (hs.map (·.1)).Sublist ns) (hn : ∀ n ∈ ns, isPlainName n)
    (hd : ns.Nodup) : PlainHeaders hs :=
  ⟨fun n hm => hn n (h.subset hm), h.nodup hd⟩

lemma under_eq (hp : PlainHeaders hs) {name : Text} (hn : isPlainName name) :
    under hs name = ((valueUnder hs name).map (name, ·)).toList := by
  apply filter_eq_toList hp.nodup.of_map
  rintro ⟨n, x⟩
  rw [Option.map_eq_some_iff]
  constructor
  · rintro ⟨hm, hs⟩
    rw [similar_of_plain (hp.plain n (List.mem_map_of_mem hm)) hn, decide_eq_true_eq] at hs
    subst hs
    exact ⟨x, (find?_key_eq_some_iff hp.nodup).mpr hm, rfl⟩
  · rintro ⟨y, hy, he⟩
    obtain ⟨rfl, rfl⟩ := Prod.mk.inj he
    refine ⟨(find?_key_eq_some_iff hp.nodup).mp hy, ?_⟩
    rw [similar_of_plain hn hn, decide_eq_true rfl]

end PlainHeaders

def Shows (v : HeaderView) (hs : List Header) (names : List Text) : Prop :=
  ∀ n ∈ names, v.get? n = valueUnder hs n ∧ v.getAll n = (valueUnder hs n).toList

lemma Delivered.shows {hs own : List Header} {v : HeaderView} (hv : Delivered hs v)
    (hp : PlainHeaders own) {names : List Text}
    (h : ∀ n ∈ names, isPlainName n ∧ under hs n = under own n) : Shows v own names := by
  intro n hn
  obtain ⟨hm, hu⟩ := h n hn
  exact hv.get?_and_getAll hm (hu.trans (hp.under_eq hm))

lemma Delivered.shows_self {hs : List Header} {v : HeaderView} (hv : Delivered hs v)
    (hp : PlainHeaders hs) {names : List Text} (hn : ∀ n ∈ names, isPlainName n) :
    Shows v hs names :=
  hv.shows hp fun n hm => ⟨hn n hm, rfl⟩

end TraceHeaders
