import TraceHeaders.Format.Baggage
import TraceHeaders.Proofs.Dict

namespace TraceHeaders

def Text.isAscii (t : Text) : Bool := t.all fun c => c.toNat < 0x80

section Ascii

variable {t : Text}

lemma lower_of_isAscii (h : t.isAscii) : Text.lower t = Text.asciiLower t :=
  Text.lower_of_ascii fun c hc => of_decide_eq_true (List.all_eq_true.mp h c hc)

lemma of_ascii {p : Char → Prop} (h : ∀ n < 0x80, p (Char.ofNat n)) {c : Char}
    (hc : c.toNat < 0x80) : p c := by
  have hn := h c.toNat hc
  rwa [Char.ofNat_toNat] at hn

lemma asciiLower_asciiLower (h : t.isAscii) :
    Text.asciiLower (Text.asciiLower t) = Text.asciiLower t := by
  rw [Text.asciiLower, Text.asciiLower, List.map_map]
  refine List.map_congr_left fun c hc => ?_
  exact of_ascii (p := fun c => c.toLower.toLower = c.toLower) (by decide)
    (of_decide_eq_true (List.all_eq_true.mp h c hc))

lemma toNat_toLower_lt_iff (c : Char) : c.toLower.toNat < 0x80 ↔ c.toNat < 0x80 := by
  by_cases hc : c.toNat < 0x80
  · exact iff_of_true (of_ascii (p := fun c => c.toLower.toNat < 0x80) (by decide) hc) hc
  · rw [Text.toLower_of_le (Nat.le_of_not_lt hc)]

@[simp]
lemma isAscii_asciiLower (t : Text) : (Text.asciiLower t).isAscii = t.isAscii := by
  simp only [Text.isAscii, Text.asciiLower, List.all_map, Function.comp_def, toNat_toLower_lt_iff]

end Ascii

section Once

lemma sublist_eraseDupsBy {α : Type} (r : α → α → Bool) (xs : List α) :
    (xs.eraseDupsBy r).Sublist xs := by
  cases xs with
  | nil => exact .slnil
  | cons x xs =>
    rw [List.eraseDupsBy_cons]
    apply List.Sublist.cons_cons
    exact (sublist_eraseDupsBy r _).trans List.filter_sublist
termination_by xs.length
decreasing_by exact Nat.lt_succ_of_le (List.length_filter_le _ _)

lemma map_eraseDupsBy {α β : Type} [BEq β] (f : α → β) (xs : List α) :
    (xs.eraseDupsBy fun a b => f a == f b).map f = (xs.map f).eraseDups := by
  cases xs with
  | nil => rfl
  | cons x xs =>
    have hf : (xs.filter fun b => decide ((f b == f x) = false)).map f =
        (xs.map f).filter fun b => !b == f x := by
      rw [List.filter_map]
      refine congrArg (List.map f) (List.filter_congr fun b _ => ?_)
      rw [Function.comp_apply]
      cases f b == f x <;> rfl
    rw [List.eraseDupsBy_cons, List.map_cons, List.map_cons, List.eraseDups_cons, ← hf,
      map_eraseDupsBy f]
termination_by xs.length
decreasing_by exact Nat.lt_succ_of_le (List.length_filter_le _ _)

end Once

def SameValues (hs es : List Header) : Prop :=
  ∀ name, (hs.filter fun h => Text.sameName h.1 name).map (·.2) =
    (es.filter fun h => Text.sameName h.1 name).map (·.2)

lemma sameValues_iff {hs es : List Header} :
    SameValues hs es ↔ ∀ name ∈ (hs ++ es).map (·.1),
      (hs.filter fun h => Text.sameName h.1 name).map (·.2) =
        (es.filter fun h => Text.sameName h.1 name).map (·.2) := by
  constructor
  · exact fun h name _ => h name
  · intro h name
    by_cases hn : ∃ n ∈ (hs ++ es).map (·.1), Text.sameName n name
    · obtain ⟨n, hm, hn⟩ := hn
      have hs := h n hm
      simpa only [Text.sameName, eq_of_beq hn] using hs
    · -- Under a name that does not occur both lists have nothing.
      have hf : ∀ ds : List Header, ds ⊆ hs ++ es →
          ds.filter (fun h => Text.sameName h.1 name) = [] := by
        intro ds hd
        rw [List.filter_eq_nil_iff]
        exact fun e he hs => hn ⟨e.1, List.mem_map_of_mem (hd he), hs⟩
      rw [hf hs (List.subset_append_left hs es), hf es (List.subset_append_right hs es)]

instance (hs es : List Header) : Decidable (SameValues hs es) :=
  decidable_of_iff _ sameValues_iff.symm

def AsciiNames (hs : List Header) : Prop := ∀ h ∈ hs, h.1.isAscii

namespace Snapshot

variable {hs es : List Header} {name : Text}

def lowerNames (hs : List Header) : List Text := (names ⟨hs⟩).map Text.asciiLower

lemma exists_of_mem_names (h : name ∈ names ⟨hs⟩) : ∃ e ∈ hs, e.1 = name :=
  List.mem_map.mp ((sublist_eraseDupsBy Text.sameName _).subset h)

lemma lowerNames_eq (hs : List Header) :
    lowerNames hs = (hs.map fun h => Text.asciiLower h.1).eraseDups := by
  have hm : (hs.map fun h => Text.asciiLower h.1) = (hs.map (·.1)).map Text.asciiLower :=
    (List.map_map ..).symm
  rw [hm]
  exact map_eraseDupsBy Text.asciiLower _

lemma mem_lowerNames_iff {n : Text} : n ∈ lowerNames hs ↔ ∃ h ∈ hs, Text.asciiLower h.1 = n := by
  rw [lowerNames_eq, List.mem_eraseDups, List.mem_map]

lemma nodup_lowerNames (hs : List Header) : (lowerNames hs).Nodup := by
  rw [lowerNames_eq]
  exact nodup_eraseDups _

lemma get?_asciiLower (h : name.isAscii) : get? ⟨hs⟩ (Text.asciiLower name) = get? ⟨hs⟩ name := by
  simp only [get?, Text.sameName, asciiLower_asciiLower h]

lemma found_eq (ha : AsciiNames hs) (key? : Text → Option Text) :
    Baggage.found key? (view ⟨hs⟩) =
      (lowerNames hs).filterMap fun n => (key? n).bind fun key => (get? ⟨hs⟩ n).map (key, ·) := by
  rw [Baggage.found, lowerNames, List.filterMap_map]
  refine List.filterMap_congr fun name hn => ?_
  obtain ⟨h, hh, rfl⟩ := exists_of_mem_names hn
  have hi := ha h hh
  rw [Function.comp_apply, lower_of_isAscii hi, get?_asciiLower hi]
  rfl

end Snapshot

namespace SameValues

open Snapshot

variable {hs es : List Header}

lemma symm (h : SameValues hs es) : SameValues es hs := fun name => (h name).symm

lemma getAll (h : SameValues hs es) (name : Text) :
    Snapshot.getAll ⟨hs⟩ name = Snapshot.getAll ⟨es⟩ name := h name

lemma get? (h : SameValues hs es) (name : Text) :
    Snapshot.get? ⟨hs⟩ name = Snapshot.get? ⟨es⟩ name := by
  rw [get?_eq_head?, get?_eq_head?, h.getAll]

lemma exists_sameName (h : SameValues hs es) {a : Header} (ha : a ∈ hs) :
    ∃ b ∈ es, Text.sameName b.1 a.1 := by
  have hm : a.2 ∈ (hs.filter fun e => Text.sameName e.1 a.1).map (·.2) :=
    List.mem_map_of_mem (List.mem_filter.mpr ⟨ha, Text.sameName_refl a.1⟩)
  rw [h a.1] at hm
  obtain ⟨b, hb, -⟩ := List.mem_map.mp hm
  exact ⟨b, List.mem_filter.mp hb⟩

lemma lowerNames_subset (h : SameValues hs es) : lowerNames hs ⊆ lowerNames es := by
  intro n hn
  obtain ⟨a, ha, rfl⟩ := mem_lowerNames_iff.mp hn
  obtain ⟨b, hb, hs⟩ := h.exists_sameName ha
  exact mem_lowerNames_iff.mpr ⟨b, hb, eq_of_beq hs⟩

lemma lowerNames_perm (h : SameValues hs es) : (lowerNames hs).Perm (lowerNames es) := by
  rw [List.perm_ext_iff_of_nodup (nodup_lowerNames hs) (nodup_lowerNames es)]
  exact fun n => ⟨fun hn => h.lowerNames_subset hn, fun hn => h.symm.lowerNames_subset hn⟩

lemma found_perm (h : SameValues hs es) (hh : AsciiNames hs) (he : AsciiNames es)
    (key? : Text → Option Text) :
    (Baggage.found key? (view ⟨hs⟩)).Perm (Baggage.found key? (view ⟨es⟩)) := by
  rw [found_eq hh, found_eq he, funext h.get?]
  exact h.lowerNames_perm.filterMap _

end SameValues

def Unambiguous (key? : Text → Option Text) (hs : List Header) : Prop :=
  ∀ h ∈ hs, ∀ e ∈ hs, (key? (Text.lower h.1)).isSome →
    key? (Text.lower h.1) = key? (Text.lower e.1) → Text.sameName h.1 e.1

lemma Unambiguous.nodup_found {key? : Text → Option Text} {hs : List Header}
    (hu : Unambiguous key? hs) (ha : AsciiNames hs) :
    ((Baggage.found key? (Snapshot.view ⟨hs⟩)).map (·.1)).Nodup := by
  have hk : ∀ h ∈ hs, ∀ x, ((key? (Text.asciiLower h.1)).bind fun key =>
      (Snapshot.get? ⟨hs⟩ (Text.asciiLower h.1)).map (key, ·)).map (·.1) = some x →
      key? (Text.lower h.1) = some x := by
    intro h hh x hx
    rw [lower_of_isAscii (ha h hh)]
    obtain ⟨p, hp, rfl⟩ := Option.map_eq_some_iff.mp hx
    obtain ⟨key, hkey, hp⟩ := Option.bind_eq_some_iff.mp hp
    obtain ⟨y, -, rfl⟩ := Option.map_eq_some_iff.mp hp
    exact hkey
  rw [Snapshot.found_eq ha, List.map_filterMap, List.Nodup, List.pairwise_filterMap]
  refine (Snapshot.nodup_lowerNames hs).imp_of_mem ?_
  rintro m n hm hn hne x hx _ hy rfl
  obtain ⟨h, hh, rfl⟩ := Snapshot.mem_lowerNames_iff.mp hm
  obtain ⟨e, he, rfl⟩ := Snapshot.mem_lowerNames_iff.mp hn
  have hh' := hk h hh x hx
  have he' := hk e he x hy
  exact hne (eq_of_beq (hu h hh e he (by rw [hh', Option.isSome_some]) (hh'.trans he'.symm)))

end TraceHeaders
