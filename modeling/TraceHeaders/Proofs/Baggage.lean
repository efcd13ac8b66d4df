import TraceHeaders.Format.Baggage
import TraceHeaders.Proofs.Delivery

namespace TraceHeaders.Baggage

variable {start name : Text} {d : Dict Text}

lemma prefix_of_mem_inject {h : Header} (hh : h ∈ inject (start ++ ·) d) : start <+: h.1 := by
  obtain ⟨e, -, rfl⟩ := List.mem_map.mp hh
  exact List.prefix_append start e.1

lemma under_inject (hs : isPlainName start) (hn : isPlainName name) (hp : ¬ start <+: name) :
    under (inject (start ++ ·) d) name = [] := by
  apply under_eq_nil
  intro e he
  rw [Bool.eq_false_iff]
  exact fun h => hp (prefix_of_similar hn hs (prefix_of_mem_inject he) h)

lemma value_decodeEntry (e : Text × Text) :
    (decodeEntry (e.1, Text.Percent.encode e.2)).value = e := by
  rw [decodeEntry, decode, Text.Percent.decode_encode]
  rfl

lemma found_perm (key? : Text → Option Text) {hs : List Header} {v : HeaderView}
    (hv : Delivered hs v) (hl : LowerHeaders hs) :
    (found key? v).Perm (hs.filterMap fun h => (key? h.1).map (·, h.2)) := by
  obtain ⟨es, hp, hn, hg⟩ := hv.exists_perm hl
  have hf : found key? v = es.filterMap fun h => (key? h.1).map (·, h.2) := by
    rw [found, hn, List.filterMap_map]
    refine List.filterMap_congr fun e he => ?_
    have hk := (hl.of_perm hp).lower e.1 (List.mem_map_of_mem he)
    rw [Function.comp_apply, hk, hg e he]
    cases key? e.1 <;> rfl
  rw [hf]
  exact hp.filterMap _

lemma value_extract_delivered {key? : Text → Option Text} {hs : List Header} {v : HeaderView}
    (hv : Delivered hs v) (hl : LowerHeaders hs)
    (hd : hs.filterMap (fun h => (key? h.1).map (·, h.2)) =
      d.entries.map fun e => (e.1, Text.Percent.encode e.2)) :
    (extract key? v).value = d := by
  have hm : (d.entries.map fun e => (e.1, Text.Percent.encode e.2)).map
      (fun e => (decodeEntry e).value) = d.entries := by
    rw [List.map_map]
    exact (List.map_congr_left fun e _ => value_decodeEntry e).trans (List.map_id _)
  have hp := (found_perm key? hv hl).map fun e => (decodeEntry e).value
  rw [hd, hm] at hp
  rw [extract, Logged.value_bind, Logged.value_mapM]
  exact Dict.ofList_of_perm hp

structure Apart (key? : Text → Option Text) (label : Text → Text) (names : List Text)
    (d : Dict Text) : Prop where
  names : ∀ n ∈ names, isPlainName n ∧ key? n = none
  key : ∀ e ∈ d.entries, key? (label e.1) = some e.1
  lower : ∀ e ∈ d.entries, Text.lower (label e.1) = label e.1

namespace Apart

variable {key? : Text → Option Text} {label : Text → Text} {names : List Text} {own : List Header}
  {v : HeaderView}

lemma ne_label (h : Apart key? label names d) {n : Text} (hn : n ∈ names) {e : Text × Text}
    (he : e ∈ d.entries) : label e.1 ≠ n := by
  rintro rfl
  exact absurd ((h.names _ hn).2.symm.trans (h.key e he)) (Option.some_ne_none e.1).symm

lemma lowerHeaders (h : Apart key? label names d) (hp : PlainHeaders own)
    (ho : own.map (·.1) ⊆ names) : LowerHeaders (own ++ inject label d) := by
  have hm : (inject label d).map (·.1) = d.entries.map fun e => label e.1 := by
    rw [inject, List.map_map]
    rfl
  have hi : (d.entries.map fun e => label e.1).Nodup := by
    refine List.Nodup.map_on (fun a ha b hb hl => ?_) d.nodup_keys.of_map
    have hk : a.1 = b.1 := by
      have hs := h.key a ha
      rw [hl, h.key b hb] at hs
      exact (Option.some.inj hs).symm
    exact List.inj_on_of_nodup_map d.nodup_keys ha hb hk
  constructor
  · intro n hn
    rw [List.map_append, List.mem_append, hm] at hn
    obtain hn | hn := hn
    · exact lower_of_plain (hp.plain n hn)
    · obtain ⟨e, he, rfl⟩ := List.mem_map.mp hn
      exact h.lower e he
  · rw [List.map_append, hm, List.nodup_append]
    refine ⟨hp.nodup, hi, ?_⟩
    rintro n hn _ hl rfl
    obtain ⟨e, he, rfl⟩ := List.mem_map.mp hl
    exact h.ne_label (ho hn) he rfl

lemma value_extract_beside (h : Apart key? label names d) (hp : PlainHeaders own)
    (ho : own.map (·.1) ⊆ names) (hv : Delivered (own ++ inject label d) v) :
    (extract key? v).value = d := by
  apply value_extract_delivered hv (h.lowerHeaders hp ho)
  have hh : own.filterMap (fun e => (key? e.1).map (·, e.2)) = [] := by
    rw [List.filterMap_eq_nil_iff]
    intro e he
    rw [(h.names e.1 (ho (List.mem_map_of_mem he))).2, Option.map_none]
  have hb : ∀ e ∈ d.entries, (key? (label e.1)).map (·, Text.Percent.encode e.2) =
      some (e.1, Text.Percent.encode e.2) := by
    intro e he
    rw [h.key e he, Option.map_some]
  rw [List.filterMap_append, hh, List.nil_append, inject, List.filterMap_map,
    ← List.filterMap_eq_map]
  exact List.filterMap_congr hb

lemma shows (h : Apart key? label names d) (hp : PlainHeaders own)
    (hv : Delivered (own ++ inject label d) v) : Shows v own names := by
  refine hv.shows hp fun n hn => ⟨(h.names n hn).1, ?_⟩
  have hu : under (inject label d) n = [] := by
    apply under_eq_nil
    intro b hb
    obtain ⟨e, he, rfl⟩ := List.mem_map.mp hb
    rw [similar_of_lower (h.lower e he) (h.names n hn).1, decide_eq_false_iff_not]
    exact h.ne_label hn he
  rw [under_append, hu, List.append_nil]

end Apart

end TraceHeaders.Baggage
