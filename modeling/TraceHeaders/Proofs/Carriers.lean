import TraceHeaders.Proofs.Alike
import TraceHeaders.Proofs.Delivery

namespace TraceHeaders

section Map

variable {m : HeaderMap} {es : List Header} {name : Text}

structure HeaderMap.Distinct (m : HeaderMap) : Prop where
  ascii : AsciiNames m.entries
  nodup : (m.entries.map fun e => Text.lower e.1).Nodup

namespace HeaderMap.Distinct

lemma eq_of_sameName (h : m.Distinct) {a b : Header} (ha : a ∈ m.entries) (hb : b ∈ m.entries)
    (hs : Text.sameName a.1 b.1) : a = b := by
  have hl : Text.lower a.1 = Text.lower b.1 := by
    rw [lower_of_isAscii (h.ascii a ha), lower_of_isAscii (h.ascii b hb)]
    exact eq_of_beq hs
  exact List.inj_on_of_nodup_map h.nodup ha hb hl

lemma find?_eq_some_iff (h : m.Distinct) {e : Header} :
    m.entries.find? (fun d => Text.sameName d.1 name) = some e ↔
      e ∈ m.entries ∧ Text.sameName e.1 name := by
  apply find?_eq_some_iff_of_unique
  intro a ha b hb hn hm
  exact h.eq_of_sameName ha hb (Text.sameName_trans hn (Text.sameName_comm name b.1 ▸ hm))

lemma get?_eq (h : m.Distinct) (hn : name.isAscii) :
    get? m name = (m.entries.find? fun d => Text.sameName d.1 name).map (·.2) := by
  cases hd : Dict.get? m (Text.lower name) with
  | none => rw [get?, hd, Option.none_or]
  | some x =>
    have hs : Text.sameName (Text.lower name) name := by
      rw [lower_of_isAscii hn, Text.sameName, asciiLower_asciiLower hn]
      exact beq_self_eq_true _
    rw [get?, hd, Option.some_or, h.find?_eq_some_iff.mpr ⟨Dict.mem_entries_iff.mpr hd, hs⟩]
    rfl

lemma getAll_eq (h : m.Distinct) (hp : es.Perm m.entries) (hn : name.isAscii) :
    getAll m name = Snapshot.getAll ⟨es⟩ name := by
  have hf : es.filter (fun d => Text.sameName d.1 name) =
      (m.entries.find? fun d => Text.sameName d.1 name).toList := by
    apply filter_eq_toList (hp.nodup_iff.mpr m.nodup_keys.of_map)
    intro e
    rw [h.find?_eq_some_iff, hp.mem_iff]
  rw [getAll, h.get?_eq hn, Snapshot.getAll, hf]
  cases m.entries.find? fun d => Text.sameName d.1 name <;> rfl

lemma names_eq (h : m.Distinct) (hp : es.Perm m.entries) :
    Snapshot.names ⟨es⟩ = es.map (·.1) := by
  apply eraseDupsBy_eq_self
  rw [List.pairwise_map]
  refine (hp.nodup_iff.mpr m.nodup_keys.of_map).imp_of_mem fun ha hb hne => ?_
  rw [Bool.eq_false_iff]
  exact fun hs => hne (h.eq_of_sameName (hp.mem_iff.mp hb) (hp.mem_iff.mp ha) hs).symm

end HeaderMap.Distinct

def HeaderMap.walkedView (m : HeaderMap) (es : List Header) : HeaderView :=
  { view m with names := es.map (·.1) }

namespace HeaderMap.Distinct

lemma get?_walkedView (h : m.Distinct) (hp : es.Perm m.entries) (hn : name.isAscii) :
    (walkedView m es).get? name = (Snapshot.view ⟨es⟩).get? name := by
  change get? m name = Snapshot.get? ⟨es⟩ name
  rw [Snapshot.get?_eq_head?, ← h.getAll_eq hp hn, getAll]
  cases get? m name <;> rfl

lemma found_walkedView (h : m.Distinct) (hp : es.Perm m.entries) (key? : Text → Option Text) :
    Baggage.found key? (walkedView m es) = Baggage.found key? (Snapshot.view ⟨es⟩) := by
  have hn : (Snapshot.view ⟨es⟩).names = (walkedView m es).names := h.names_eq hp
  rw [Baggage.found, Baggage.found, hn]
  refine List.filterMap_congr fun name hm => ?_
  obtain ⟨e, he, rfl⟩ := List.mem_map.mp hm
  rw [h.get?_walkedView hp (h.ascii e (hp.mem_iff.mp he))]

lemma alike_walkedView (h : m.Distinct) (hp : es.Perm m.entries) :
    Alike (walkedView m es) (Snapshot.view ⟨es⟩) where
  get? _ hn := h.get?_walkedView hp hn
  getAll _ hn := h.getAll_eq hp hn
  found key? := .of_eq (h.found_walkedView hp key?)

lemma sameBaggage_walkedView (h : m.Distinct) (hp : es.Perm m.entries) (s : Settings)
    (styles : List Style) : SameBaggage s styles (walkedView m es) (Snapshot.view ⟨es⟩) := by
  constructor
  · intro _
    rw [Datadog.extractBaggage, Datadog.extractBaggage, Baggage.extract, Baggage.extract,
      h.found_walkedView hp]
  · intro _
    rw [Baggage.extract, Baggage.extract, h.found_walkedView hp]

end HeaderMap.Distinct

theorem Settings.value_extract_walkedView (s : Settings) (style : Style) (h : m.Distinct)
    (hp : es.Perm m.entries) :
    ((s.codec style).extract (HeaderMap.walkedView m es)).value =
      ((s.codec style).extract (Snapshot.view ⟨es⟩)).value :=
  value_extract_alike (h.alike_walkedView hp) (h.sameBaggage_walkedView hp s [style])
    List.mem_cons_self

def mixedMap : HeaderMap :=
  .ofList [("Trace-ID".toList, "00000000-0000-0000-0000-000000000005".toList),
    ("span-Id".toList, "00000000-0000-0000-0000-000000000007".toList),
    ("X-User".toList, "u".toList), ("Baggage-Key".toList, "%20v".toList),
    ("User-Agent".toList, "a".toList)]

theorem Settings.value_extract_walkedView_mixedMap :
    let es := mixedMap.entries.reverse
    mixedMap.Distinct ∧ es.Perm mixedMap.entries ∧
      ((mixedSettings.codec .haystack).extract (HeaderMap.walkedView mixedMap es)).value.isSome ∧
      ((mixedSettings.codec .haystack).extract (HeaderMap.walkedView mixedMap es)).value =
        ((mixedSettings.codec .haystack).extract (Snapshot.view ⟨es⟩)).value := by
  intro es
  have h : mixedMap.Distinct := ⟨by unfold AsciiNames; decide, by decide⟩
  have hp : es.Perm mixedMap.entries := List.reverse_perm _
  exact ⟨h, hp, by decide, value_extract_walkedView mixedSettings .haystack h hp⟩

end Map

section Bytes

namespace Text

lemma charBytes_eq_utf8EncodeChar (c : Char) : charBytes c = String.utf8EncodeChar c := by
  -- Only for a valid character is the first of four bytes not cut off.
  have hv : c.toNat < 0x110000 := by
    obtain h | h := c.valid
    · exact Nat.lt_trans h (by decide)
    · exact h.2
  have hc : c.val.toNat = c.toNat := rfl
  simp only [charBytes, String.utf8EncodeChar, hc, Nat.le_iff_lt_add_one, Nat.reduceAdd]
  generalize c.toNat = v at hv
  split_ifs with h1 h2 h3
  · rfl
  · rw [Nat.mod_eq_of_lt (by omega : v / 64 < 32), Nat.add_comm (v / 64), Nat.add_comm (v % 64)]
  · rw [Nat.mod_eq_of_lt (by omega : v / 4096 < 16), Nat.add_comm (v / 4096),
      Nat.add_comm (v / 64 % 64), Nat.add_comm (v % 64)]
  · rw [Nat.mod_eq_of_lt (by omega : v / 262144 < 8), Nat.add_comm (v / 262144),
      Nat.add_comm (v / 4096 % 64), Nat.add_comm (v / 64 % 64), Nat.add_comm (v % 64)]

def utf8 (t : Text) : List UInt8 := (String.ofList t).toUTF8.data.toList

lemma bytes_eq_utf8 (t : Text) : bytes t = utf8 t := by
  rw [utf8, String.toUTF8_eq_toByteArray, String.toByteArray_ofList, List.utf8Encode,
    List.data_toByteArray, List.toList_toArray, bytes, funext charBytes_eq_utf8EncodeChar]

end Text

lemma Snapshot.ofBytes_utf8 (hs : List Header) :
    ofBytes (hs.map fun h => (h.1, Text.utf8 h.2)) = ⟨hs⟩ := by
  have hm : ∀ h : Header, (h.1, Text.ofBytesLossy (Text.utf8 h.2)) = h := by
    intro h
    rw [← Text.bytes_eq_utf8, Text.ofBytesLossy_bytes]
  rw [ofBytes, List.map_map]
  exact congrArg Snapshot.mk (List.map_id'' hm hs)

end Bytes

section Streams

lemma Settings.value_extract_nil (s : Settings) (style : Style) :
    ((s.codec style).extract (Snapshot.view ⟨[]⟩)).value = none := by
  cases style <;> rfl

lemma Reconcile.value_run_of_silent {v : HeaderView} {rs : List Registration}
    (h : ∀ r ∈ rs, (r.2.extract v).value = none) (first : Bool) :
    (run first v {} rs).value = none := by
  induction rs with
  | nil => rfl
  | cons r rs ih =>
    obtain ⟨hr, hrs⟩ := List.forall_mem_cons.mp h
    rw [run, Logged.value_bind, Logged.value_bind, hr]
    exact ih hrs

lemma Extractor.value_extract_nil (s : Settings) :
    ((ofSettings s).value.extract ⟨[]⟩).value = none := by
  apply Reconcile.value_run_of_silent
  intro r hr
  obtain ⟨style, -, rfl⟩ := List.mem_map.mp hr
  exact s.value_extract_nil style

theorem Extractor.extract_streams (s : Settings) (hs : List Header) :
    let e := (ofSettings s).value
    let texts := Stream.ofList hs
    let coded := Stream.ofList (hs.map fun h => (h.1, Text.utf8 h.2))
    Snapshot.mk texts.walk.1 = ⟨hs⟩ ∧ Snapshot.ofBytes coded.walk.1 = ⟨hs⟩ ∧
      (e.extractStream texts).1 = e.extract ⟨hs⟩ ∧
      (e.extractByteStream coded).1 = e.extract ⟨hs⟩ ∧
      (e.extractStream texts).2.isConsumed ∧ (e.extractByteStream coded).2.isConsumed ∧
      (e.extractStream (e.extractStream texts).2).1.value = none ∧
      (e.extractByteStream (e.extractByteStream coded).2).1.value = none := by
  intro e texts coded
  have hc : Snapshot.ofBytes coded.walk.1 = ⟨hs⟩ := Snapshot.ofBytes_utf8 hs
  refine ⟨rfl, hc, rfl, ?_, rfl, rfl, value_extract_nil s, value_extract_nil s⟩
  exact congrArg e.extract hc

end Streams

end TraceHeaders
