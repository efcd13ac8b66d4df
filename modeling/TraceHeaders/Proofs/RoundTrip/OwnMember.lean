import TraceHeaders.Proofs.TraceState.Length
import TraceHeaders.Proofs.TraceState.Settled

namespace TraceHeaders

namespace TraceState

variable {c : Context} {es ds : List (Text × Text)} {t : Text}

section Room

def memberWith (c : Context) (es : List (Text × Text)) : Text :=
  Fields.join (ownBase c) (tagTexts es)

/-- The tags in their order, up to the first one with which the own member would be too long. -/
structure Fills (c : Context) (es : List (Text × Text)) : Prop where
  start : es <+: c.tagSet.tags.entries
  fits : ∀ ds, ds <+: es → ds ≠ [] → Text.byteLength (memberWith c ds) ≤ 256
  full : ∀ e, es ++ [e] <+: c.tagSet.tags.entries →
    256 < Text.byteLength (memberWith c (es ++ [e]))

lemma Fills.eq_of_isPrefix (h : Fills c es) (k : Fills c ds) (hp : es <+: ds) : es = ds := by
  obtain ⟨rest, rfl⟩ := hp
  cases rest with
  | nil => rw [List.append_nil]
  | cons e rest =>
    have hd : es ++ [e] <+: es ++ e :: rest := ⟨rest, by simp⟩
    have hf := k.fits _ hd (by simp)
    have hl := h.full e (hd.trans k.start)
    omega

lemma Fills.unique (h : Fills c es) (k : Fills c ds) : es = ds := by
  obtain hp | hp := List.prefix_or_prefix_of_prefix h.start k.start
  · exact h.eq_of_isPrefix k hp
  · exact (k.eq_of_isPrefix h hp).symm

lemma byteLength_memberWith_le (h : ds <+: es) :
    Text.byteLength (memberWith c ds) ≤ Text.byteLength (memberWith c es) := by
  rw [memberWith, memberWith, Fields.byteLength_join, Fields.byteLength_join]
  exact Nat.add_le_add_left (Fields.extent_sublist (h.sublist.filterMap _)) _

lemma append_singleton_not_isPrefix (es : List (Text × Text)) (e : Text × Text) :
    ¬ es ++ [e] <+: es := by
  intro h
  have hl := h.length_le
  rw [List.length_append, List.length_singleton] at hl
  omega

lemma fills_entries (h : Text.byteLength (memberWith c c.tagSet.tags.entries) ≤ 256) :
    Fills c c.tagSet.tags.entries where
  start := List.prefix_refl _
  fits _ hd _ := (byteLength_memberWith_le hd).trans h
  full e he := absurd he (append_singleton_not_isPrefix _ e)

lemma Settled.prefix_kept (h : Settled c) (hd : ds <+: c.tagSet.tags.entries)
    (hl : Text.byteLength (memberWith c ds) ≤ 256) : ds <+: kept c := by
  have ht := List.prefix_iff_eq_take.mp hd
  rw [memberWith, Fields.byteLength_join, ht, tagTexts_take h.tags] at hl
  have hn : ds.length ≤ (tagTexts c.tagSet.tags.entries).length := by
    rw [length_tagTexts h.tags]
    exact hd.length_le
  rw [ht, kept]
  exact List.take_prefix_take_left (Fields.le_fitting hn hl)

lemma Settled.fills_kept (h : Settled c) : Fills c (kept c) where
  start := List.take_prefix _ _
  fits ds hd hn := by
    -- Without any tag the member can be too long already, and then none is written.
    have hb : Text.byteLength (ownBase c) ≤ ownLimit := by
      by_contra hb
      have hk : kept c = [] := by
        rw [kept, Fields.fitting_eq_zero (Nat.lt_of_not_le hb), List.take_zero]
      rw [hk, List.prefix_nil] at hd
      exact hn hd
    refine (byteLength_memberWith_le hd).trans ?_
    rw [memberWith, ← h.writtenTags_eq_kept, ← value_ownMember]
    exact byteLength_ownMember_le_iff.mpr hb
  full e he := by
    by_contra hl
    exact append_singleton_not_isPrefix _ e (h.prefix_kept he (Nat.le_of_not_lt hl))

end Room

section Portable

structure PortableValue (t : Text) : Prop where
  chars : ∀ ch ∈ t, isPrintableAscii ch ∧ ch ∉ [',', ';', '~']
  last : t.getLast? ≠ some ' '

structure Portable (c : Context) : Prop where
  start : ∀ e ∈ c.tagSet.tags.entries, TagSet.keyStart <+: e.1
  key : ∀ e ∈ c.tagSet.tags.entries, ∀ ch ∈ e.1.drop TagSet.keyStart.length,
    isPrintableAscii ch ∧ ch ∉ [' ', ',', '=', ':', ';']
  value : ∀ e ∈ c.tagSet.tags.entries, PortableValue e.2
  origin : ∀ o, c.origin = some o → PortableValue o

lemma PortableValue.received_eq (h : PortableValue t) : received t = t := by
  have hs : sanitize isValueChar t = t := by
    refine sanitize_eq_self fun ch hc => ?_
    obtain ⟨hp, hn⟩ := h.chars ch hc
    simpa [isValueChar, hp, and_assoc] using hn
  rw [received, hs, Text.trimRight_eq_rdropWhile, List.rdropWhile_eq_self_iff]
  intro hn hb
  -- The last character is printable, and the only printable one that is blank is the space.
  have hp := (h.chars _ (List.getLast_mem hn)).1
  have hl := h.last
  rw [List.getLast?_eq_getLast_of_ne_nil hn] at hl
  simp only [isPrintableAscii, Bool.and_eq_true, decide_eq_true_eq] at hp
  have hz : (t.getLast hn).toNat ≠ 0x20 := fun hz => hl (congrArg some (Char.toNat_inj.mp hz))
  rw [Text.not_blank_of_toNat (by omega) (by omega)] at hb
  cases hb

lemma Portable.settled (h : Portable c) : Settled c where
  tags e he := by
    obtain ⟨suffix, hs⟩ := h.start e he
    have hk := h.key e he
    rw [← hs, List.drop_left] at hk
    refine ⟨⟨suffix, hs.symm, fun hc => ?_, fun hc => ?_, sanitize_eq_self fun ch hc => ?_⟩,
      (h.value e he).received_eq⟩
    · exact absurd (hk _ hc).2 (by decide)
    · exact absurd (hk _ hc).2 (by decide)
    · obtain ⟨hp, hn⟩ := hk ch hc
      simp only [List.mem_cons, List.not_mem_nil, not_or, or_false] at hn
      simp [isKeyChar, hp, hn]
  origin o ho := (h.origin o ho).received_eq

end Portable

end TraceState

namespace TraceContext

open TraceState (Fills Portable memberWith)

variable {c : Context} {v : HeaderView}

/-- The origin comes back, and with it exactly the tags that fill the own member. -/
theorem extract_inject_tags (h : Sendable c) (hp : Portable c) (hv : Delivered (inject c).value v) :
    ∃ parent state r, (inject c).value = [(parentName, parent), (stateName, state)] ∧
      (extract v).value = some (.complete r) ∧
      r.origin = c.origin ∧
      (state.splitOn ',').head? = some (memberWith c r.tagSet.tags.entries) ∧
      (∀ es, Fills c es ↔ es = r.tagSet.tags.entries) ∧
      (Text.byteLength (memberWith c c.tagSet.tags.entries) ≤ 256 →
        r.tagSet.tags = c.tagSet.tags) := by
  have hs := hp.settled
  have hi := (value_inject c).trans (headers_eq h.traceId h.spanId)
  obtain ⟨p, -, -, -, he⟩ := h.exists_extract hv
  rw [hs.value_readAll] at he
  refine ⟨_, _, _, hi, he, rfl, ?_, fun es => ⟨fun hf => ?_, ?_⟩, fun hl => ?_⟩
  · rw [TraceState.splitOn_encode, TraceState.value_ownMember, hs.writtenTags_eq_kept]
    rfl
  · exact hf.unique hs.fills_kept
  · rintro rfl
    exact hs.fills_kept
  · apply Dict.ext_entries
    exact hs.fills_kept.unique (TraceState.fills_entries hl)

def overfullContext : Context where
  traceId := .wide 1 5
  spanId := 7
  style := .datadog
  sampling := .ofPriority (-1)
  origin := some "a=b: c".toList
  tagSet :=
    { tags := .ofList
        [("_dd.p.a~b".toList, []), ("_dd.p.dm".toList, "-4".toList),
          ("_dd.p.u".toList, " x=y:z".toList), ("_dd.p.w".toList, .replicate 200 'w'),
          ("_dd.p.x".toList, ['x'])]
      traceState := some "v=1,dd=s:0".toList }

lemma sendable_overfullContext : Sendable overfullContext where
  traceId := by decide
  spanId := by decide
  printable := by
    intro t ht
    obtain rfl := Option.some.inj ht
    exact Text.forall_mem_of_all (by decide)

set_option maxRecDepth 10000 in
lemma portable_overfullContext : Portable overfullContext where
  start := by decide
  key := by
    intro e he
    apply Text.forall_mem_of_all
    revert e
    decide
  value := by
    have hc : ∀ e ∈ overfullContext.tagSet.tags.entries,
        e.2.all fun ch => TraceState.isPrintableAscii ch ∧ ch ∉ [',', ';', '~'] := by
      decide
    have hl : ∀ e ∈ overfullContext.tagSet.tags.entries, e.2.getLast? ≠ some ' ' := by
      decide
    exact fun e he => ⟨Text.forall_mem_of_all (hc e he), hl e he⟩
  origin := by
    intro o ho
    obtain rfl := Option.some.inj ho
    exact ⟨Text.forall_mem_of_all (by decide), by decide⟩

set_option maxRecDepth 10000 in
theorem extract_inject_tags_overfullContext :
    let c := overfullContext
    let v := HeaderMap.view (HeaderMap.setAll ∅ (inject c).value)
    Sendable c ∧ Portable c ∧ Delivered (inject c).value v ∧
      Fills c (c.tagSet.tags.entries.take 3) ∧
      ∃ parent state r, (inject c).value = [(parentName, parent), (stateName, state)] ∧
        (extract v).value = some (.complete r) ∧
        r.origin = c.origin ∧
        (state.splitOn ',').head? = some (memberWith c r.tagSet.tags.entries) ∧
        (∀ es, Fills c es ↔ es = r.tagSet.tags.entries) ∧
        (Text.byteLength (memberWith c c.tagSet.tags.entries) ≤ 256 →
          r.tagSet.tags = c.tagSet.tags) := by
  intro c v
  have hk : TraceState.kept c = c.tagSet.tags.entries.take 3 := by decide
  exact ⟨sendable_overfullContext, portable_overfullContext, .map,
    hk ▸ portable_overfullContext.settled.fills_kept,
    extract_inject_tags sendable_overfullContext portable_overfullContext .map⟩

end TraceContext

end TraceHeaders
