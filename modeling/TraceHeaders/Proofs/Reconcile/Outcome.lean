import TraceHeaders.Proofs.Findings
import Mathlib.Data.List.Nodup

/-! The outcome of reading several styles, described by the list of the complete contexts alone. -/

namespace TraceHeaders

def Finding.partial? : Finding → Option PartialContext
  | complete _ => none
  | incomplete p => some p

namespace Reconcile

abbrev Report := Style × Option Finding

def reports (v : HeaderView) (rs : List Registration) : List Report :=
  rs.map fun r => (r.1, (r.2.extract v).value)

def contexts (fs : List Report) : List Context := fs.filterMap fun f => f.2.bind Finding.context?

def partials (fs : List Report) : List PartialContext :=
  fs.filterMap fun f => f.2.bind Finding.partial?

def ofStyle (style : Style) (cs : List Context) : Option Context := cs.find? (·.style = style)

def sibling (w : Context) (cs : List Context) : Option Context :=
  cs.find? fun c => c.style = .traceContext && w.traceId.matched c.traceId

def crossParent (cs : List Context) : Option Text :=
  match ofStyle .datadog cs, ofStyle .traceContext cs with
  | some d, some t =>
    if d.traceId.matched t.traceId && d.spanId ≠ t.spanId then
      some ((t.tagSet.lastParent.filter (· ≠ noParent)).getD (Text.hexWord d.spanId))
    else none
  | _, _ => none

def reconciled (w : Context) (rest : List Context) : Context :=
  { w with
    links := (rest.filter fun c => !w.traceId.matched c.traceId).map .terminated
    tagSet := { w.tagSet with
      traceState := (sibling w (w :: rest)).bind (·.tagSet.traceState)
      lastParent :=
        (crossParent (w :: rest)).or ((sibling w (w :: rest)).bind (·.tagSet.lastParent)) } }

lemma value_step_complete (p : Progress) (style : Style) (c : Context) :
    (p.step style (some (.complete c))).value =
      { p.record style c with
        chosen := some (p.chosen.elim c fun w => (absorb style w c).value) } := by
  simp only [Progress.step]
  split <;> simp [*]

lemma value_step_incomplete (p : Progress) (style : Style) (q : PartialContext) :
    (p.step style (some (.incomplete q))).value =
      { p with fallback := if p.chosen.isNone then p.fallback.or (some q) else p.fallback } := by
  rcases p with ⟨_ | w, _ | g, d, t⟩ <;> rfl

lemma absorb_cases (style : Style) (w c : Context) :
    (style = .traceContext ∧ w.traceId.matched c.traceId ∧
      (absorb style w c).value = { w with tagSet := w.tagSet.absorb c.tagSet }) ∨
    (style ≠ .traceContext ∧ w.traceId.matched c.traceId ∧ (absorb style w c).value = w) ∨
    ¬ w.traceId.matched c.traceId ∧
      (absorb style w c).value = { w with links := w.links ++ [.terminated c] } := by
  rw [absorb]
  by_cases hm : w.traceId.matched c.traceId
  · by_cases hs : style = .traceContext
    · exact .inl ⟨hs, hm, by simp [hm, hs]⟩
    · exact .inr (.inl ⟨hs, hm, by simp [hm, hs]⟩)
  · exact .inr (.inr ⟨hm, by simp [hm]⟩)

lemma exists_value_absorb (style : Style) (w c : Context) :
    ∃ links tagSet, (absorb style w c).value = { w with links, tagSet } := by
  obtain ⟨-, -, h⟩ | ⟨-, -, h⟩ | ⟨-, h⟩ := absorb_cases style w c
  · exact ⟨w.links, _, h⟩
  · exact ⟨w.links, w.tagSet, h⟩
  · exact ⟨_, w.tagSet, h⟩

lemma finding_cases {p : Progress} {f : Finding} (h : p.finding = some f) :
    (∃ w, p.chosen = some w ∧ f = .complete { w with
      tagSet := { w.tagSet with
        lastParent := (lastParent? p.datadog p.traceContext).or w.tagSet.lastParent } }) ∨
      ∃ q, p.fallback = some q ∧ f = .incomplete q := by
  rw [Progress.finding] at h
  cases hw : p.chosen with
  | none =>
    rw [hw] at h
    obtain ⟨q, hq, rfl⟩ := Option.map_eq_some_iff.mp h
    exact .inr ⟨q, hq, rfl⟩
  | some w =>
    rw [hw] at h
    exact .inl ⟨w, rfl, (Option.some.inj h).symm⟩

lemma exists_chosen_of_finding {p : Progress} {r : Context}
    (h : p.finding = some (.complete r)) :
    ∃ w, p.chosen = some w ∧ r = { w with
      tagSet := { w.tagSet with
        lastParent := (lastParent? p.datadog p.traceContext).or w.tagSet.lastParent } } := by
  obtain ⟨w, hw, hr⟩ | ⟨q, -, hr⟩ := finding_cases h
  · exact ⟨w, hw, Finding.complete.inj hr⟩
  · cases hr

def Progress.after (p : Progress) (fs : List Report) : Progress :=
  fs.foldl (fun p f => (p.step f.1 f.2).value) p

lemma value_run (v : HeaderView) (p : Progress) (rs : List Registration) :
    (run false v p rs).value = (p.after (reports v rs)).finding := by
  induction rs generalizing p with
  | nil => rfl
  | cons r rs ih =>
    obtain ⟨style, codec⟩ := r
    rw [run, Logged.value_bind, Logged.value_bind]
    have hr := ih (p.step style (codec.extract v).value).value
    split
    · contradiction
    · exact hr

lemma value_run_first {v : HeaderView} {style : Style} {codec : Codec} {c : Context}
    (h : (codec.extract v).value = some (.complete c)) (fallback : Option PartialContext)
    (rs : List Registration) :
    (run true v { fallback } ((style, codec) :: rs)).value = some (.complete c) := by
  rw [run, Logged.value_bind, Logged.value_bind, h]
  rfl

def merged (w : Context) (cs : List Context) : Context :=
  { w with
    links := w.links ++ (cs.filter fun c => !w.traceId.matched c.traceId).map .terminated
    tagSet := { w.tagSet with
      traceState := ((sibling w cs).bind (·.tagSet.traceState)).or w.tagSet.traceState
      lastParent := ((sibling w cs).bind (·.tagSet.lastParent)).or w.tagSet.lastParent } }

lemma merged_nil (w : Context) : merged w [] = w := by
  simp [merged, sibling]

lemma sibling_eq_none {w : Context} {cs : List Context}
    (h : Style.traceContext ∉ cs.map (·.style)) : sibling w cs = none := by
  rw [sibling, List.find?_eq_none]
  intro c hc hs
  simp only [Bool.and_eq_true, decide_eq_true_eq] at hs
  exact h (hs.1 ▸ List.mem_map_of_mem hc)

lemma merged_absorb {w c : Context} {cs : List Context} (h : c.style ∉ cs.map (·.style)) :
    merged (absorb c.style w c).value cs = merged w (c :: cs) := by
  -- A second W3C context, which could replace the state of the first, does not follow.
  by_cases hm : w.traceId.matched c.traceId
  · by_cases hs : c.style = .traceContext
    · have hn : ∀ x : Context, sibling x cs = none := fun x => sibling_eq_none (hs ▸ h)
      have hc : sibling w (c :: cs) = some c := by simp [sibling, hm, hs]
      simp [absorb, merged, hm, hs, hn, hc, TagSet.absorb]
    · have hc : sibling w (c :: cs) = sibling w cs := by simp [sibling, hs]
      simp [absorb, merged, hm, hs, hc]
  · have hc : sibling w (c :: cs) = sibling w cs := by simp [sibling, hm]
    have hl : sibling { w with links := w.links ++ [.terminated c] } cs = sibling w cs := rfl
    simp [absorb, merged, hm, hc, hl]

section Run

variable {fs : List Report}

def Fresh (fs : List Report) : Prop := ∀ f ∈ fs, ∀ c, f.2 = some (.complete c) → c.Fresh f.1

lemma Fresh.tail {f : Report} (h : Fresh (f :: fs)) : Fresh fs :=
  fun g hg => h g (List.mem_cons_of_mem _ hg)

lemma Fresh.of_mem {c : Context} (h : Fresh fs) (hc : c ∈ contexts fs) : c.Fresh c.style := by
  obtain ⟨⟨style, x⟩, hf, hx⟩ := List.mem_filterMap.mp hc
  rcases x with _ | d | q
  · cases hx
  · obtain rfl : d = c := Option.some.inj hx
    have hd := h _ hf d rfl
    exact hd.style_eq ▸ hd
  · cases hx

lemma Fresh.styles_sublist (h : Fresh fs) :
    ((contexts fs).map (·.style)).Sublist (fs.map (·.1)) := by
  induction fs with
  | nil => exact .slnil
  | cons f fs ih =>
    obtain ⟨style, _ | c | q⟩ := f
    · exact (ih h.tail).cons _
    · have hs : c.style = style := (h _ List.mem_cons_self c rfl).style_eq
      subst hs
      exact (ih h.tail).cons_cons _
    · exact (ih h.tail).cons _

lemma Fresh.style_notMem {c : Context} {style : Style}
    (h : Fresh ((style, some (.complete c)) :: fs))
    (hn : (style :: fs.map (·.1)).Nodup) : c.style = style ∧ style ∉ (contexts fs).map (·.style) :=
  ⟨(h _ List.mem_cons_self c rfl).style_eq,
    fun hm => (List.nodup_cons.mp hn).1 (h.tail.styles_sublist.subset hm)⟩

lemma after_complete (p : Progress) (style : Style) (c : Context) :
    p.after ((style, some (.complete c)) :: fs) =
      Progress.after
        { p.record style c with
          chosen := some (p.chosen.elim c fun w => (absorb style w c).value) } fs := by
  rw [Progress.after, List.foldl_cons, value_step_complete, Progress.after]

lemma after_incomplete (p : Progress) (style : Style) (q : PartialContext) :
    p.after ((style, some (.incomplete q)) :: fs) =
      { p with
        fallback := if p.chosen.isNone then p.fallback.or (some q) else p.fallback }.after fs := by
  rw [Progress.after, List.foldl_cons, value_step_incomplete, Progress.after]

lemma contexts_complete (style : Style) (c : Context) :
    contexts ((style, some (.complete c)) :: fs) = c :: contexts fs := rfl

lemma chosen_after {p : Progress} {w : Context} (h : Fresh fs) (hn : (fs.map (·.1)).Nodup)
    (hp : p.chosen = some w) : (p.after fs).chosen = some (merged w (contexts fs)) := by
  induction fs generalizing p w with
  | nil => simpa [Progress.after, contexts, merged_nil] using hp
  | cons f fs ih =>
    have hn' : (fs.map (·.1)).Nodup := (List.nodup_cons.mp hn).2
    obtain ⟨style, _ | c | q⟩ := f
    · exact ih h.tail hn' hp
    · obtain ⟨rfl, hc⟩ := h.style_notMem hn
      rw [after_complete, contexts_complete, ← merged_absorb hc]
      exact ih h.tail hn' (by rw [hp]; rfl)
    · rw [after_incomplete]
      exact ih h.tail hn' hp

lemma chosen_after_of_none {p : Progress} (h : Fresh fs) (hn : (fs.map (·.1)).Nodup)
    (hp : p.chosen = none) :
    (p.after fs).chosen = (contexts fs).head?.map fun w => merged w (contexts fs).tail := by
  induction fs generalizing p with
  | nil => exact hp
  | cons f fs ih =>
    have hn' : (fs.map (·.1)).Nodup := (List.nodup_cons.mp hn).2
    obtain ⟨style, _ | c | q⟩ := f
    · exact ih h.tail hn' hp
    · rw [after_complete, contexts_complete]
      exact chosen_after h.tail hn' (by rw [hp]; rfl)
    · rw [after_incomplete]
      exact ih h.tail hn' hp

lemma fallback_after {p : Progress} (h : contexts fs = []) (hp : p.chosen = none) :
    (p.after fs).fallback = p.fallback.or (partials fs).head? := by
  induction fs generalizing p with
  | nil => exact Option.or_none.symm
  | cons f fs ih =>
    obtain ⟨style, _ | c | q⟩ := f
    · exact ih h hp
    · exact absurd h (List.cons_ne_nil _ _)
    · have hq := ih (p := { p with fallback := p.fallback.or (some q) }) h hp
      rw [after_incomplete, hp, Option.isNone_none, if_pos rfl, ← hp, hq]
      simp [partials, Finding.partial?]

lemma ofStyle_cons (style : Style) (c : Context) (cs : List Context) :
    ofStyle style (c :: cs) = if c.style = style then some c else ofStyle style cs := by
  by_cases h : c.style = style <;> simp [ofStyle, h]

lemma ofStyle_eq_none {style : Style} {cs : List Context} (h : style ∉ cs.map (·.style)) :
    ofStyle style cs = none := by
  rw [ofStyle, List.find?_eq_none]
  intro c hc hs
  exact h (of_decide_eq_true hs ▸ List.mem_map_of_mem hc)

lemma record_datadog (p : Progress) (style : Style) (c : Context) :
    (p.record style c).datadog = if style = .datadog then some (.ofContext c) else p.datadog := by
  cases style <;> rfl

lemma record_traceContext (p : Progress) (style : Style) (c : Context) :
    (p.record style c).traceContext =
      if style = .traceContext then some (.ofContext c) else p.traceContext := by
  cases style <;> rfl

lemma seen_after {style : Style} {seen : Progress → Option Sighting}
    (hr : ∀ p s c, seen (p.record s c) = if s = style then some (.ofContext c) else seen p)
    (hf : ∀ (p : Progress) w f, seen { p with chosen := w, fallback := f } = seen p)
    {p : Progress} (h : Fresh fs) (hn : (fs.map (·.1)).Nodup) :
    seen (p.after fs) = ((ofStyle style (contexts fs)).map .ofContext).or (seen p) := by
  induction fs generalizing p with
  | nil => rfl
  | cons f fs ih =>
    have hn' : (fs.map (·.1)).Nodup := (List.nodup_cons.mp hn).2
    obtain ⟨s, _ | c | q⟩ := f
    · exact ih h.tail hn'
    · obtain ⟨rfl, hc⟩ := h.style_notMem hn
      rw [after_complete, contexts_complete, ih h.tail hn', hf, hr, ofStyle_cons]
      split
      · next hs => simp [ofStyle_eq_none (hs ▸ hc)]
      · rfl
    · rw [after_incomplete, ih h.tail hn', hf]
      rfl

lemma lastParent?_sightings (cs : List Context) :
    lastParent? ((ofStyle .datadog cs).map .ofContext) ((ofStyle .traceContext cs).map .ofContext) =
      crossParent cs := by
  unfold lastParent? crossParent
  cases ofStyle .datadog cs <;> cases ofStyle .traceContext cs <;> rfl

lemma sibling_state {w : Context} {cs : List Context} (hn : w.style ∉ cs.map (·.style))
    (state : Context → Option Text) (hs : w.style ≠ .traceContext → state w = none) :
    ((sibling w cs).bind state).or (state w) = (sibling w (w :: cs)).bind state := by
  by_cases hw : w.style = .traceContext
  · have hc : sibling w (w :: cs) = some w := by simp [sibling, hw, TraceId.matched_self]
    simp [hc, sibling_eq_none (hw ▸ hn)]
  · have hc : sibling w (w :: cs) = sibling w cs := by simp [sibling, hw]
    simp [hc, hs hw]

lemma finding_after (h : Fresh fs) (hn : (fs.map (·.1)).Nodup) :
    (Progress.after {} fs).finding =
      match contexts fs with
      | [] => (partials fs).head?.map .incomplete
      | w :: rest => some (.complete (reconciled w rest)) := by
  have hc := chosen_after_of_none (p := {}) h hn rfl
  cases hcs : contexts fs with
  | nil =>
    rw [hcs] at hc
    rw [Progress.finding, hc, fallback_after hcs rfl]
    rfl
  | cons w rest =>
    have hw : w.Fresh w.style := h.of_mem (hcs ▸ List.mem_cons_self)
    have hs : w.style ∉ rest.map (·.style) := by
      have := h.styles_sublist.nodup hn
      rw [hcs] at this
      exact (List.nodup_cons.mp this).1
    have hd := seen_after (p := {}) record_datadog (fun _ _ _ => rfl) h hn
    have ht := seen_after (p := {}) record_traceContext (fun _ _ _ => rfl) h hn
    rw [Option.or_none, hcs] at hd ht
    rw [hcs] at hc
    rw [Progress.finding, hc, hd, ht, lastParent?_sightings]
    simp only [merged, reconciled, List.head?_cons, Option.map_some, List.tail_cons, hw.links_eq,
      List.nil_append, sibling_state hs (·.tagSet.traceState) hw.traceState_eq,
      sibling_state hs (·.tagSet.lastParent) hw.lastParent_eq]

end Run

lemma fresh_reports (s : Settings) (styles : List Style) (v : HeaderView) :
    Fresh (reports v (s.registrations styles)) := by
  intro f hf c hc
  simp only [reports, Settings.registrations, List.map_map, List.mem_map] at hf
  obtain ⟨style, _, rfl⟩ := hf
  exact Settings.fresh hc

lemma styles_reports (s : Settings) (styles : List Style) (v : HeaderView) :
    (reports v (s.registrations styles)).map (·.1) = styles := by
  simp [reports, Settings.registrations, Function.comp_def]

lemma contexts_reports (s : Settings) (styles : List Style) (v : HeaderView) :
    contexts (reports v (s.registrations styles)) =
      styles.filterMap fun style => ((s.codec style).extract v).value.bind Finding.context? := by
  simp [contexts, reports, Settings.registrations, List.filterMap_map, Function.comp_def]

lemma nodup_styles_contexts (s : Settings) {styles : List Style} (hs : styles.Nodup)
    (v : HeaderView) :
    ((contexts (reports v (s.registrations styles))).map (·.style)).Nodup := by
  apply (fresh_reports s styles v).styles_sublist.nodup
  rwa [styles_reports]

lemma mem_contexts_iff {s : Settings} {styles : List Style} {v : HeaderView} {c : Context} :
    c ∈ contexts (reports v (s.registrations styles)) ↔
      ∃ style ∈ styles, ((s.codec style).extract v).value = some (.complete c) := by
  rw [contexts_reports, List.mem_filterMap]
  apply exists_congr
  intro style
  apply and_congr_right
  intro _
  rcases ((s.codec style).extract v).value with _ | d | p <;> simp [Finding.context?]

lemma value_run_registrations (s : Settings) {styles : List Style} (hs : styles.Nodup)
    (v : HeaderView) :
    (run false v {} (s.registrations styles)).value =
      match contexts (reports v (s.registrations styles)) with
      | [] => (partials (reports v (s.registrations styles))).head?.map .incomplete
      | w :: rest => some (.complete (reconciled w rest)) := by
  rw [value_run]
  apply finding_after (fresh_reports s styles v)
  rwa [styles_reports]

/-- The first complete context is the outcome, with one link for each later context of another trace,
what the W3C context of its own trace knows of other vendors, and the parent that a Datadog and a
W3C context of one trace deduce. Without a complete context it is the first partial one. -/
theorem value_extract (s : Settings) {styles : List Style} (hs : styles.Nodup)
    (headers : Snapshot) :
    (Extractor.extract ⟨s.registrations styles, false⟩ headers).value =
      match contexts (reports headers.view (s.registrations styles)) with
      | [] => (partials (reports headers.view (s.registrations styles))).head?.map .incomplete
      | w :: rest =>
        some (.complete
          { w with
            links := (rest.filter fun c => !w.traceId.matched c.traceId).map .terminated
            tagSet := { w.tagSet with
              traceState := (sibling w (w :: rest)).bind (·.tagSet.traceState)
              lastParent :=
                (crossParent (w :: rest)).or
                  ((sibling w (w :: rest)).bind (·.tagSet.lastParent)) } }) := by
  rw [Extractor.extract, value_run_registrations s hs]
  rfl

def threeStyles : Snapshot :=
  ⟨[("x-datadog-trace-id".toList, "5".toList), ("x-datadog-parent-id".toList, "7".toList),
    ("traceparent".toList, "00-00000000000000000000000000000005-0000000000000009-01".toList),
    ("tracestate".toList, "dd=p:000000000000000c,v=1".toList),
    ("x-b3-traceid".toList, "a".toList), ("x-b3-spanid".toList, "b".toList)]⟩

set_option maxRecDepth 10000 in
theorem value_extract_threeStyles :
    [Style.datadog, .traceContext, .b3multi].Nodup ∧
      (Extractor.extract ⟨Settings.registrations {} [.datadog, .traceContext, .b3multi], false⟩
        threeStyles).value =
      some (.complete
        { traceId := .narrow 5
          spanId := 7
          style := .datadog
          tagSet :=
            { traceState := some "dd=p:000000000000000c,v=1".toList
              lastParent := some "000000000000000c".toList }
          links := [.terminated { traceId := .narrow 10, spanId := 11, style := .b3multi }] }) :=
  ⟨by decide, (value_extract {} (by decide) threeStyles).trans (by decide)⟩

end Reconcile

end TraceHeaders
