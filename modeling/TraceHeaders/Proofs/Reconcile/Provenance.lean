import TraceHeaders.Proofs.Reconcile.Outcome
import TraceHeaders.Proofs.Dict

/-! Each identity in an outcome was reported by a codec. -/

namespace TraceHeaders.Reconcile

variable {q : Context → Prop}

structure Grown (q : Context → Prop) (w : Context) : Prop where
  root : ∃ c, q c ∧ w = { c with
    links := w.links
    tagSet := { c.tagSet with
      traceState := w.tagSet.traceState
      lastParent := w.tagSet.lastParent } }
  links : ∀ l ∈ w.links, ∃ c, q c ∧ l = .terminated c

lemma Grown.of_links_eq_nil {c : Context} (h : q c) (hl : c.links = []) : Grown q c := by
  refine ⟨⟨c, h, rfl⟩, ?_⟩
  intro l hm
  rw [hl] at hm
  cases hm

lemma Grown.withState {w : Context} (h : Grown q w) (state parent : Option Text) :
    Grown q { w with
      tagSet := { w.tagSet with traceState := state, lastParent := parent } } := by
  obtain ⟨⟨c, hc, hw⟩, hl⟩ := h
  refine ⟨⟨c, hc, ?_⟩, hl⟩
  rw [hw]

lemma Grown.absorb {w c : Context} (h : Grown q w) (hc : q c) (style : Style) :
    Grown q (absorb style w c).value := by
  obtain ⟨-, -, hx⟩ | ⟨-, -, hx⟩ | ⟨-, hx⟩ := absorb_cases style w c
  · rw [hx]
    exact h.withState _ _
  · rw [hx]
    exact h
  · obtain ⟨⟨d, hd, hw⟩, hl⟩ := h
    rw [hx]
    refine ⟨⟨d, hd, ?_⟩, ?_⟩
    · rw [hw]
    · intro l hm
      rcases List.mem_append.mp hm with hm | hm
      · exact hl l hm
      · exact ⟨c, hc, List.mem_singleton.mp hm⟩

lemma grown_step {p : Progress} (hp : ∀ w, p.chosen = some w → Grown q w) (style : Style)
    {f : Option Finding} (hf : ∀ c, f = some (.complete c) → q c ∧ c.links = []) :
    ∀ w, (p.step style f).value.chosen = some w → Grown q w := by
  intro w hw
  rcases f with _ | c | i
  · exact hp w hw
  · obtain ⟨hc, hl⟩ := hf c rfl
    rw [value_step_complete] at hw
    obtain rfl := Option.some.inj hw
    cases hx : p.chosen with
    | none => exact .of_links_eq_nil hc hl
    | some x => exact (hp x hx).absorb hc style
  · rw [value_step_incomplete] at hw
    exact hp w hw

lemma grown_finding {p : Progress} (hp : ∀ w, p.chosen = some w → Grown q w) {r : Context}
    (hr : p.finding = some (.complete r)) : Grown q r := by
  obtain ⟨w, hw, rfl⟩ := exists_chosen_of_finding hr
  exact (hp w hw).withState _ _

lemma exists_progress_of_run (holds : Progress → Prop) {rs : List Registration} {v : HeaderView}
    (hs : ∀ x ∈ rs, ∀ p, holds p → holds (p.step x.1 (x.2.extract v).value).value) {first : Bool}
    {p : Progress} (hp : holds p) {f : Finding} (hf : (run first v p rs).value = some f) :
    ∃ e, holds e ∧ (e.chosen.map .complete = some f ∨ e.finding = some f) := by
  induction rs generalizing p with
  | nil => exact ⟨p, hp, .inr hf⟩
  | cons x rs ih =>
    obtain ⟨style, codec⟩ := x
    obtain ⟨hx, hs⟩ := List.forall_mem_cons.mp hs
    have hn := hx p hp
    rw [run, Logged.value_bind, Logged.value_bind] at hf
    split at hf
    · next w hw =>
      rw [Logged.value_pure, ← Option.map_some, ← hw] at hf
      exact ⟨_, hn, .inl hf⟩
    · exact ih hs hn hf

lemma exists_chosen_of_run (holds : Progress → Prop) {rs : List Registration} {v : HeaderView}
    (hs : ∀ x ∈ rs, ∀ p, holds p → holds (p.step x.1 (x.2.extract v).value).value) {first : Bool}
    {p : Progress} (hp : holds p) {r : Context}
    (hr : (run first v p rs).value = some (.complete r)) :
    ∃ e, holds e ∧ (e.chosen = some r ∨ e.finding = some (.complete r)) := by
  obtain ⟨e, he, hc | hf⟩ := exists_progress_of_run holds hs hp hr
  · obtain ⟨w, hw, hc⟩ := Option.map_eq_some_iff.mp hc
    exact ⟨e, he, .inl (Finding.complete.inj hc ▸ hw)⟩
  · exact ⟨e, he, .inr hf⟩

lemma grown_run {rs : List Registration} {v : HeaderView}
    (hq : ∀ x ∈ rs, ∀ c, (x.2.extract v).value = some (.complete c) → q c ∧ c.links = [])
    {first : Bool} {p : Progress} (hp : ∀ w, p.chosen = some w → Grown q w) {r : Context}
    (hr : (run first v p rs).value = some (.complete r)) : Grown q r := by
  obtain ⟨e, he, hc | hf⟩ := exists_chosen_of_run (fun p => ∀ w, p.chosen = some w → Grown q w)
    (fun x hx _ hp => grown_step hp x.1 (hq x hx)) hp hr
  · exact he r hc
  · exact grown_finding he hf

lemma grown_extract (s : Settings) (styles : List Style) (first : Bool) (headers : Snapshot)
    (hq : ∀ style ∈ styles, ∀ c,
      ((s.codec style).extract headers.view).value = some (.complete c) → q c) {r : Context}
    (hr : (Extractor.extract ⟨s.registrations styles, first⟩ headers).value =
      some (.complete r)) : Grown q r := by
  refine grown_run ?_ ?_ hr
  · intro x hx c hc
    obtain ⟨style, hs, rfl⟩ := List.mem_map.mp hx
    exact ⟨hq style hs c hc, (Settings.fresh hc).links_eq⟩
  · intro w hw
    cases hw

lemma style_terminated (c : Context) :
    (Link.terminated c).attributes.get? "context_headers".toList = some c.style.name := by
  rw [Link.terminated, Dict.get?_ofList]
  rfl

end TraceHeaders.Reconcile
