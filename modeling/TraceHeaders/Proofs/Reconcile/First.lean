import TraceHeaders.Proofs.Reconcile.Outcome

/-! A run that ends with the first complete context, compared with the run over all codecs. -/

namespace TraceHeaders.Reconcile

def isComplete (v : HeaderView) (codec : Codec) : Bool :=
  ((codec.extract v).value.bind Finding.context?).isSome

def throughComplete (v : HeaderView) (rs : List Registration) : List Registration :=
  rs.take (rs.findIdx (fun r => isComplete v r.2) + 1)

def stylesThroughComplete (s : Settings) (v : HeaderView) (styles : List Style) : List Style :=
  styles.take (styles.findIdx (fun style => isComplete v (s.codec style)) + 1)

def Akin (c d : Context) : Prop :=
  d = { c with
    links := d.links
    tagSet := { c.tagSet with
      traceState := d.tagSet.traceState
      lastParent := d.tagSet.lastParent } }

section Akin

variable {c w : Context}

lemma Akin.refl (c : Context) : Akin c c := rfl

lemma Akin.withState (h : Akin c w) (state parent : Option Text) :
    Akin c { w with tagSet := { w.tagSet with traceState := state, lastParent := parent } } := by
  rw [Akin] at h ⊢
  rw [h]

lemma Akin.withLinks (h : Akin c w) (links : List Link) : Akin c { w with links := links } := by
  rw [Akin] at h ⊢
  rw [h]

lemma Akin.absorb (h : Akin c w) (style : Style) (d : Context) :
    Akin c (absorb style w d).value := by
  obtain ⟨-, -, hw⟩ | ⟨-, -, hw⟩ | ⟨-, hw⟩ := absorb_cases style w d
  · rw [hw]
    exact h.withState _ _
  · rw [hw]
    exact h
  · rw [hw]
    exact h.withLinks _

lemma akin_step {p : Progress} (hp : p.chosen = some w) (h : Akin c w) (style : Style)
    (f : Option Finding) : ∃ x, (p.step style f).value.chosen = some x ∧ Akin c x := by
  rcases f with _ | d | i
  · exact ⟨w, hp, h⟩
  · simp only [Progress.step, hp]
    exact ⟨_, rfl, h.absorb style d⟩
  · refine ⟨w, ?_, h⟩
    simp only [Progress.step, hp]
    exact hp

lemma akin_run {v : HeaderView} {p : Progress} (hp : p.chosen = some w) (h : Akin c w)
    (rs : List Registration) :
    ∃ r, (run false v p rs).value = some (.complete r) ∧ Akin c r := by
  induction rs generalizing p w with
  | nil =>
    rw [run, Logged.value_pure, Progress.finding, hp]
    exact ⟨_, rfl, h.withState _ _⟩
  | cons x rs ih =>
    obtain ⟨style, codec⟩ := x
    obtain ⟨y, hy, ha⟩ := akin_step hp h style (codec.extract v).value
    rw [run, Logged.value_bind, Logged.value_bind, hy]
    exact ih hy ha

end Akin

section Run

variable {v : HeaderView} {style : Style} {codec : Codec}

lemma run_skip (h : isComplete v codec = false) (style : Style)
    (fallback : Option PartialContext) :
    ∃ next : Option PartialContext, ∀ first rs,
      (run first v { fallback } ((style, codec) :: rs)).value =
        (run first v { fallback := next } rs).value := by
  rcases hf : (codec.extract v).value with _ | c | q
  · refine ⟨fallback, fun first rs => ?_⟩
    rw [run, Logged.value_bind, Logged.value_bind, hf]
    rfl
  · rw [isComplete, hf] at h
    cases h
  · refine ⟨fallback.or (some q), fun first rs => ?_⟩
    rw [run, Logged.value_bind, Logged.value_bind, hf]
    cases fallback <;> rfl

lemma run_last {c : Context} (h : (codec.extract v).value = some (.complete c))
    (fallback : Option PartialContext) :
    (run false v { fallback } [(style, codec)]).value = some (.complete c) := by
  rw [run, Logged.value_bind, Logged.value_bind, h]
  -- One sighting, whatever its style, gives no parent.
  cases style <;> rfl

lemma akin_run_complete {c : Context} (h : (codec.extract v).value = some (.complete c))
    (style : Style) (fallback : Option PartialContext) (rs : List Registration) :
    ∃ r, (run false v { fallback } ((style, codec) :: rs)).value = some (.complete r) ∧
      Akin c r := by
  rw [run, Logged.value_bind, Logged.value_bind, h]
  exact akin_run rfl (.refl c) rs

lemma exists_of_isComplete (h : isComplete v codec) :
    ∃ c, (codec.extract v).value = some (.complete c) := by
  rcases hf : (codec.extract v).value with _ | c | q
  · rw [isComplete, hf] at h
    cases h
  · exact ⟨c, rfl⟩
  · rw [isComplete, hf] at h
    cases h

lemma run_first_eq (fallback : Option PartialContext) (rs : List Registration) :
    (run true v { fallback } rs).value =
      (run false v { fallback } (throughComplete v rs)).value := by
  induction rs generalizing fallback with
  | nil => rfl
  | cons x rs ih =>
    obtain ⟨style, codec⟩ := x
    cases hx : isComplete v codec with
    | true =>
      obtain ⟨c, hc⟩ := exists_of_isComplete hx
      have ht : throughComplete v ((style, codec) :: rs) = [(style, codec)] := by
        simp [throughComplete, List.findIdx_cons, hx]
      rw [ht, value_run_first hc, run_last hc]
    | false =>
      obtain ⟨next, hn⟩ := run_skip hx style fallback
      have ht : throughComplete v ((style, codec) :: rs) =
          (style, codec) :: throughComplete v rs := by
        simp [throughComplete, List.findIdx_cons, hx]
      rw [ht, hn, hn, ih]

lemma run_first_or (fallback : Option PartialContext) (rs : List Registration) :
    (∃ x ∈ rs, ∃ c r, (x.2.extract v).value = some (.complete c) ∧
        (run true v { fallback } rs).value = some (.complete c) ∧
        (run false v { fallback } rs).value = some (.complete r) ∧ Akin c r) ∨
      ∃ q : Option PartialContext, (run true v { fallback } rs).value = q.map .incomplete ∧
        (run false v { fallback } rs).value = q.map .incomplete := by
  induction rs generalizing fallback with
  | nil => exact .inr ⟨fallback, rfl, rfl⟩
  | cons x rs ih =>
    obtain ⟨style, codec⟩ := x
    cases hx : isComplete v codec with
    | true =>
      obtain ⟨c, hc⟩ := exists_of_isComplete hx
      obtain ⟨r, hr, ha⟩ := akin_run_complete hc style fallback rs
      exact .inl ⟨_, List.mem_cons_self, c, r, hc, value_run_first hc fallback rs, hr, ha⟩
    | false =>
      obtain ⟨next, hn⟩ := run_skip hx style fallback
      rw [hn, hn]
      rcases ih next with ⟨y, hy, hc⟩ | hq
      · exact .inl ⟨y, List.mem_cons_of_mem _ hy, hc⟩
      · exact .inr hq

end Run

lemma registrations_throughComplete (s : Settings) (v : HeaderView) (styles : List Style) :
    s.registrations (stylesThroughComplete s v styles) =
      throughComplete v (s.registrations styles) := by
  rw [stylesThroughComplete, throughComplete, Settings.registrations, Settings.registrations,
    List.map_take, List.findIdx_map]
  rfl

/-- With early stopping the outcome is what the first codec with a complete context reported. Over
all styles only the links and the state of other vendors can differ from it. -/
theorem value_extract_first (s : Settings) (styles : List Style) (headers : Snapshot) :
    (Extractor.extract ⟨s.registrations styles, true⟩ headers).value =
        (Extractor.extract
          ⟨s.registrations (stylesThroughComplete s headers.view styles), false⟩ headers).value ∧
      match (Extractor.extract ⟨s.registrations styles, true⟩ headers).value with
      | some (.complete c) =>
        c.links = [] ∧ ((s.codec c.style).extract headers.view).value = some (.complete c) ∧
          ∃ r, (Extractor.extract ⟨s.registrations styles, false⟩ headers).value =
              some (.complete r) ∧
            r = { c with
              links := r.links
              tagSet := { c.tagSet with
                traceState := r.tagSet.traceState
                lastParent := r.tagSet.lastParent } }
      | f => (Extractor.extract ⟨s.registrations styles, false⟩ headers).value = f := by
  simp only [Extractor.extract, registrations_throughComplete]
  refine ⟨run_first_eq none _, ?_⟩
  rcases run_first_or (v := headers.view) none (s.registrations styles) with
    ⟨x, hx, c, r, hc, hf, hr, ha⟩ | ⟨q, hf, hr⟩
  · obtain ⟨style, -, rfl⟩ := List.mem_map.mp hx
    have hs := Settings.fresh hc
    rw [hf]
    exact ⟨hs.links_eq, hs.style_eq ▸ hc, r, hr, ha⟩
  · rw [hf, hr]
    cases q <;> rfl

end TraceHeaders.Reconcile
