import TraceHeaders.Proofs.Settings.Merging
import TraceHeaders.Settings.Load

/-! Which source decides a field. The values that it overrides do not matter, whatever they are. -/

namespace TraceHeaders.Settings

section Fields

abbrev FieldName.Content : FieldName → Type
  | .logLevel => Level
  | .styles | .extractStyles | .injectStyles => List Style
  | .extractFirst | .baggageEnabled | .b3Padding => Bool
  | .tagsLimit => Nat
  | .baggageMapping => Dict Text

def content (s : Settings) : (f : FieldName) → f.Content
  | .logLevel => s.logLevel
  | .styles => s.styles
  | .extractStyles => s.extractStyles
  | .injectStyles => s.injectStyles
  | .extractFirst => s.extractFirst
  | .baggageEnabled => s.baggageEnabled
  | .b3Padding => s.b3Padding
  | .tagsLimit => s.tagsLimit
  | .baggageMapping => s.baggageMapping

def put (s : Settings) : (f : FieldName) → f.Content → Settings
  | .logLevel, logLevel => { s with logLevel }
  | .styles, styles => { s with styles }
  | .extractStyles, extractStyles => { s with extractStyles }
  | .injectStyles, injectStyles => { s with injectStyles }
  | .extractFirst, extractFirst => { s with extractFirst }
  | .baggageEnabled, baggageEnabled => { s with baggageEnabled }
  | .b3Padding, b3Padding => { s with b3Padding }
  | .tagsLimit, tagsLimit => { s with tagsLimit }
  | .baggageMapping, baggageMapping => { s with baggageMapping }

def readAs (v : Value) : (f : FieldName) → Except Located f.Content
  | .logLevel => (levelAt v).value
  | .styles | .extractStyles | .injectStyles => (stylesOf v).mapError .here
  | .extractFirst | .baggageEnabled | .b3Padding => flagAt v
  | .tagsLimit => (sizeOf v).mapError .here
  | .baggageMapping => (mappingOf v).value.mapError .here

variable {s t : Settings} {f g : FieldName}

lemma value_set (s : Settings) (v : Value) (f : FieldName) :
    (s.set v f).value = (readAs v f).map (s.put f) := by
  cases f <;> rfl

lemma content_put_self (s : Settings) (f : FieldName) (c : f.Content) :
    (s.put f c).content f = c := by
  cases f <;> rfl

lemma content_put_of_ne (h : g ≠ f) (s : Settings) (c : f.Content) :
    (s.put f c).content g = s.content g := by
  cases f <;> cases g <;> first | rfl | exact absurd rfl h

lemma ext_content (h : ∀ f, s.content f = t.content f) : s = t := by
  cases s
  cases t
  congr
  exacts [h .logLevel, h .styles, h .extractStyles, h .injectStyles, h .extractFirst,
    h .baggageEnabled, h .b3Padding, h .tagsLimit, h .baggageMapping]

lemma ofText?_eq_some_iff {name : Text} : FieldName.ofText? name = some f ↔ name = f.name := by
  constructor
  · intro h
    rw [FieldName.ofText?] at h
    have hn := List.find?_some h
    exact (of_decide_eq_true hn).symm
  · rintro rfl
    cases f <;> decide

lemma FieldName.name_ne_nil (f : FieldName) : f.name ≠ [] := by
  cases f <;> exact List.cons_ne_nil _ _

lemma FieldName.name_injective (h : f.name = g.name) : f = g := by
  have hf := ofText?_eq_some_iff.mpr h
  rw [ofText?_eq_some_iff.mpr rfl] at hf
  exact Option.some_inj.mp hf

end Fields

section Entries

variable {s t : Settings} {es : List (Text × Value)} {w : FieldName → Option Value}

def DecidedFrom (s : Settings) (w : FieldName → Option Value) (t : Settings) : Prop :=
  ∀ f, match w f with
    | some v => readAs v f = .ok (t.content f)
    | none => t.content f = s.content f

lemma decidedFrom_none : DecidedFrom s (fun _ => none) t ↔ t = s :=
  ⟨ext_content, fun h _ => h ▸ rfl⟩

lemma decidedFrom_put {g : FieldName} {v : Value} {c : g.Content} (hc : readAs v g = .ok c)
    (hg : w g = none) :
    DecidedFrom (s.put g c) w t ↔ DecidedFrom s (fun f => if f = g then some v else w f) t := by
  refine forall_congr' fun f => ?_
  by_cases hf : f = g
  · subst hf
    simp only [hg, if_pos, content_put_self, hc, Except.ok.injEq]
    exact eq_comm
  · simp only [if_neg hf, content_put_of_ne hf]

lemma value_setAll_name (s : Settings) (g : FieldName) (v : Value) (es : List (Text × Value)) :
    (s.setAll ((g.name, v) :: es)).value =
      match readAs v g with
      | .ok c => ((s.put g c).setAll es).value
      | .error l => .error ⟨g.name :: l.path, l.fault⟩ := by
  have hn : (s.setNamed g.name v).value =
      ((readAs v g).map (s.put g)).mapError fun l => { l with path := g.name :: l.path } := by
    rw [setNamed, ofText?_eq_some_iff.mpr rfl, ← value_set]
    rfl
  rw [setAll, Logged.value_bind, hn]
  cases readAs v g <;> rfl

lemma value_setAll_unknown {name : Text} (h : FieldName.ofText? name = none) (s : Settings)
    (v : Value) (es : List (Text × Value)) :
    (s.setAll ((name, v) :: es)).value = (s.setAll es).value := by
  rw [setAll, Logged.value_bind, setNamed, h]
  rfl

lemma value_setAll_eq_ok_iff (hes : (es.map (·.1)).Nodup) :
    (s.setAll es).value = .ok t ↔ DecidedFrom s (fun f => es.lookup f.name) t := by
  induction es generalizing s with
  | nil =>
    rw [setAll, Logged.value_pure, Except.ok.injEq]
    exact eq_comm.trans decidedFrom_none.symm
  | cons e es ih =>
    obtain ⟨name, v⟩ := e
    obtain ⟨hm, hr⟩ := List.nodup_cons.mp hes
    cases hf : FieldName.ofText? name with
    | none =>
      have hl : ∀ f : FieldName, ((name, v) :: es).lookup f.name = es.lookup f.name := by
        intro f
        rw [lookup_cons_ite, if_neg]
        intro h
        rw [ofText?_eq_some_iff.mpr h.symm] at hf
        cases hf
      simp only [value_setAll_unknown hf, hl]
      exact ih hr
    | some g =>
      obtain rfl := ofText?_eq_some_iff.mp hf
      have hl : ∀ f : FieldName, ((g.name, v) :: es).lookup f.name =
          if f = g then some v else es.lookup f.name := by
        intro f
        rw [lookup_cons_ite]
        exact if_congr ⟨FieldName.name_injective, congrArg _⟩ rfl rfl
      rw [value_setAll_name]
      simp only [hl]
      cases hc : readAs v g with
      | ok c =>
        -- No later entry has this name, so what is put here stays.
        rw [← decidedFrom_put hc (lookup_eq_none_of_notMem hm)]
        exact ih hr
      | error l =>
        constructor
        · intro h
          cases h
        · intro h
          have hg := h g
          simp only [if_pos, hc, reduceCtorEq] at hg

lemma exists_of_setAll_eq_error {l : Located} (h : (s.setAll es).value = .error l) :
    ∃ f v l', (FieldName.name f, v) ∈ es ∧ readAs v f = .error l' ∧
      l = ⟨f.name :: l'.path, l'.fault⟩ := by
  induction es generalizing s with
  | nil => cases h
  | cons e es ih =>
    obtain ⟨name, v⟩ := e
    cases hf : FieldName.ofText? name with
    | none =>
      rw [value_setAll_unknown hf] at h
      obtain ⟨f, x, l', hm, hr⟩ := ih h
      exact ⟨f, x, l', List.mem_cons_of_mem _ hm, hr⟩
    | some g =>
      obtain rfl := ofText?_eq_some_iff.mp hf
      rw [value_setAll_name] at h
      cases hc : readAs v g with
      | ok c =>
        rw [hc] at h
        obtain ⟨f, x, l', hm, hr⟩ := ih h
        exact ⟨f, x, l', List.mem_cons_of_mem _ hm, hr⟩
      | error l' =>
        rw [hc] at h
        cases h
        exact ⟨g, v, l', List.mem_cons_self, hc, rfl⟩

end Entries

section Sources

/-- No field is given as a record, by the file or by a variable, and no variable has a name that
leads into a record. -/
structure Flat (v : Value) (env : List Variable) : Prop where
  noDots : ∀ x ∈ env, '.' ∉ x.1
  inFile : ∀ f : FieldName, ∀ x, v.entries.lookup f.name = some x → x.isRecord = false
  inVariables : ∀ f : FieldName, ∀ start ∈ [longStart, shortStart], ∀ x ∈ env,
    Variable.names start f.name x.1 → (Variable.read x.2).isRecord = false

def fileValue (file : Option Text) : Except Yaml.Fault Value :=
  (file.map Yaml.read).getD (.ok (.record []))

/-- The value that decides a field, and its source. A short variable counts before a long one, and
either of them before the file. -/
def deciding (v : Value) (env : List Variable) (f : FieldName) : Option (Source × Value) :=
  ((Variable.given shortStart env f.name).map (.shortVariables, ·)).or
    (((Variable.given longStart env f.name).map (.longVariables, ·)).or
      ((v.entries.lookup f.name).map (.file, ·)))

def Decided (w : FieldName → Option (Source × Value)) (s : Settings) : Prop :=
  DecidedFrom {} (fun f => (w f).map (·.2)) s

variable {file : Option Text} {env : List Variable} {v : Value}

lemma isSorted_fileValue (h : fileValue file = .ok v) : v.IsSorted := by
  cases file with
  | none =>
    cases h
    exact Value.isSorted_empty
  | some t => exact Yaml.isSorted_of_read h

section Merged

variable (hv : fileValue file = .ok v) (hf : Flat v env)

include hf in
lemma lookup_record (f : FieldName) {start : Text} (hs : start ∈ [longStart, shortStart]) :
    (Variable.record start env).entries.lookup f.name = Variable.given start env f.name :=
  Variable.lookup_record hf.noDots f.name_ne_nil (hf.inVariables f start hs)

include hf in
lemma isRecord_of_given {f : FieldName} {start : Text} (hs : start ∈ [longStart, shortStart])
    {x : Value} (h : Variable.given start env f.name = some x) : x.isRecord = false := by
  obtain ⟨y, hy, rfl⟩ := Option.map_eq_some_iff.mp h
  have hn := List.find?_some hy
  exact hf.inVariables f start hs y (List.mem_reverse.mp (List.mem_of_find?_eq_some hy)) hn

include hv hf in
lemma lookup_merged (f : FieldName) :
    (layers v env).merged.entries.lookup f.name = (deciding v env f).map (·.2) := by
  have hl : longStart ∈ [longStart, shortStart] := by simp
  have hs : shortStart ∈ [longStart, shortStart] := by simp
  have hm : (layers v env).merged = (((Value.record []).merge v).merge
      (Variable.record longStart env)).merge (Variable.record shortStart env) := rfl
  rw [hm, Value.lookup_entries_merge (Variable.isSorted_record hf.noDots _),
    Value.lookup_entries_merge (Variable.isSorted_record hf.noDots _),
    Value.lookup_entries_merge (isSorted_fileValue hv) (hf.inFile f), lookup_record hf f hl,
    lookup_record hf f hs, deciding]
  · simp only [Option.map_or, Option.map_map, Function.comp_def, Option.map_id', Value.entries,
      List.lookup_nil, Option.or_none]
  · rw [lookup_record hf f hl]
    exact fun x => isRecord_of_given hf hl
  · rw [lookup_record hf f hs]
    exact fun x => isRecord_of_given hf hs

include hv hf in
lemma isSorted_merged : (layers v env).merged.IsSorted :=
  ((Value.isSorted_empty.merge (isSorted_fileValue hv)).merge
    (Variable.isSorted_record hf.noDots _)).merge (Variable.isSorted_record hf.noDots _)

include hv hf in
lemma sourceOf_eq {f : FieldName} {source : Source} {x : Value}
    (h : deciding v env f = some (source, x)) : (layers v env).sourceOf [f.name] = source := by
  have hl : longStart ∈ [longStart, shortStart] := by simp
  have hs : shortStart ∈ [longStart, shortStart] := by simp
  have hr : (layers v env).reverse = [(.shortVariables, Variable.record shortStart env),
    (.longVariables, Variable.record longStart env), (.file, v)] := rfl
  rw [Layers.sourceOf, hr]
  simp only [List.find?_cons, Value.get?_singleton (Variable.isSorted_record hf.noDots _),
    Value.get?_singleton (isSorted_fileValue hv), lookup_record hf f hl, lookup_record hf f hs]
  rw [deciding] at h
  cases hs : Variable.given shortStart env f.name with
  | some y =>
    rw [hs] at h
    cases h
    rfl
  | none =>
    rw [hs] at h
    cases hl : Variable.given longStart env f.name with
    | some y =>
      rw [hl] at h
      cases h
      rfl
    | none =>
      rw [hl] at h
      obtain ⟨y, hy, he⟩ := Option.map_eq_some_iff.mp h
      cases he
      rw [hy]
      rfl

include hv in
lemma value_load :
    (load file env).value =
      ((setAll {} (layers v env).merged.entries).value.mapError fun l =>
        .value ((layers v env).sourceOf l.path) l).map fun s => s.completed.value := by
  have hs : ofSources file env = ofLayers (layers v env) := by
    rw [ofSources, ← fileValue, hv]
  rw [load, hs, Logged.value_bind]
  change _ = (ofLayers (layers v env)).value.map _
  cases (ofLayers (layers v env)).value <;> rfl

include hv hf in
lemma load_eq_ok_iff (r : Settings) :
    (load file env).value = .ok r ↔ ∃ s, Decided (deciding v env) s ∧ r = s.completed.value := by
  have hd : ∀ s, (setAll {} (layers v env).merged.entries).value = .ok s ↔
      Decided (deciding v env) s := by
    intro s
    rw [value_setAll_eq_ok_iff (isSorted_merged hv hf).nodup_keys, Decided]
    simp only [lookup_merged hv hf]
  simp only [← hd, value_load hv]
  cases (setAll {} (layers v env).merged.entries).value with
  | ok s =>
    constructor
    · intro h
      cases h
      exact ⟨s, rfl, rfl⟩
    · rintro ⟨_, hs, rfl⟩
      cases hs
      rfl
  | error l =>
    constructor
    · intro h
      cases h
    · rintro ⟨_, hs, _⟩
      cases hs

include hv hf in
lemma exists_of_load_eq_error {e : LoadFault} (h : (load file env).value = .error e) :
    ∃ f source x l, deciding v env f = some (source, x) ∧ readAs x f = .error l ∧
      ∃ reported, e = .value reported ⟨f.name :: l.path, l.fault⟩ ∧
        (l.path = [] → reported = source) := by
  rw [value_load hv] at h
  cases hs : (setAll {} (layers v env).merged.entries).value with
  | ok s =>
    rw [hs] at h
    cases h
  | error l =>
    rw [hs] at h
    cases h
    obtain ⟨f, x, l, hm, hx, rfl⟩ := exists_of_setAll_eq_error hs
    have hl := lookup_eq_some_of_mem (isSorted_merged hv hf).nodup_keys hm
    rw [lookup_merged hv hf] at hl
    obtain ⟨⟨source, y⟩, hd, rfl⟩ := Option.map_eq_some_iff.mp hl
    refine ⟨f, source, y, l, hd, hx, _, rfl, ?_⟩
    intro hp
    rw [hp]
    exact sourceOf_eq hv hf hd

end Merged

/-- Loading is decided field by field: it succeeds where each field can be read from the value that
decides it, and fails where one of these values cannot be read. -/
theorem load_iff_decided (hv : fileValue file = .ok v) (hf : Flat v env) :
    (∀ r, (load file env).value = .ok r ↔
      ∃ s, Decided (deciding v env) s ∧ r = s.completed.value) ∧
    ((∃ e, (load file env).value = .error e) ↔
      ∃ f source x l, deciding v env f = some (source, x) ∧ readAs x f = .error l) := by
  refine ⟨load_eq_ok_iff hv hf, ?_, ?_⟩
  · rintro ⟨e, he⟩
    obtain ⟨f, source, x, l, hd, hx, -⟩ := exists_of_load_eq_error hv hf he
    exact ⟨f, source, x, l, hd, hx⟩
  · rintro ⟨f, source, x, l, hd, hx⟩
    cases hr : (load file env).value with
    | error e => exact ⟨e, rfl⟩
    | ok r =>
      obtain ⟨s, hs, -⟩ := (load_eq_ok_iff hv hf r).mp hr
      have hs := hs f
      simp only [hd, Option.map_some, hx, reduceCtorEq] at hs

def overriddenFile : Text := "log_level: debug\ntrace_x_datadog_tags_max_length: many".toList

def overridingVariables : List Variable :=
  [("dd_trace_propagation_style".toList, "b3".toList),
    ("DATADOG_TRACE_PROPAGATION_STYLE".toList, "zipkin".toList),
    ("Datadog_Trace_X_Datadog_Tags_Max_Length".toList, "64".toList)]

set_option maxRecDepth 20000 in
theorem load_iff_decided_overridden :
    ∃ v, fileValue (some overriddenFile) = .ok v ∧ Flat v overridingVariables ∧
      (load (some overriddenFile) overridingVariables).value =
        .ok { logLevel := .debug, styles := [.b3single], extractStyles := [.b3single],
              injectStyles := [.b3single], tagsLimit := 64 } := by
  let v : Value := .record [("log_level".toList, .text "debug".toList),
    ("trace_x_datadog_tags_max_length".toList, .text "many".toList)]
  have hv : fileValue (some overriddenFile) = .ok v := by with_unfolding_all rfl
  have hr : ∀ x ∈ overridingVariables, (Variable.read x.2).isRecord = false := by decide
  have hf : Flat v overridingVariables := by
    refine ⟨by decide, ?_, fun f start hs x hx _ => hr x hx⟩
    intro f x h
    cases f <;> cases h <;> rfl
  have hd : Decided (deciding v overridingVariables)
      { logLevel := .debug, styles := [.b3single], tagsLimit := 64 } := by
    intro f
    cases f <;> rfl
  exact ⟨v, hv, hf, ((load_iff_decided hv hf).1 _).mpr ⟨_, hd, rfl⟩⟩

end Sources

end TraceHeaders.Settings
