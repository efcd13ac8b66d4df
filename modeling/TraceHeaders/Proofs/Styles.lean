import TraceHeaders.Proofs.B3
import TraceHeaders.Proofs.Datadog.Headers
import TraceHeaders.Proofs.Haystack
import TraceHeaders.Proofs.RoundTrip.TraceContext
import TraceHeaders.Proofs.RoundTrip.Xray

namespace TraceHeaders

namespace Style

def headerNames : Style → List Text
  | datadog => Datadog.names
  | b3multi => B3.multiNames
  | b3single => [B3.singleName]
  | traceContext => TraceContext.names
  | haystack => Haystack.names
  | xray => [Xray.headerName]
  | none => []

variable {style other : Style} {n : Text}

lemma isPlainName_of_mem (hn : n ∈ style.headerNames) : isPlainName n := by
  revert n
  cases style <;> decide

lemma nodup_headerNames (style : Style) : style.headerNames.Nodup := by
  cases style <;> decide

lemma notMem_headerNames (h : other ≠ style) (hn : n ∈ style.headerNames) :
    n ∉ other.headerNames := by
  have ha : ∀ s t : Style, s ≠ t → ∀ n ∈ t.headerNames, n ∉ s.headerNames := by
    intro s t
    cases s <;> cases t <;> decide
  exact ha other style h n hn

lemma not_prefix_headerName (hn : n ∈ style.headerNames) :
    ¬ Datadog.baggageStart <+: n ∧ ¬ Haystack.baggageStart <+: n := by
  revert n
  cases style <;> decide

end Style

namespace Settings

variable {s : Settings} {style : Style} {styles : List Style} {c : Context} {v : HeaderView}

def identity (s : Settings) (c : Context) : Style → List Header
  | .datadog => Datadog.headers c ((Datadog.outgoingTags c).header? s.tagsLimit).value
  | .b3multi => B3.injectMulti s.b3Padding c
  | .b3single => B3.injectSingle s.b3Padding c
  | .traceContext => TraceContext.headers c
  | .haystack => Haystack.identity c
  | .xray => Xray.headers c
  | .none => []

def baggageHeaders (s : Settings) (c : Context) : Style → List Header
  | .datadog =>
    if s.baggageEnabled then Baggage.inject (Datadog.baggageStart ++ ·) c.baggage else []
  | .haystack => Baggage.inject (Haystack.baggageStart ++ ·) c.baggage
  | _ => []

lemma value_inject (hm : s.baggageMapping = ∅) (style : Style) :
    ((s.codec style).inject c).value = s.identity c style ++ s.baggageHeaders c style := by
  cases style with
  | datadog => exact Datadog.value_inject s.baggageEnabled s.tagsLimit c
  | b3multi => exact (List.append_nil _).symm
  | b3single => exact (List.append_nil _).symm
  | traceContext =>
    have hc : (s.codec .traceContext).inject c = TraceContext.inject c := rfl
    rw [hc, TraceContext.value_inject]
    exact (List.append_nil _).symm
  | haystack =>
    have hc : (s.codec .haystack).inject c = pure (Haystack.inject s.baggageMapping c) := rfl
    rw [hc, hm]
    exact Haystack.inject_empty c
  | xray => exact (Xray.value_inject c).trans (List.append_nil _).symm
  | none => rfl

lemma names_identity (s : Settings) (c : Context) (style : Style) :
    ((s.identity c style).map (·.1)).Sublist style.headerNames := by
  cases style with
  | datadog => exact Datadog.names_headers c _
  | b3multi => exact B3.names_injectMulti s.b3Padding c
  | b3single => exact B3.names_injectSingle s.b3Padding c
  | traceContext => exact TraceContext.names_headers c
  | haystack => exact Haystack.names_identity c
  | xray => exact .refl _
  | none => exact .slnil

lemma plainHeaders_identity (s : Settings) (c : Context) (style : Style) :
    PlainHeaders (s.identity c style) :=
  .of_sublist style.headerNames (names_identity s c style) (fun _ => Style.isPlainName_of_mem)
    style.nodup_headerNames

lemma under_baggageHeaders {n : Text} (other : Style) (hn : n ∈ style.headerNames) :
    under (s.baggageHeaders c other) n = [] := by
  have hm := Style.isPlainName_of_mem hn
  obtain ⟨hd, hh⟩ := Style.not_prefix_headerName hn
  cases other with
  | datadog =>
    rw [baggageHeaders]
    split
    · exact Baggage.under_inject (by decide) hm hd
    · rfl
  | haystack => exact Baggage.under_inject (by decide) hm hh
  | _ => rfl

lemma under_identity_of_ne {n : Text} {other : Style} (h : other ≠ style)
    (hn : n ∈ style.headerNames) : under (s.identity c other) n = [] := by
  apply under_eq_nil
  intro e he
  have hm : e.1 ∈ other.headerNames :=
    (names_identity s c other).subset (List.mem_map_of_mem he)
  rw [similar_of_plain (Style.isPlainName_of_mem hm) (Style.isPlainName_of_mem hn),
    decide_eq_false_iff_not]
  rintro rfl
  exact Style.notMem_headerNames h hn hm

lemma under_inject (hm : s.baggageMapping = ∅) {n : Text} (hn : n ∈ style.headerNames)
    (other : Style) :
    under ((s.codec other).inject c).value n =
      if other = style then under (s.identity c style) n else [] := by
  rw [value_inject hm, under_append, under_baggageHeaders other hn, List.append_nil]
  split
  · next h => rw [h]
  · next h => exact under_identity_of_ne h hn

lemma value_injector (s : Settings) (styles : List Style) (c : Context) :
    (Injector.inject ⟨s.registrations styles⟩ c).value =
      styles.flatMap fun style => ((s.codec style).inject c).value := by
  rw [Injector.inject, Logged.value_bind, Logged.value_mapM, Logged.value_pure, registrations,
    List.map_map, List.flatMap_def]
  rfl

lemma flatMap_ite_self (hn : styles.Nodup) (hs : style ∈ styles) (es : List Header) :
    (styles.flatMap fun other => if other = style then es else []) = es := by
  induction styles with
  | nil => cases hs
  | cons other rest ih =>
    obtain ⟨hm, hn⟩ := List.nodup_cons.mp hn
    rw [List.flatMap_cons]
    by_cases ho : other = style
    · subst ho
      rw [if_pos rfl, List.append_right_eq_self, List.flatMap_eq_nil_iff]
      intro x hx
      rw [if_neg]
      rintro rfl
      exact hm hx
    · rw [if_neg ho, List.nil_append]
      apply ih hn
      exact List.mem_of_ne_of_mem (Ne.symm ho) hs

lemma under_injector (hm : s.baggageMapping = ∅) (hs : styles.Nodup) (hst : style ∈ styles)
    {n : Text} (hn : n ∈ style.headerNames) :
    under (Injector.inject ⟨s.registrations styles⟩ c).value n =
      under (s.identity c style) n := by
  rw [value_injector, under_flatMap, funext (under_inject hm hn), flatMap_ite_self hs hst]

lemma shows_identity (hm : s.baggageMapping = ∅) (hs : styles.Nodup) (hst : style ∈ styles)
    (hv : Delivered (Injector.inject ⟨s.registrations styles⟩ c).value v) :
    Shows v (s.identity c style) style.headerNames :=
  hv.shows (plainHeaders_identity s c style) fun _ hn =>
    ⟨Style.isPlainName_of_mem hn, under_injector hm hs hst hn⟩

end Settings

end TraceHeaders
