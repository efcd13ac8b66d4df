import TraceHeaders.Proofs.Styles

/-! A map that several styles are written to holds the headers of all of them, in any order. -/

namespace TraceHeaders

namespace Style

def baggageStarts : Style → List Text
  | datadog => [Datadog.baggageStart]
  | haystack => [Haystack.baggageStart]
  | _ => []

variable {style other : Style} {start n : Text}

lemma isPlainName_of_mem_baggageStarts (h : start ∈ style.baggageStarts) : isPlainName start := by
  revert start
  cases style <;> decide

lemma not_prefix_of_mem_headerNames (hs : start ∈ other.baggageStarts)
    (hn : n ∈ style.headerNames) : ¬ start <+: n := by
  have hm : start ∈ [Datadog.baggageStart, Haystack.baggageStart] := by
    revert start
    cases other <;> decide
  obtain ⟨hd, hh⟩ := not_prefix_headerName hn
  obtain rfl | rfl := List.mem_pair.mp hm
  · exact hd
  · exact hh

lemma not_prefix_baggageStart (h : other ≠ style) {s t : Text} (hs : s ∈ other.baggageStarts)
    (ht : t ∈ style.baggageStarts) : ¬ s <+: t := by
  have ha : ∀ a b : Style, a ≠ b → ∀ s ∈ a.baggageStarts, ∀ t ∈ b.baggageStarts, ¬ s <+: t := by
    intro a b
    cases a <;> cases b <;> decide
  exact ha other style h s hs t ht

end Style

namespace Settings

variable {s : Settings} {style other : Style} {styles : List Style} {c : Context}

inductive Named (style : Style) (c : Context) : Text → Prop
  | own {n : Text} (h : n ∈ style.headerNames) : Named style c n
  | baggage {start key : Text} (hs : start ∈ style.baggageStarts) (hk : key ∈ c.baggage.keys) :
    Named style c (start ++ key)

lemma Named.lower {n : Text} (h : Named style c n) (hb : ∀ k ∈ c.baggage.keys, Text.lower k = k) :
    Text.lower n = n := by
  cases h with
  | own h => exact lower_of_plain (Style.isPlainName_of_mem h)
  | baggage hs hk =>
    exact lower_append_of_plain (Style.isPlainName_of_mem_baggageStarts hs) (hb _ hk)

lemma Named.unique {n : Text} (h : Named style c n) (ho : Named other c n) : other = style := by
  by_contra hne
  cases h with
  | own h =>
    cases ho with
    | own ho => exact Style.notMem_headerNames hne h ho
    | baggage hs hk =>
      exact Style.not_prefix_of_mem_headerNames hs h (List.prefix_append _ _)
  | @baggage start key hs hk =>
    generalize hn : start ++ key = n at ho
    have hp : start <+: n := ⟨key, hn⟩
    cases ho with
    | own ho => exact Style.not_prefix_of_mem_headerNames hs ho hp
    | baggage ht hl =>
      obtain hp | hp := List.prefix_or_prefix_of_prefix hp (List.prefix_append _ _)
      · exact Style.not_prefix_baggageStart (Ne.symm hne) hs ht hp
      · exact Style.not_prefix_baggageStart hne ht hs hp

def sent (s : Settings) (styles : List Style) (c : Context) : List Header :=
  (Injector.inject ⟨s.registrations styles⟩ c).value

end Settings

end TraceHeaders
