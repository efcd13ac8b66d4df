import TraceHeaders.Proofs.Baggage
import TraceHeaders.Proofs.Findings
import TraceHeaders.Proofs.Text.Numeral

namespace TraceHeaders.Datadog

variable {c : Context} {tags : Option Text} {v : HeaderView}

def names : List Text := [traceIdName, parentIdName, priorityName, originName, tagsName]

def headers (c : Context) (tags : Option Text) : List Header :=
  [(traceIdName, Text.ofNat c.traceId.low.toNat), (parentIdName, Text.ofNat c.spanId.toNat)] ++
    (c.sampling.priority.map fun p => (priorityName, Text.ofInt p.toInt)).toList ++
    (c.origin.map (originName, ·)).toList ++
    (tags.map (tagsName, ·)).toList

lemma value_inject (b : Bool) (limit : Nat) (c : Context) :
    (inject b limit c).value = headers c ((outgoingTags c).header? limit).value ++
      if b then Baggage.inject (baggageStart ++ ·) c.baggage else [] :=
  rfl

lemma names_headers (c : Context) (tags : Option Text) :
    ((headers c tags).map (·.1)).Sublist names := by
  rw [headers, names]
  cases c.sampling.priority <;> cases c.origin <;> cases tags <;> simp

lemma plainHeaders_headers (c : Context) (tags : Option Text) : PlainHeaders (headers c tags) :=
  .of_sublist names (names_headers c tags) (by decide) (by decide)

lemma under_inject (b : Bool) (limit : Nat) (c : Context) {n : Text} (hn : n ∈ names) :
    under (inject b limit c).value n =
      under (headers c ((outgoingTags c).header? limit).value) n := by
  have hb : ∀ n ∈ names, isPlainName n ∧ ¬ baggageStart <+: n := by decide
  rw [value_inject, under_append]
  cases b with
  | false => exact List.append_nil _
  | true =>
    obtain ⟨hm, hp⟩ := hb n hn
    rw [if_pos rfl, Baggage.under_inject (by decide) hm hp, List.append_nil]

lemma shows_headers {b : Bool} {limit : Nat} (hv : Delivered (inject b limit c).value v) :
    Shows v (headers c ((outgoingTags c).header? limit).value) names := by
  have hm : ∀ n ∈ names, isPlainName n := by decide
  exact hv.shows (plainHeaders_headers c _) fun n hn => ⟨hm n hn, under_inject b limit c hn⟩

lemma valueUnder_headers (c : Context) (tags : Option Text) :
    valueUnder (headers c tags) traceIdName = some (Text.ofNat c.traceId.low.toNat) ∧
      valueUnder (headers c tags) parentIdName = some (Text.ofNat c.spanId.toNat) ∧
      valueUnder (headers c tags) priorityName =
        c.sampling.priority.map (fun p => Text.ofInt p.toInt) ∧
      valueUnder (headers c tags) tagsName = tags := by
  rw [headers]
  cases c.sampling.priority <;> cases c.origin <;> cases tags <;> exact ⟨rfl, rfl, rfl, rfl⟩

lemma uint64?_trim_ofNat (w : UInt64) : Text.uint64? (Text.trim (Text.ofNat w.toNat)) = some w := by
  rw [Text.trim_of_not_blank fun _ => Text.not_blank_of_mem_ofNat, Text.uint64?_ofNat]

lemma isZeros_ofNat {n : Nat} (h : n ≠ 0) : isZeros (Text.ofNat n) = false := by
  rw [isZeros, Bool.and_eq_false_iff]
  refine .inr (Bool.eq_false_iff.mpr fun hz => h ?_)
  have hr : Text.ofNat n = List.replicate (Text.ofNat n).length '0' :=
    List.eq_replicate_of_mem fun c hc => of_decide_eq_true (List.all_eq_true.mp hz c hc)
  have hv := Nat.ofDigitChars_ten_toDigits (n := n)
  rw [← Text.ofNat, hr, Nat.ofDigitChars_replicate_zero] at hv
  omega

lemma value_extract_headers (b : Bool) (limit : Nat) (hl : c.traceId.low ≠ 0)
    (hv : Shows v (headers c tags) names) :
    v.get? tagsName = tags ∧
      (extract b limit v).value = some (.complete
        (contextOf b limit v c.traceId.low c.spanId c.sampling.priority)) := by
  obtain ⟨h₁, h₂, h₃, h₄⟩ := valueUnder_headers c tags
  have g₁ := (hv traceIdName (by decide)).1.trans h₁
  have g₂ := (hv parentIdName (by decide)).1.trans h₂
  have g₃ := (hv priorityName (by decide)).1.trans h₃
  have g₄ := (hv tagsName (by decide)).1.trans h₄
  have hz : c.traceId.low.toNat ≠ 0 := fun h => hl (UInt64.toNat_inj.mp h)
  have ht : traceId v = .ok c.traceId.low := by
    have hn := Text.trim_of_not_blank fun _ =>
      Text.not_blank_of_mem_ofNat (n := c.traceId.low.toNat)
    rw [traceId, g₁, Option.map_some, hn]
    simp only [isZeros_ofNat hz, Text.uint64?_ofNat, Bool.false_eq_true, if_false]
  have hi : parentId v = .ok c.spanId := by
    simp only [parentId, g₂, uint64?_trim_ofNat]
  have hs : priority v = .ok c.sampling.priority := by
    rw [priority, g₃]
    cases c.sampling.priority with
    | none => rfl
    | some p =>
      have hn := Text.trim_of_not_blank fun _ => Text.not_blank_of_mem_ofInt (z := p.toInt)
      simp only [Option.map_some, hn, Text.int8?_ofInt]
  refine ⟨g₄, extract_eq_complete_iff.mpr ⟨_, _, _, ht, ?_, rfl⟩⟩
  rw [parentAndPriority, hi, hs]
  rfl

end TraceHeaders.Datadog
