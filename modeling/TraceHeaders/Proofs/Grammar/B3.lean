import TraceHeaders.Proofs.B3
import TraceHeaders.Proofs.TraceId

/-! The texts that are read as a single `b3` header, told without the reader. -/

namespace TraceHeaders

namespace Text

variable {sep : Char}

lemma splitOn_eq_iff {t : Text} {ps : List Text} (hp : ps ≠ []) :
    t.splitOn sep = ps ↔ t = [sep].intercalate ps ∧ ∀ p ∈ ps, sep ∉ p := by
  constructor
  · rintro rfl
    exact ⟨(List.intercalate_splitOn sep).symm, fun p => sep_not_mem_of_mem_splitOn⟩
  · rintro ⟨rfl, hs⟩
    exact List.splitOn_intercalate sep hs hp

lemma mem_trim_iff {c : Char} (hc : isBlank c = false) {t : Text} : c ∈ trim t ↔ c ∈ t := by
  constructor
  · exact fun h => trim_subset t h
  · intro h
    obtain ⟨a, b, rfl⟩ := List.append_of_mem h
    rw [trim_append_cons hc]
    exact List.mem_append_right _ List.mem_cons_self

end Text

def HeaderView.without (name : Text) (v : HeaderView) : HeaderView where
  get? n := if Text.sameName n name then none else v.get? n
  getAll n := if Text.sameName n name then [] else v.getAll n
  names := v.names.filter fun n => !Text.sameName n name

lemma RequestTags.collect_without {name : Text}
    (h : ∀ n ∈ wholeHeaders ++ firstHopHeaders, ¬ Text.sameName n name) (v : HeaderView) :
    collect (v.without name) = collect v :=
  collect_congr fun n hn => if_neg (h n hn)

namespace B3

inductive Stands : Text → Int8 → Bool → Prop
  | deny : Stands ['0'] 0 false
  | accept : Stands ['1'] 1 false
  | debug : Stands ['d'] 2 true

/-- What the parts after the identifiers say. The last one is another span. -/
inductive Ending : List Text → Option Int8 → Bool → Prop
  | missing : Ending [] none false
  | state {x : Text} {priority : Int8} {isDebug : Bool} :
      Stands x priority isDebug → Ending [x] (some priority) isDebug
  | parent {x q : Text} {priority : Int8} {isDebug : Bool} :
      Stands x priority isDebug → 1 ≤ q.length → q.length ≤ 16 → (∀ c ∈ q, Text.isHexDigit c) →
        Ending [x, q] (some priority) isDebug

structure Named (digits : Nat) (t : Text) : Prop where
  length_le : (Text.trim t).length ≤ digits
  identifying : Text.Identifying (Text.trim t)

lemma isId_iff {max : Nat} {t : Text} :
    isId max t ↔ 1 ≤ t.length ∧ t.length ≤ max ∧ ∀ c ∈ t, Text.isHexDigit c := by
  rw [isId, Bool.and_eq_true, Bool.and_eq_true, decide_eq_true_eq, List.all_eq_true, and_assoc,
    Bool.not_eq_true', List.isEmpty_eq_false_iff, ← List.length_pos_iff]
  rfl

lemma id?_trim_eq_some_iff {max n : Nat} {t : Text} :
    id? max (Text.trim t) = some n ↔ Named max t ∧ n = Text.hexValue (Text.trim t) := by
  rw [id?_eq_some_iff, isId_iff]
  constructor
  · rintro ⟨⟨h1, hm, hd⟩, hx, h0⟩
    rw [Text.hex?_eq_hexValue (List.ne_nil_of_length_pos h1) hd, Option.some.injEq] at hx
    subst hx
    exact ⟨⟨hm, (Text.identifying_iff hd).mpr h0⟩, rfl⟩
  · rintro ⟨h, rfl⟩
    have hd := h.identifying.digits
    obtain ⟨c, hc, -⟩ := h.identifying.nonzero
    have hn := List.ne_nil_of_mem hc
    exact ⟨⟨List.length_pos_of_mem hc, h.length_le, hd⟩, Text.hex?_eq_hexValue hn hd,
      (Text.identifying_iff hd).mp h.identifying⟩

lemma Named.hexValue_lt {digits : Nat} {t : Text} (h : Named digits t) :
    Text.hexValue (Text.trim t) < 16 ^ digits :=
  (Text.hexValue_lt h.identifying.digits).trans_le (Nat.pow_le_pow_right (by decide) h.length_le)

lemma Named.hyphen_notMem {digits : Nat} {t : Text} (h : Named digits t) : '-' ∉ t := by
  intro hm
  have hd := h.identifying.digits '-' ((Text.mem_trim_iff rfl).mpr hm)
  exact absurd hd (by decide)

lemma Ending.hyphen_notMem {rest : List Text} {priority : Option Int8} {isDebug : Bool}
    (h : Ending rest priority isDebug) : ∀ p ∈ rest, '-' ∉ p := by
  have hs : ∀ {x : Text} {p : Int8} {d : Bool}, Stands x p d → '-' ∉ x := by
    intro x p d hx
    cases hx <;> decide
  cases h with
  | missing => exact fun p hp => absurd hp List.not_mem_nil
  | state hx => exact List.forall_mem_singleton.mpr (hs hx)
  | parent hx _ _ hq =>
    refine List.forall_mem_cons.mpr ⟨hs hx, List.forall_mem_singleton.mpr fun hm => ?_⟩
    exact absurd (hq '-' hm) (by decide)

lemma ids_iff {a b : Text} {t : TraceId} {s : UInt64} :
    ids (some a) (some b) = .ok (t, s) ↔
      Named 32 a ∧ Named 16 b ∧ TraceId.Denotes (Text.trim a) (Text.trim b) t s := by
  rw [ids_eq_ok_iff]
  simp only [Option.map_some, Option.bind_some, id?_trim_eq_some_iff]
  constructor
  · rintro ⟨m, n, ⟨ha, rfl⟩, ⟨hb, rfl⟩, ht, hs⟩
    exact ⟨ha, hb, (TraceId.denotes_iff ha.hexValue_lt hb.hexValue_lt).mpr ⟨ht, hs⟩⟩
  · rintro ⟨ha, hb, hd⟩
    obtain ⟨ht, hs⟩ := (TraceId.denotes_iff ha.hexValue_lt hb.hexValue_lt).mp hd
    exact ⟨_, _, ⟨ha, rfl⟩, ⟨hb, rfl⟩, ht, hs⟩

def State.Means (st : State) (priority : Option Int8) (isDebug : Bool) : Prop :=
  st.sampling = { priority } ∧ decide (st = .debug) = isDebug

lemma State.means_self (st : State) : st.Means st.sampling.priority (decide (st = .debug)) := by
  refine ⟨?_, rfl⟩
  cases st <;> rfl

lemma singleState_iff {x : Text} {priority : Option Int8} {isDebug : Bool} :
    (∃ st, singleState (some x) = .ok st ∧ st.Means priority isDebug) ↔
      ∃ p, priority = some p ∧ Stands x p isDebug := by
  constructor
  · rintro ⟨st, hs, hp, rfl⟩
    unfold singleState at hs
    split at hs
    · next h => cases h
    · next h =>
      cases h; cases hs; cases hp
      exact ⟨1, rfl, .accept⟩
    · next h =>
      cases h; cases hs; cases hp
      exact ⟨0, rfl, .deny⟩
    · next h =>
      cases h; cases hs; cases hp
      exact ⟨2, rfl, .debug⟩
    · cases hs
  · rintro ⟨p, rfl, hs⟩
    cases hs with
    | deny => exact ⟨.deny, rfl, rfl, rfl⟩
    | accept => exact ⟨.accept, rfl, rfl, rfl⟩
    | debug => exact ⟨.debug, rfl, rfl, rfl⟩

lemma checkParent_eq_ok_iff {q : Text} :
    checkParent (some q) = .ok () ↔ 1 ≤ q.length ∧ q.length ≤ 16 ∧ ∀ c ∈ q, Text.isHexDigit c := by
  rw [← isId_iff, checkParent]
  by_cases h : isId 16 q <;> simp [h]

lemma ending_iff {rest : List Text} {priority : Option Int8} {isDebug : Bool} :
    Ending rest priority isDebug ↔ rest.length ≤ 2 ∧ checkParent rest[1]? = .ok () ∧
      ∃ st, singleState rest[0]? = .ok st ∧ st.Means priority isDebug := by
  constructor
  · intro h
    cases h with
    | missing => exact ⟨by decide, rfl, .deferred, rfl, rfl, rfl⟩
    | state hx => exact ⟨by simp, rfl, singleState_iff.mpr ⟨_, rfl, hx⟩⟩
    | parent hx h1 hl hq =>
      exact ⟨by simp, checkParent_eq_ok_iff.mpr ⟨h1, hl, hq⟩, singleState_iff.mpr ⟨_, rfl, hx⟩⟩
  · rintro ⟨hl, hc, hs⟩
    rcases rest with _ | ⟨x, _ | ⟨q, _ | ⟨y, r⟩⟩⟩
    · obtain ⟨st, hs, hp, rfl⟩ := hs
      cases hs
      cases hp
      exact .missing
    · obtain ⟨p, rfl, hx⟩ := singleState_iff.mp hs
      exact .state hx
    · obtain ⟨p, rfl, hx⟩ := singleState_iff.mp hs
      obtain ⟨h1, hq⟩ := checkParent_eq_ok_iff.mp hc
      exact .parent hx h1 hq.1 hq.2
    · simp at hl

lemma exists_readSingle_iff {h : Text} {t : TraceId} {s : UInt64} {priority : Option Int8}
    {isDebug : Bool} :
    (∃ st, readSingle h = .ok (t, s, st) ∧ st.Means priority isDebug) ↔
      ∃ a b rest, h = ['-'].intercalate (a :: b :: rest) ∧ Named 32 a ∧ Named 16 b ∧
        TraceId.Denotes (Text.trim a) (Text.trim b) t s ∧ Ending rest priority isDebug := by
  constructor
  · rintro ⟨st, hr, hm⟩
    obtain ⟨a, b, rest, hs, hl, hi, hst, hc⟩ := readSingle_eq_ok_iff.mp hr
    obtain ⟨ha, hb, hd⟩ := ids_iff.mp hi
    obtain ⟨hh, -⟩ := (Text.splitOn_eq_iff (List.cons_ne_nil _ _)).mp hs
    exact ⟨a, b, rest, hh, ha, hb, hd, ending_iff.mpr ⟨hl, hc, st, hst, hm⟩⟩
  · rintro ⟨a, b, rest, hh, ha, hb, hd, he⟩
    obtain ⟨hl, hc, st, hst, hm⟩ := ending_iff.mp he
    have hp : ∀ p ∈ a :: b :: rest, '-' ∉ p := List.forall_mem_cons.mpr
      ⟨ha.hyphen_notMem, List.forall_mem_cons.mpr ⟨hb.hyphen_notMem, he.hyphen_notMem⟩⟩
    have hs := (Text.splitOn_eq_iff (List.cons_ne_nil _ _)).mpr ⟨hh, hp⟩
    exact ⟨st, readSingle_eq_ok_iff.mpr ⟨a, b, rest, hs, hl, ids_iff.mpr ⟨ha, hb, hd⟩, hst, hc⟩, hm⟩

lemma context_of_means {st : State} {priority : Option Int8} {isDebug : Bool}
    (h : st.Means priority isDebug) (v : HeaderView) (traceId : TraceId) (spanId : UInt64) :
    context .b3single v traceId spanId st =
      { traceId, spanId, style := .b3single, sampling := { priority }, tagSet := { isDebug },
        requestTags := RequestTags.collect v } := by
  rw [context, h.1, h.2]

/-- A complete context is read exactly from a header of two, three or four parts, and nothing in it
comes of the fourth. -/
theorem extractSingle_complete_iff {v : HeaderView} {c : Context} :
    (extractSingle v).value = some (.complete c) ↔
      ∃ header a b rest traceId spanId priority isDebug,
        v.get? singleName = some header ∧
        Text.trim header = ['-'].intercalate (a :: b :: rest) ∧
        Named 32 a ∧ Named 16 b ∧ Ending rest priority isDebug ∧
        TraceId.Denotes (Text.trim a) (Text.trim b) traceId spanId ∧
        c = {
          traceId
          spanId
          style := .b3single
          sampling := { priority }
          tagSet := { isDebug }
          requestTags := RequestTags.collect (v.without singleName) } := by
  have hn : ∀ n ∈ RequestTags.wholeHeaders ++ RequestTags.firstHopHeaders,
      ¬ Text.sameName n singleName := by
    decide
  rw [RequestTags.collect_without hn]
  constructor
  · intro h
    obtain ⟨t, traceId, spanId, st, hg, -, hr, rfl⟩ := extractSingle_eq_complete_iff.mp h
    obtain ⟨header, hh, rfl⟩ := Option.map_eq_some_iff.mp hg
    obtain ⟨a, b, rest, ht, ha, hb, hd, he⟩ := exists_readSingle_iff.mp ⟨st, hr, st.means_self⟩
    exact ⟨header, a, b, rest, traceId, spanId, _, _, hh, ht, ha, hb, he, hd,
      context_of_means st.means_self v traceId spanId⟩
  · rintro ⟨header, a, b, rest, traceId, spanId, priority, isDebug, hh, ht, ha, hb, he, hd, rfl⟩
    obtain ⟨st, hr, hm⟩ := exists_readSingle_iff.mpr ⟨a, b, rest, ht, ha, hb, hd, he⟩
    refine extractSingle_eq_complete_iff.mpr ⟨_, traceId, spanId, st, ?_, ?_, hr, ?_⟩
    · rw [hh, Option.map_some]
    · intro h0
      rw [h0] at hr
      cases hr
    · exact (context_of_means hm v traceId spanId).symm

end B3

end TraceHeaders
