import TraceHeaders.Proofs.Delivery
import TraceHeaders.Proofs.Findings
import TraceHeaders.Proofs.Text.Numeral

namespace TraceHeaders.B3

lemma id?_eq_some_iff {max n : Nat} {t : Text} :
    id? max t = some n ↔ isId max t ∧ Text.hex? t = some n ∧ n ≠ 0 := by
  unfold id?
  by_cases ht : isId max t <;> simp [ht, Option.filter_eq_some_iff]

lemma id?_lt {max n : Nat} {t : Text} (h : id? max t = some n) : n < 16 ^ max := by
  obtain ⟨hi, hx, -⟩ := id?_eq_some_iff.mp h
  simp only [isId, Bool.and_eq_true, decide_eq_true_eq] at hi
  calc
    n < 16 ^ t.length := Text.hex?_lt hx
    _ ≤ 16 ^ max := Nat.pow_le_pow_right (by decide) hi.1.2

lemma ids_eq_ok_iff {a b : Option Text} {t : TraceId} {s : UInt64} :
    ids a b = .ok (t, s) ↔
      ∃ m n, (a.map Text.trim).bind (id? 32) = some m ∧ (b.map Text.trim).bind (id? 16) = some n ∧
        t = .ofNat m ∧ s = .ofNat n := by
  unfold ids
  cases (a.map Text.trim).bind (id? 32) with
  | none => simp
  | some m => cases (b.map Text.trim).bind (id? 16) <;> simp [eq_comm]

lemma readParts_eq_ok_iff {a b : Text} {x y : Option Text} {t : TraceId} {s : UInt64} {st : State} :
    readParts a b x y = .ok (t, s, st) ↔
      ids (some a) (some b) = .ok (t, s) ∧ singleState x = .ok st ∧ checkParent y = .ok () := by
  unfold readParts
  rcases hi : ids (some a) (some b) with e | ⟨u, w⟩
  · simp [bind, Except.bind]
  rcases hs : singleState x with e | z
  · simp [bind, Except.bind]
  rcases hc : checkParent y with e | _
  · simp [bind, Except.bind]
  · simp [bind, Except.bind, pure, Except.pure, and_assoc]

lemma readSingle_eq_ok_iff {h : Text} {t : TraceId} {s : UInt64} {st : State} :
    readSingle h = .ok (t, s, st) ↔
      ∃ a b rest, h.splitOn '-' = a :: b :: rest ∧ rest.length ≤ 2 ∧
        ids (some a) (some b) = .ok (t, s) ∧ singleState rest[0]? = .ok st ∧
        checkParent rest[1]? = .ok () := by
  unfold readSingle
  generalize h.splitOn '-' = ps
  rcases ps with _ | ⟨a, _ | ⟨b, _ | ⟨x, _ | ⟨q, _ | ⟨y, r⟩⟩⟩⟩⟩ <;>
    simp [readParts_eq_ok_iff, checkParent]

lemma exists_ids_of_readSingle {h : Text} {t : TraceId} {s : UInt64} {st : State}
    (hr : readSingle h = .ok (t, s, st)) : ∃ a b, ids (some a) (some b) = .ok (t, s) := by
  obtain ⟨a, b, -, -, -, hi, -, -⟩ := readSingle_eq_ok_iff.mp hr
  exact ⟨a, b, hi⟩

section Written

variable {padding : Bool} {c : Context} {v : HeaderView}

lemma id?_hexPadded {max width n : Nat} (hw : 0 < width) (hm : width ≤ max)
    (hn : n < Nat.pow 16 width) (h0 : n ≠ 0) : id? max (Text.hexPadded width n) = some n := by
  have hl := Text.length_hexPadded width n
  have he : (Text.hexPadded width n).isEmpty = false := by
    rw [List.isEmpty_eq_false_iff, ← List.length_pos_iff, hl]
    exact hw
  rw [id?_eq_some_iff, isId, he, hl, Text.all_isHexDigit_hexPadded, decide_eq_true hm]
  exact ⟨rfl, Text.hex?_hexPadded hw hn, h0⟩

lemma id?_hexWord {s : UInt64} (hs : s ≠ 0) : id? 16 (Text.hexWord s) = some s.toNat := by
  have hz : s.toNat ≠ 0 := fun h => hs (UInt64.toNat_inj.mp h)
  rw [Text.hexWord]
  exact id?_hexPadded (by decide) (Nat.le_refl 16) s.toNat_lt hz

lemma traceIdText_eq (padding : Bool) (t : TraceId) :
    ∃ width, 0 < width ∧ width ≤ 32 ∧ t.toNat < Nat.pow 16 width ∧
      traceIdText padding t = Text.hexPadded width t.toNat := by
  unfold traceIdText
  by_cases h : padding || t.isWide
  · refine ⟨32, by decide, Nat.le_refl 32, t.toNat_lt, ?_⟩
    rw [if_pos h]
  · cases t with
    | wide a b => simp [TraceId.isWide] at h
    | narrow a =>
      have ha : (TraceId.narrow a).toNat = a.toNat := by simp [TraceId.toNat, TraceId.high, TraceId.low]
      refine ⟨16, by decide, by decide, ?_, ?_⟩
      · rw [ha]
        exact a.toNat_lt
      · rw [if_neg h, ha]
        rfl

lemma ids_written {t : TraceId} {s : UInt64} (ht : t.isZero = false) (hs : s ≠ 0) :
    ids (some (traceIdText padding t)) (some (Text.hexWord s)) = .ok (.ofNat t.toNat, s) := by
  obtain ⟨width, h0, hm, hlt, he⟩ := traceIdText_eq padding t
  refine ids_eq_ok_iff.mpr ⟨t.toNat, s.toNat, ?_, ?_, rfl, UInt64.ofNat_toNat.symm⟩
  · rw [he, Option.map_some, Text.trim_hexPadded, Option.bind_some]
    exact id?_hexPadded h0 hm hlt (of_decide_eq_false ht)
  · rw [Option.map_some, Text.trim_hexWord, Option.bind_some]
    exact id?_hexWord hs

def multiNames : List Text := [traceIdName, spanIdName, sampledName, flagsName]

lemma names_injectMulti (padding : Bool) (c : Context) :
    ((injectMulti padding c).map (·.1)).Sublist multiNames := by
  rw [injectMulti, multiNames]
  cases c.sampling.isSampled <;> by_cases h : State.ofContext c = .debug <;> simp [h]

lemma names_injectSingle (padding : Bool) (c : Context) :
    ((injectSingle padding c).map (·.1)).Sublist [singleName] := by
  rw [injectSingle]
  exact .refl _

lemma valueUnder_injectMulti (padding : Bool) (c : Context) :
    valueUnder (injectMulti padding c) flagsName =
        (if State.ofContext c = .debug then some ['1'] else none) ∧
      valueUnder (injectMulti padding c) sampledName =
        c.sampling.isSampled.map fun b => [if b then '1' else '0'] := by
  rw [injectMulti]
  by_cases h : State.ofContext c = .debug
  · rw [if_pos h, if_pos h]
    cases c.sampling.isSampled <;> exact ⟨rfl, rfl⟩
  · rw [if_neg h, if_neg h]
    cases c.sampling.isSampled <;> exact ⟨rfl, rfl⟩

lemma multiState_shown (hv : Shows v (injectMulti padding c) multiNames) :
    multiState v = .ok (State.ofContext c) := by
  obtain ⟨hf, hs⟩ := valueUnder_injectMulti padding c
  rw [multiState, (hv flagsName (by decide)).1, (hv sampledName (by decide)).1, hf, hs]
  by_cases hd : c.tagSet.isDebug
  · have hc : State.ofContext c = .debug := if_pos hd
    rw [hc]
    rfl
  · rw [State.ofContext, if_neg hd]
    rcases c.sampling.isSampled with _ | _ | _ <;> rfl

lemma value_extractMulti_shown (ht : c.traceId.isZero = false) (hs : c.spanId ≠ 0)
    (hv : Shows v (injectMulti padding c) multiNames) :
    (extractMulti v).value = some (.complete
      (context .b3multi v (.ofNat c.traceId.toNat) c.spanId (State.ofContext c))) := by
  have h₁ := (hv traceIdName (by decide)).1
  have h₂ := (hv spanIdName (by decide)).1
  refine extractMulti_eq_complete_iff.mpr ⟨_, _, _, ?_, multiState_shown hv, rfl⟩
  rw [h₁, h₂]
  exact ids_written ht hs

def stateParts : State → List Text
  | .deferred => []
  | .accept => [['1']]
  | .deny => [['0']]
  | .debug => [['d']]

lemma readSingle_written {x y : Text} {t : TraceId} {s : UInt64} (hx : '-' ∉ x) (hy : '-' ∉ y)
    (hi : ids (some x) (some y) = .ok (t, s)) (st : State) :
    readSingle (x ++ '-' :: y ++ stateText st) = .ok (t, s, st) := by
  have hj : [('-' : Char)].intercalate (x :: y :: stateParts st) = x ++ '-' :: y ++ stateText st := by
    cases st <;> simp [stateParts, stateText]
  have hn : ∀ p ∈ x :: y :: stateParts st, '-' ∉ p := by
    refine List.forall_mem_cons.mpr ⟨hx, List.forall_mem_cons.mpr ⟨hy, ?_⟩⟩
    cases st <;> simp [stateParts]
  have hs := List.splitOn_intercalate '-' hn (List.cons_ne_nil _ _)
  refine readSingle_eq_ok_iff.mpr ⟨x, y, stateParts st, hj ▸ hs, ?_, hi, ?_, ?_⟩ <;>
    cases st <;> first | rfl | decide

lemma trim_single {x y : Text} (hx : ∀ ch ∈ x, Text.isBlank ch = false)
    (hy : ∀ ch ∈ y, Text.isBlank ch = false) (st : State) :
    Text.trim (x ++ '-' :: y ++ stateText st) = x ++ '-' :: y ++ stateText st := by
  have hs : ∀ ch ∈ stateText st, Text.isBlank ch = false := by
    apply Text.forall_mem_of_all
    cases st <;> decide
  apply Text.trim_of_not_blank
  intro ch hc
  simp only [List.mem_append, List.mem_cons] at hc
  obtain (hc | rfl | hc) | hc := hc
  · exact hx ch hc
  · rfl
  · exact hy ch hc
  · exact hs ch hc

lemma value_extractSingle_shown (ht : c.traceId.isZero = false) (hs : c.spanId ≠ 0)
    (hv : Shows v (injectSingle padding c) [singleName]) :
    (extractSingle v).value = some (.complete
      (context .b3single v (.ofNat c.traceId.toNat) c.spanId (State.ofContext c))) := by
  have hg := (hv singleName (List.mem_singleton_self _)).1
  rw [injectSingle, valueUnder_cons_self] at hg
  obtain ⟨width, -, -, -, he⟩ := traceIdText_eq padding c.traceId
  have hb : ∀ w n, ∀ ch ∈ Text.hexPadded w n, Text.isBlank ch = false := fun w n ch hc =>
    Text.not_blank_of_isLowerHexDigit (Text.mem_hexPadded hc)
  have hd : ∀ w n, '-' ∉ Text.hexPadded w n := Text.not_mem_hexPadded (by decide)
  have hi : ids (some (traceIdText padding c.traceId)) (some (Text.hexWord c.spanId)) =
      .ok (.ofNat c.traceId.toNat, c.spanId) := ids_written ht hs
  rw [he, Text.hexWord] at hg hi
  refine extractSingle_eq_complete_iff.mpr
    ⟨_, _, _, _, ?_, ?_, readSingle_written (hd _ _) (hd _ _) hi _, rfl⟩
  · rw [hg, Option.map_some, trim_single (hb _ _) (hb _ _)]
  · intro h
    have hm : '-' ∈ ['0'] := by
      rw [← h]
      simp
    exact absurd hm (by decide)

end Written

end TraceHeaders.B3
