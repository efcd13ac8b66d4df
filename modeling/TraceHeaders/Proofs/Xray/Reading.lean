import TraceHeaders.Proofs.Fields
import TraceHeaders.Proofs.Findings
import TraceHeaders.Proofs.Dict

namespace TraceHeaders.Xray

def stated (key : Text → Bool) (fs : List (Text × Text)) : Option Text :=
  (fs.reverse.find? fun f => key f.1).map (·.2)

section Stated

variable {key : Text → Bool} {fs gs : List (Text × Text)}

lemma stated_append : stated key (fs ++ gs) = (stated key gs).or (stated key fs) := by
  rw [stated, List.reverse_append, List.find?_append, Option.map_or, stated, stated]

lemma stated_singleton (f : Text × Text) :
    stated key [f] = if key f.1 then some f.2 else none := by
  by_cases h : key f.1 <;> simp [stated, h]

lemma exists_of_stated {t : Text} (h : stated key fs = some t) : ∃ f ∈ fs, key f.1 ∧ f.2 = t := by
  obtain ⟨f, hf, rfl⟩ := Option.map_eq_some_iff.mp h
  refine ⟨f, List.mem_reverse.mp (List.mem_of_find?_eq_some hf), ?_, rfl⟩
  exact List.find?_some (p := fun f : Text × Text => key f.1) hf

lemma stated_eq_none (h : ∀ f ∈ fs, key f.1 = false) : stated key fs = none := by
  rw [Option.eq_none_iff_forall_ne_some]
  intro t ht
  obtain ⟨f, hf, hk, -⟩ := exists_of_stated ht
  exact absurd hk (by simp [h f hf])

end Stated

section Reserved

variable {k r : Text}

lemma isReserved_of_sameName (hr : r ∈ reservedKeys) (h : Text.sameName k r) : isReserved k :=
  List.any_eq_true.mpr ⟨r, hr, Text.sameName_comm k r ▸ h⟩

lemma sameName_of_not_reserved (hr : r ∈ reservedKeys) (h : isReserved k = false) :
    Text.sameName k r = false := by
  rw [Bool.eq_false_iff]
  intro hn
  rw [isReserved_of_sameName hr hn] at h
  cases h

lemma sameName_of_ne {s : Text} (hr : Text.sameName k r) (hn : Text.sameName r s = false) :
    Text.sameName k s = false := by
  rw [Bool.eq_false_iff] at hn ⊢
  exact fun hs => hn (Text.sameName_trans (Text.sameName_comm r k ▸ hr) hs)

lemma ne_originKey (hr : Text.sameName k r) (hn : Text.sameName originKey r = false) :
    k ≠ originKey := by
  rintro rfl
  rw [hr] at hn
  cases hn

end Reserved

structure Readable (f : Text × Text) : Prop where
  root : Text.sameName f.1 rootKey → (root? f.2).isSome
  parent : Text.sameName f.1 parentKey → (parent? f.2).isSome

lemma readable_iff {f : Text × Text} :
    Readable f ↔ (Text.sameName f.1 rootKey → (root? f.2).isSome) ∧
      (Text.sameName f.1 parentKey → (parent? f.2).isSome) :=
  ⟨fun h => ⟨h.root, h.parent⟩, fun h => ⟨h.1, h.2⟩⟩

namespace Reading

variable {r s : Reading} {fs : List (Text × Text)}

def after (r : Reading) (fs : List (Text × Text)) : Reading where
  traceId := ((stated (Text.sameName · rootKey) fs).map root?).getD r.traceId
  spanId := ((stated (Text.sameName · parentKey) fs).map parent?).getD r.spanId
  sampling := ((stated (Text.sameName · sampledKey) fs).map Xray.sampling).getD r.sampling
  origin := (stated (· = originKey) fs).or r.origin
  baggage := r.baggage.insertMany (fs.filter fun f => !isReserved f.1)

lemma getD_map_or {α : Type} (f : Text → α) (a b : Option Text) (x : α) :
    ((a.or b).map f).getD x = (a.map f).getD ((b.map f).getD x) := by
  cases a <;> rfl

lemma after_nil (r : Reading) : r.after [] = r := rfl

lemma after_append (r : Reading) (fs gs : List (Text × Text)) :
    r.after (fs ++ gs) = (r.after fs).after gs := by
  simp only [after, stated_append, getD_map_or, Option.or_assoc, List.filter_append,
    Dict.insertMany, List.foldl_append]

lemma read_eq_ok_iff {f : Text × Text} :
    r.read f.1 f.2 = .ok s ↔ Readable f ∧ s = r.after [f] := by
  obtain ⟨k, x⟩ := f
  have hn : r.after [(k, x)] =
      { traceId := if Text.sameName k rootKey then root? x else r.traceId
        spanId := if Text.sameName k parentKey then parent? x else r.spanId
        sampling := if Text.sameName k sampledKey then Xray.sampling x else r.sampling
        origin := if k = originKey then some x else r.origin
        baggage := if isReserved k then r.baggage else r.baggage.insert k x } := by
    rw [after, mk.injEq]
    simp only [stated_singleton]
    refine ⟨?_, ?_, ?_, ?_, ?_⟩
    · split <;> rfl
    · split <;> rfl
    · split <;> rfl
    · by_cases h : k = originKey <;> simp [h]
    · by_cases h : isReserved k <;> simp [h, Dict.insertMany]
  rw [hn]
  unfold read
  by_cases hr : Text.sameName k rootKey
  · have hp := sameName_of_ne hr (s := parentKey) (by decide)
    have hs := sameName_of_ne hr (s := sampledKey) (by decide)
    have ho := ne_originKey hr (by decide)
    have hv := isReserved_of_sameName (by decide) hr
    cases hx : root? x <;> simp [hr, hp, hs, ho, hv, hx, readable_iff, eq_comm (a := s)]
  by_cases hp : Text.sameName k parentKey
  · have hs := sameName_of_ne hp (s := sampledKey) (by decide)
    have ho := ne_originKey hp (by decide)
    have hv := isReserved_of_sameName (by decide) hp
    cases hx : parent? x <;> simp [hr, hp, hs, ho, hv, hx, readable_iff, eq_comm (a := s)]
  by_cases hs : Text.sameName k sampledKey
  · have ho := ne_originKey hs (by decide)
    have hv := isReserved_of_sameName (by decide) hs
    simp [hr, hp, hs, ho, hv, readable_iff, eq_comm (a := s)]
  by_cases ho : k = originKey
  · have hv : isReserved k := isReserved_of_sameName (r := originKey) (by decide) (by simp [ho, Text.sameName_refl])
    simp [hr, hp, hs, if_pos ho, hv, readable_iff, eq_comm (a := s)]
  by_cases hv : isReserved k
  · simp [hr, hp, hs, ho, hv, readable_iff, eq_comm (a := s)]
  · simp [hr, hp, hs, ho, hv, readable_iff, eq_comm (a := s)]

lemma readAll_eq_ok_iff : r.readAll fs = .ok s ↔ (∀ f ∈ fs, Readable f) ∧ s = r.after fs := by
  induction fs generalizing r with
  | nil => simp [readAll, after_nil, eq_comm]
  | cons f fs ih =>
    rw [readAll, List.forall_mem_cons, ← List.singleton_append, after_append]
    rcases hq : r.read f.1 f.2 with e | q
    · have hf : ¬ Readable f := fun hf => by simp [read_eq_ok_iff.mpr ⟨hf, rfl⟩] at hq
      simp [Except.bind, hf]
    · obtain ⟨hf, rfl⟩ := read_eq_ok_iff.mp hq
      simp only [Except.bind, ih, hf, true_and]

end Reading

end TraceHeaders.Xray
