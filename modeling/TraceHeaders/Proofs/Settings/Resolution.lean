import TraceHeaders.Proofs.Settings
import TraceHeaders.Settings.Load

namespace TraceHeaders.Settings

structure Selects (styles selected : List Style) : Prop where
  nodup : selected.Nodup
  alone : .none ∈ selected → selected = [.none]
  subset : selected ⊆ styles
  ordered : selected.Pairwise fun a b => styles.idxOf a < styles.idxOf b
  complete : ∀ s ∈ styles, s ≠ .none → s ∈ selected
  nonempty : selected = [] → styles = []

namespace Selects

variable {styles selected other : List Style}

lemma mem_iff (h : Selects styles selected) {s : Style} :
    s ∈ selected ↔ s ∈ styles ∧ (s = .none → ∀ t ∈ styles, t = .none) := by
  constructor
  · intro hs
    refine ⟨h.subset hs, ?_⟩
    rintro rfl t ht
    by_contra hn
    have ht := h.complete t ht hn
    rw [h.alone hs] at ht
    exact hn (List.mem_singleton.mp ht)
  · rintro ⟨hs, hn⟩
    by_cases he : s = .none
    · have hne : selected ≠ [] := fun h0 => List.ne_nil_of_mem hs (h.nonempty h0)
      obtain ⟨t, ht⟩ := List.exists_mem_of_ne_nil selected hne
      rwa [he, ← hn he t (h.subset ht)]
    · exact h.complete s hs he

lemma unique (h : Selects styles selected) (k : Selects styles other) : selected = other :=
  eq_of_pairwise_lt h.ordered k.ordered fun _ => h.mem_iff.trans k.mem_iff.symm

end Selects

lemma selects_effective (styles : List Style) : Selects styles (effective styles.eraseDups) where
  nodup := (nodup_eraseDups styles).sublist (sublist_effective _)
  alone := effective_eq_of_none_mem
  subset _ hs := List.mem_eraseDups.mp ((sublist_effective _).subset hs)
  ordered := (pairwise_idxOf_eraseDups styles).sublist (sublist_effective _)
  complete _ hs hn := mem_effective (List.mem_eraseDups.mpr hs) hn
  nonempty h := by
    have he := effective_eq_nil (nodup_eraseDups styles) h
    rw [List.eq_nil_iff_forall_not_mem] at he ⊢
    exact fun s hs => he s (List.mem_eraseDups.mpr hs)

lemma selects_resolve (specific common : List Style) :
    Selects (chosen specific common) (resolve specific common).value := by
  rw [value_resolve]
  exact selects_effective _

lemma selects_iff {specific common selected : List Style} :
    Selects (chosen specific common) selected ↔ (resolve specific common).value = selected := by
  constructor
  · exact fun h => (selects_resolve specific common).unique h
  · rintro rfl
    exact selects_resolve specific common

lemma resolve_of_selects {styles selected common : List Style} (h : Selects styles selected)
    (hc : styles = [] → common = []) : resolve selected common = pure selected := by
  have hl : (if selected.isEmpty then common else selected) = selected := by
    cases selected with
    | nil => exact hc (h.nonempty rfl)
    | cons s rest => rfl
  have he : selected.eraseDups = selected :=
    eraseDupsBy_eq_self (h.nodup.imp fun hne => beq_false_of_ne hne.symm)
  rw [resolve, hl, he, if_neg]
  rintro ⟨h1, hn⟩
  rw [h.alone hn] at h1
  exact Nat.lt_irrefl 1 h1

lemma resolve_resolve (specific common : List Style) :
    resolve (resolve specific common).value common = pure (resolve specific common).value := by
  apply resolve_of_selects (selects_resolve specific common)
  cases specific with
  | nil => exact id
  | cons s rest => exact fun h => absurd h (List.cons_ne_nil s rest)

lemma value_resolve_filled (specific common : List Style) :
    (resolve (if specific.isEmpty then (resolve specific common).value else specific)
      common).value = (resolve specific common).value := by
  split
  · rw [resolve_resolve, Logged.value_pure]
  · rfl

lemma value_completed (s : Settings) :
    s.completed.value =
      { s with
        extractStyles :=
          if s.extractStyles.isEmpty then s.resolvedExtract.value else s.extractStyles
        injectStyles :=
          if s.injectStyles.isEmpty then s.resolvedInject.value else s.injectStyles } := by
  rw [completed]
  cases s.extractStyles.isEmpty <;> cases s.injectStyles.isEmpty <;> rfl

/-- Resolving a selection changes nothing and reports nothing, so loaded settings, in which empty
lists are filled in, select what they would without that. -/
theorem selects_resolved (s : Settings) (file : Option Text) (env : List Variable) :
    (∀ styles, Selects (chosen s.extractStyles s.styles) styles ↔
        s.resolvedExtract.value = styles) ∧
      (∀ styles, Selects (chosen s.injectStyles s.styles) styles ↔
        s.resolvedInject.value = styles) ∧
      (∀ specific common, resolve (resolve specific common).value common =
        pure (resolve specific common).value) ∧
      s.completed.value.resolvedExtract.value = s.resolvedExtract.value ∧
      s.completed.value.resolvedInject.value = s.resolvedInject.value ∧
      ∀ r, (load file env).value = .ok r ↔
        ∃ t, (ofSources file env).value = .ok t ∧ r = t.completed.value := by
  refine ⟨fun _ => selects_iff, fun _ => selects_iff, resolve_resolve, ?_, ?_, fun r => ?_⟩
  · rw [value_completed]
    exact value_resolve_filled s.extractStyles s.styles
  · rw [value_completed]
    exact value_resolve_filled s.injectStyles s.styles
  · rw [load, Logged.value_bind]
    cases (ofSources file env).value with
    | ok t =>
      constructor
      · rintro ⟨⟩
        exact ⟨t, rfl, rfl⟩
      · rintro ⟨_, ⟨⟩, rfl⟩
        rfl
    | error e =>
      constructor
      · rintro ⟨⟩
      · rintro ⟨_, ⟨⟩, _⟩

end TraceHeaders.Settings
