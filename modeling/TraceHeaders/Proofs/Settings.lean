import TraceHeaders.Proofs.Dict
import TraceHeaders.Settings.Basic

namespace TraceHeaders.Settings

variable {specific common styles : List Style}

def chosen (specific common : List Style) : List Style :=
  if specific.isEmpty then common else specific

def effective (styles : List Style) : List Style :=
  if 1 < styles.length ∧ .none ∈ styles then styles.filter (· ≠ .none) else styles

lemma sublist_effective (styles : List Style) : (effective styles).Sublist styles := by
  rw [effective]
  split
  · exact List.filter_sublist
  · exact .refl _

lemma mem_effective {s : Style} (hs : s ∈ styles) (hn : s ≠ .none) : s ∈ effective styles := by
  rw [effective]
  split
  · exact List.mem_filter.mpr ⟨hs, decide_eq_true hn⟩
  · exact hs

lemma effective_eq_of_none_mem (h : .none ∈ effective styles) : effective styles = [.none] := by
  rw [effective] at h ⊢
  split at h
  · simp at h
  · next hl =>
    have hs : ¬ 1 < styles.length := fun h1 => hl ⟨h1, h⟩
    obtain ⟨before, rest, rfl⟩ := List.append_of_mem h
    rw [List.length_append, List.length_cons] at hs
    obtain ⟨rfl, rfl⟩ : before = [] ∧ rest = [] :=
      ⟨List.length_eq_zero_iff.mp (by omega), List.length_eq_zero_iff.mp (by omega)⟩
    rw [if_neg hl, List.nil_append]

lemma effective_eq_nil (hn : styles.Nodup) (h : effective styles = []) : styles = [] := by
  rw [effective] at h
  split at h
  · next hl =>
    have ha : ∀ s ∈ styles, s = .none := by simpa using h
    rw [List.eq_replicate_of_mem ha, List.nodup_replicate] at hn
    exact absurd hl.1 (by omega)
  · exact h

lemma value_resolve (specific common : List Style) :
    (resolve specific common).value = effective (chosen specific common).eraseDups := by
  unfold resolve chosen effective
  generalize (if specific.isEmpty then common else specific).eraseDups = styles
  by_cases h : 1 < styles.length ∧ Style.none ∈ styles
  · rw [if_pos h, if_pos h]
    rfl
  · rw [if_neg h, if_neg h]
    rfl

lemma nodup_resolve (specific common : List Style) : (resolve specific common).value.Nodup := by
  rw [value_resolve]
  exact (nodup_eraseDups _).sublist (sublist_effective _)

lemma none_notMem_resolve (h : (resolve specific common).value ≠ [.none]) :
    Style.none ∉ (resolve specific common).value := by
  rw [value_resolve] at h ⊢
  exact fun hm => h (effective_eq_of_none_mem hm)

end TraceHeaders.Settings
