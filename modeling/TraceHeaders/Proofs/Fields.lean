import TraceHeaders.Format.Fields
import TraceHeaders.Proofs.Text.Trim
import Mathlib.Order.Bounds.Defs

namespace TraceHeaders.Fields

lemma join_cons (start f : Text) (fs : List Text) :
    join start (f :: fs) = join (start ++ ';' :: f) fs := by
  simp [join]

lemma splitOn_join (start : Text) (fs : List Text) :
    (join start fs).splitOn ';' = start.splitOn ';' ++ fs.flatMap (·.splitOn ';') := by
  induction fs generalizing start with
  | nil => simp [join]
  | cons f fs ih =>
    rw [join_cons, ih, List.splitOn_append_cons_self, List.flatMap_cons, List.append_assoc]

lemma extent_perm {fs gs : List Text} (h : fs.Perm gs) : extent fs = extent gs := by
  induction h with
  | nil => rfl
  | cons f _ ih => rw [extent, extent, ih]
  | swap f g fs =>
    simp only [extent]
    omega
  | trans _ _ ih ih' => exact ih.trans ih'

lemma extent_sublist {fs gs : List Text} (h : fs.Sublist gs) : extent fs ≤ extent gs := by
  induction h with
  | slnil => exact Nat.le_refl _
  | cons f _ ih => exact ih.trans (Nat.le_add_left _ _)
  | cons_cons f _ ih => exact Nat.add_le_add_left ih _

lemma extent_le_of_subperm {fs gs : List Text} (h : fs.Subperm gs) : extent fs ≤ extent gs := by
  obtain ⟨es, he, hs⟩ := h
  rw [← extent_perm he]
  exact extent_sublist hs

lemma fitting_take (limit used : Nat) (fs : List Text) :
    fitting limit used (fs.take (fitting limit used fs)) = fitting limit used fs := by
  induction fs generalizing used with
  | nil => rfl
  | cons f fs ih =>
    simp only [fitting]
    split
    · rfl
    · next h => rw [List.take_succ_cons, fitting, if_neg h, ih]

lemma fitting_eq_zero {limit used : Nat} (h : limit < used) (fs : List Text) :
    fitting limit used fs = 0 := by
  cases fs with
  | nil => rfl
  | cons f fs => rw [fitting, if_pos (by omega)]

lemma fitting_le_length (limit used : Nat) (fs : List Text) : fitting limit used fs ≤ fs.length := by
  induction fs generalizing used with
  | nil => exact Nat.le_refl 0
  | cons f fs ih =>
    rw [fitting]
    split
    · exact Nat.zero_le _
    · exact Nat.succ_le_succ (ih _)

lemma le_fitting {limit used n : Nat} {fs : List Text} (hn : n ≤ fs.length)
    (h : used + extent (fs.take n) ≤ limit) : n ≤ fitting limit used fs := by
  induction fs generalizing used n with
  | nil => exact hn
  | cons f fs ih =>
    cases n with
    | zero => exact Nat.zero_le _
    | succ n =>
      rw [List.take_succ_cons, extent] at h
      rw [fitting, if_neg (by omega)]
      exact Nat.succ_le_succ (ih (Nat.le_of_succ_le_succ hn) (by omega))

def room (limit : Nat) (start : Text) (fs : List Text) : Set Nat :=
  {n | n ≤ fs.length ∧ Text.byteLength (join start (fs.take n)) ≤ limit}

lemma isGreatest_fitting {limit : Nat} {start : Text} (fs : List Text)
    (h : Text.byteLength start ≤ limit) :
    IsGreatest (room limit start fs) (fitting limit (Text.byteLength start) fs) := by
  constructor
  · exact ⟨fitting_le_length _ _ fs, byteLength_append_le limit start fs h⟩
  · rintro n ⟨hn, hl⟩
    rw [byteLength_join] at hl
    exact le_fitting hn hl

lemma eq_length_of_isGreatest {limit n : Nat} {start : Text} {fs : List Text}
    (hn : IsGreatest (room limit start fs) n) (h : Text.byteLength (join start fs) ≤ limit) :
    n = fs.length := by
  refine Nat.le_antisymm hn.1.1 (hn.2 ⟨Nat.le_refl _, ?_⟩)
  rwa [List.take_length]

end TraceHeaders.Fields
