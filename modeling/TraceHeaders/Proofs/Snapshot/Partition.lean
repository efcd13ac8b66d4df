import TraceHeaders.Proofs.Snapshot
import Mathlib.Data.List.Find

/-! The names that a snapshot shows divide its headers: each header stands under one of them. -/

namespace TraceHeaders

section Once

variable {α β : Type} [BEq β] [LawfulBEq β] (f : α → β)

lemma find?_of_mem_eraseDupsBy : ∀ {xs : List α} {a : α}, a ∈ xs.eraseDupsBy (fun a b => f a == f b) →
    xs.find? (fun b => f b == f a) = some a
  | [], _, h => nomatch h
  | x :: xs, a, h => by
    rw [List.eraseDupsBy_cons, List.mem_cons] at h
    obtain rfl | h := h
    · exact List.find?_cons_of_pos (beq_self_eq_true _)
    · have hf := find?_of_mem_eraseDupsBy h
      have hx : (f a == f x) = false :=
        of_decide_eq_true (List.mem_filter.mp (List.mem_of_find?_eq_some hf)).2
      rw [List.find?_filter] at hf
      rw [List.find?_cons_of_neg (by rw [BEq.comm, hx]; exact Bool.false_ne_true), ← hf]
      refine List.find?_congr fun b _ => ?_
      cases hb : f b == f a
      · simp
      · rw [beq_iff_eq.mp hb, hx]
        rfl
termination_by xs => xs.length
decreasing_by exact Nat.lt_succ_of_le (List.length_filter_le _ _)

lemma flatMap_filter_perm (xs : List α) :
    ((xs.map f).eraseDups.flatMap fun b => xs.filter fun x => f x == b).Perm xs := by
  cases xs with
  | nil => exact .nil
  | cons x xs =>
    let rest := xs.filter fun y => !f y == f x
    have hm : (xs.map f).filter (fun b => !b == f x) = rest.map f := List.filter_map
    have hx : (x :: xs).filter (fun y => !f y == f x) = rest :=
      List.filter_cons_of_neg (by simp)
    have hr : ((rest.map f).eraseDups.flatMap fun b => (x :: xs).filter fun y => f y == b) =
        (rest.map f).eraseDups.flatMap fun b => rest.filter fun y => f y == b := by
      refine List.flatMap_congr fun b hb => ?_
      obtain ⟨y, hy, rfl⟩ := List.mem_map.mp (List.mem_eraseDups.mp hb)
      have hyx := (List.mem_filter.mp hy).2
      rw [← hx, List.filter_filter]
      refine List.filter_congr fun z _ => ?_
      cases hz : f z == f y
      · rw [Bool.false_and]
      · rw [beq_iff_eq.mp hz, hyx, Bool.and_true]
    rw [List.map_cons, List.eraseDups_cons, List.flatMap_cons, hm, hr]
    have ha := List.filter_append_perm (fun y => f y == f x) (x :: xs)
    rw [hx] at ha
    exact ((flatMap_filter_perm rest).append_left _).trans ha
termination_by xs.length
decreasing_by exact Nat.lt_succ_of_le (List.length_filter_le _ _)

end Once

namespace Snapshot

variable {hs : List Header} {ms ns : List Text} {n : Text}

def place (hs : List Header) (name : Text) : Nat := hs.findIdx fun h => Text.sameName h.1 name

/-- The names of headers, each once. A name is spelled as its first header spells it, and stands in
the order of the first headers. -/
structure Lists (hs : List Header) (ns : List Text) : Prop where
  once : ns.Pairwise fun a b => ¬ Text.sameName a b
  ordered : ns.Pairwise fun a b => place hs a < place hs b
  spelled : ∀ n ∈ ns, (hs.find? fun h => Text.sameName h.1 n).map (·.1) = some n
  complete : ∀ h ∈ hs, ∃ n ∈ ns, Text.sameName n h.1

def headersUnder (hs : List Header) (name : Text) : List Header :=
  hs.filter fun h => Text.sameName h.1 name

lemma place_eq_idxOf (hs : List Header) (name : Text) :
    place hs name = (hs.map fun h => Text.asciiLower h.1).idxOf (Text.asciiLower name) := by
  rw [List.idxOf, List.findIdx_map]
  rfl

lemma lists_names (hs : List Header) : Lists hs (names ⟨hs⟩) := by
  have ho : (names ⟨hs⟩).Pairwise fun a b => place hs a < place hs b := by
    have hp := pairwise_idxOf_eraseDups (hs.map fun h => Text.asciiLower h.1)
    rw [← lowerNames_eq, lowerNames, List.pairwise_map] at hp
    simpa only [place_eq_idxOf] using hp
  refine ⟨ho.imp fun {a b} hab hs => ?_, ho, fun n hn => ?_, fun h hh => ?_⟩
  · rw [place_eq_idxOf, place_eq_idxOf, beq_iff_eq.mp hs] at hab
    exact Nat.lt_irrefl _ hab
  · have hf := find?_of_mem_eraseDupsBy Text.asciiLower hn
    rwa [List.find?_map] at hf
  · have hm : Text.asciiLower h.1 ∈ lowerNames hs := mem_lowerNames_iff.mpr ⟨h, hh, rfl⟩
    obtain ⟨n, hn, he⟩ := List.mem_map.mp hm
    exact ⟨n, hn, beq_iff_eq.mpr he⟩

namespace Lists

lemma subset (h : Lists hs ns) (k : Lists hs ms) : ns ⊆ ms := by
  intro n hn
  obtain ⟨e, he, hen⟩ := Option.map_eq_some_iff.mp (h.spelled n hn)
  obtain ⟨m, hm, hs⟩ := k.complete e (List.mem_of_find?_eq_some he)
  have hmn : Text.asciiLower m = Text.asciiLower n := hen ▸ beq_iff_eq.mp hs
  have hk := k.spelled m hm
  simp only [Text.sameName, hmn] at hk
  have hh := h.spelled n hn
  simp only [Text.sameName, hk, Option.some.injEq] at hh
  exact hh ▸ hm

lemma unique (h : Lists hs ns) (k : Lists hs ms) : ns = ms :=
  eq_of_pairwise_lt h.ordered k.ordered fun _ => ⟨(h.subset k ·), (k.subset h ·)⟩

end Lists

lemma lists_iff : Lists hs ns ↔ names ⟨hs⟩ = ns :=
  ⟨(lists_names hs).unique, fun h => h ▸ lists_names hs⟩

lemma flatMap_headersUnder_perm (hs : List Header) :
    ((names ⟨hs⟩).flatMap (headersUnder hs)).Perm hs := by
  have hp := flatMap_filter_perm (fun h : Header => Text.asciiLower h.1) hs
  rwa [← lowerNames_eq, lowerNames, List.flatMap_map] at hp

/-- Each header of a snapshot stands under exactly one of the names that it shows. The look-ups of a
name show the headers under it in their order, and the first of them. -/
theorem lists_names_partition (hs : List Header) :
    (∀ ns, Lists hs ns ↔ names ⟨hs⟩ = ns) ∧
      (∀ name, getAll ⟨hs⟩ name = (headersUnder hs name).map (·.2) ∧
        (headersUnder hs name).Sublist hs ∧ get? ⟨hs⟩ name = (getAll ⟨hs⟩ name).head?) ∧
      ((names ⟨hs⟩).flatMap (headersUnder hs)).Perm hs ∧
      ((names ⟨hs⟩).flatMap (getAll ⟨hs⟩)).Perm (hs.map (·.2)) ∧
      Snapshot.mk (Stream.ofList (Snapshot.mk hs).headers).walk.1 = ⟨hs⟩ := by
  have hp := flatMap_headersUnder_perm hs
  refine ⟨fun ns => lists_iff, fun name => ⟨rfl, List.filter_sublist, get?_eq_head? _ _⟩, hp, ?_, rfl⟩
  have hm := hp.map (·.2)
  rwa [List.map_flatMap] at hm

end Snapshot

end TraceHeaders
