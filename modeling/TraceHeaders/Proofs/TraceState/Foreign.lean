import TraceHeaders.Proofs.TraceState.Writing

namespace TraceHeaders.TraceState

variable {c : Context} {t : Text}

/-- The members of a `tracestate` that belong to other vendors, as far as they are passed on: trimmed,
without blank ones, in their order, and at most 31 of them. -/
def others (state : Option Text) : List Text :=
  ((((state.getD []).splitOn ',').map Text.trim).filter
    fun m => m ≠ [] ∧ ¬ ownStart <+: m).take 31

structure Lists (t : Text) (ms : List Text) : Prop where
  cut : ∃ own, t.splitOn ',' = own :: ms ∧ ownStart <+: own
  foreign : ∀ m ∈ ms, ¬ ownStart <+: m
  length : (t.splitOn ',').length ≤ 32

lemma not_isPrefixOf_iff {m : Text} : (!ownStart.isPrefixOf m) = true ↔ ¬ ownStart <+: m := by
  rw [Bool.not_eq_true', Bool.eq_false_iff, Ne, List.isPrefixOf_iff_prefix]

lemma foreign_eq_others (t : Text) : foreign t = others (some t) := by
  rw [foreign, others, Text.commaElements_eq, List.filter_filter, Option.getD_some]
  refine congrArg (List.take 31) (List.filter_congr fun m _ => ?_)
  rw [Bool.eq_iff_iff, Bool.and_eq_true, not_isPrefixOf_iff, decide_eq_true_eq, decide_eq_true_eq,
    and_comm]

lemma foreignMembers_eq_others (c : Context) : foreignMembers c = others c.tagSet.traceState := by
  rw [foreignMembers]
  cases c.tagSet.traceState with
  | none => rfl
  | some t => exact foreign_eq_others t

lemma not_prefix_of_mem_foreign {m : Text} (h : m ∈ foreign t) : ¬ ownStart <+: m :=
  not_isPrefixOf_iff.mp (List.mem_filter.mp (List.mem_of_mem_take h)).2

lemma length_foreignMembers_le (c : Context) : (foreignMembers c).length ≤ foreignLimit := by
  rw [foreignMembers]
  cases c.tagSet.traceState with
  | none => exact Nat.zero_le _
  | some t => exact List.length_take_le _ _

lemma splitOn_encode (c : Context) :
    (encode c).value.splitOn ',' = (ownMember c).value :: foreignMembers c := by
  rw [value_encode, value_ownMember_eq]
  exact List.splitOn_intercalate ',' (fun m => comma_not_mem) (List.cons_ne_nil _ _)

lemma own_prefix_ownMember (c : Context) : ownStart <+: (ownMember c).value := by
  rw [value_ownMember_eq]
  exact List.prefix_append _ _

lemma not_prefix_of_mem_foreignMembers {m : Text} (h : m ∈ foreignMembers c) : ¬ ownStart <+: m := by
  obtain ⟨t, -, hm⟩ := mem_foreignMembers h
  exact not_prefix_of_mem_foreign hm

lemma filter_splitOn_encode (c : Context) :
    ((encode c).value.splitOn ',').filter (ownStart.isPrefixOf ·) = [(ownMember c).value] := by
  rw [splitOn_encode, List.filter_cons_of_pos, List.filter_eq_nil_iff.mpr]
  · intro m hm hp
    exact not_prefix_of_mem_foreignMembers hm (List.isPrefixOf_iff_prefix.mp hp)
  · exact List.isPrefixOf_iff_prefix.mpr (own_prefix_ownMember c)

lemma lists_encode (c : Context) : Lists (encode c).value (others c.tagSet.traceState) := by
  rw [← foreignMembers_eq_others]
  refine ⟨⟨_, splitOn_encode c, own_prefix_ownMember c⟩,
    fun m => not_prefix_of_mem_foreignMembers, ?_⟩
  rw [splitOn_encode, List.length_cons]
  exact Nat.succ_le_succ (length_foreignMembers_le c)

lemma foreign_delivered (c : Context) : foreign (delivered c) = foreignMembers c := by
  rw [foreign, delivered, Text.commaElements_join fun m => of_mem_members, members_encode,
    List.filter_cons_of_neg, List.filter_eq_self.mpr,
    List.take_of_length_le (length_foreignMembers_le c)]
  · exact fun m h => not_isPrefixOf_iff.mpr (not_prefix_of_mem_foreignMembers h)
  · rw [not_isPrefixOf_iff, not_not]
    exact List.prefix_append _ _

end TraceHeaders.TraceState
