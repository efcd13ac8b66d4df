import TraceHeaders.Proofs.Dict
import TraceHeaders.Proofs.Text.Trim
import TraceHeaders.Settings.Variables
import TraceHeaders.Settings.Yaml

namespace TraceHeaders

section Lookup

variable {β : Type} {es : List (Text × β)}

lemma lookup_cons_ite (e : Text × β) (es : List (Text × β)) (l : Text) :
    (e :: es).lookup l = if l = e.1 then some e.2 else es.lookup l := by
  rw [List.lookup_cons]
  by_cases h : l = e.1
  · rw [if_pos h, beq_iff_eq.mpr h]
  · rw [if_neg h, beq_false_of_ne h]

lemma lookup_eq_find? (es : List (Text × β)) (k : Text) :
    es.lookup k = (es.find? (·.1 = k)).map (·.2) := by
  induction es with
  | nil => rfl
  | cons e es ih =>
    rw [lookup_cons_ite, List.find?_cons, ih]
    by_cases h : k = e.1
    · rw [if_pos h, decide_eq_true h.symm]
      rfl
    · rw [if_neg h, decide_eq_false (Ne.symm h)]

lemma lookup_insertEntry (k : Text) (v : β) (es : List (Text × β)) (l : Text) :
    (insertEntry k v es).lookup l = if k = l then some v else es.lookup l := by
  rw [lookup_eq_find?, lookup_eq_find?, Dict.find?_insertEntry]
  split <;> rfl

lemma lookup_eq_some_of_mem (hn : (es.map (·.1)).Nodup) {k : Text} {v : β} (h : (k, v) ∈ es) :
    es.lookup k = some v := by
  rw [lookup_eq_find?]
  exact (find?_key_eq_some_iff hn).mpr h

lemma nodup_keys_of_sorted (h : es.Pairwise (·.1 < ·.1)) : (es.map (·.1)).Nodup :=
  Dict.nodup_keys ⟨es, h⟩

lemma lookup_eq_none_of_notMem {k : Text} (h : k ∉ es.map (·.1)) : es.lookup k = none := by
  rw [List.lookup_eq_none_iff]
  intro e he
  rw [bne_iff_ne]
  exact fun hk => h (hk ▸ List.mem_map_of_mem he)

end Lookup

namespace Value

def isRecord : Value → Bool
  | record _ => true
  | _ => false

variable {v w : Value} {rs es : List (Text × Value)} {k : Text}

lemma merge_eq_right (h : w.isRecord = false) : v.merge w = w := by
  cases w <;> first | rfl | cases h

lemma sorted_mergeEntries (h : rs.Pairwise (·.1 < ·.1)) (es : List (Text × Value)) :
    (mergeEntries rs es).Pairwise (·.1 < ·.1) := by
  induction es generalizing rs with
  | nil => exact h
  | cons e es ih => exact ih (pairwise_insertEntry _ _ h)

lemma lookup_mergeEntries (hes : (es.map (·.1)).Nodup)
    (hk : ∀ v, es.lookup k = some v → v.isRecord = false) (rs : List (Text × Value)) :
    (mergeEntries rs es).lookup k = (es.lookup k).or (rs.lookup k) := by
  induction es generalizing rs with
  | nil => rfl
  | cons e es ih =>
    obtain ⟨l, v⟩ := e
    obtain ⟨hl, hes⟩ := List.nodup_cons.mp hes
    rw [lookup_cons_ite] at hk
    rw [mergeEntries, lookup_cons_ite]
    by_cases h : k = l
    · have hn : es.lookup k = none := lookup_eq_none_of_notMem (h ▸ hl)
      rw [if_pos h] at hk ⊢
      rw [ih hes (by simp [hn]), lookup_insertEntry, if_pos h.symm, merge_eq_right (hk v rfl), hn]
      rfl
    · rw [if_neg h] at hk ⊢
      rw [ih hes hk, lookup_insertEntry, if_neg (Ne.symm h)]

def IsSorted (v : Value) : Prop := ∃ es, v = .record es ∧ es.Pairwise (·.1 < ·.1)

lemma isSorted_empty : (record []).IsSorted := ⟨[], rfl, .nil⟩

lemma isSorted_singleton (k : Text) (v : Value) : (record [(k, v)]).IsSorted :=
  ⟨_, rfl, List.pairwise_singleton _ _⟩

lemma isSorted_ofEntries (es : List (Text × Value)) : (ofEntries es).IsSorted := by
  refine ⟨_, rfl, ?_⟩
  exact List.foldlRecOn es _ List.Pairwise.nil fun r hr e _ => pairwise_insertEntry e.1 e.2 hr

lemma IsSorted.nodup_keys (h : v.IsSorted) : (v.entries.map (·.1)).Nodup := by
  obtain ⟨es, rfl, hs⟩ := h
  exact nodup_keys_of_sorted hs

lemma get?_singleton (h : v.IsSorted) (k : Text) : v.get? [k] = v.entries.lookup k := by
  obtain ⟨es, rfl, -⟩ := h
  rw [get?, entries]
  cases es.lookup k <;> rfl

lemma IsSorted.merge (hv : v.IsSorted) (hw : w.IsSorted) : (v.merge w).IsSorted := by
  obtain ⟨rs, rfl, hs⟩ := hv
  obtain ⟨es, rfl, -⟩ := hw
  exact ⟨_, rfl, sorted_mergeEntries hs es⟩

lemma lookup_entries_merge (hw : w.IsSorted)
    (hk : ∀ x, w.entries.lookup k = some x → x.isRecord = false) (v : Value) :
    (v.merge w).entries.lookup k = (w.entries.lookup k).or (v.entries.lookup k) := by
  obtain ⟨es, rfl, hs⟩ := hw
  exact lookup_mergeEntries (nodup_keys_of_sorted hs) hk v.entries

end Value

namespace Settings.Variable

def names (start key name : Text) : Bool :=
  Text.sameName start ((Text.trim name).take start.length) &&
    Text.asciiLower (Text.trim ((Text.trim name).drop start.length)) == key

def given (start : Text) (env : List Variable) (key : Text) : Option Value :=
  (env.reverse.find? fun x => names start key x.1).map fun x => read x.2

variable {start key name : Text} {env : List Variable}

lemma path?_eq_some_iff (hn : '.' ∉ name) {path : List Text} :
    path? start name = some path ↔ ∃ key, key ≠ [] ∧ names start key name ∧ path = [key] := by
  have hr : '.' ∉ Text.trim ((Text.trim name).drop start.length) := fun h =>
    hn (Text.trim_subset _ (List.mem_of_mem_drop (Text.trim_subset _ h)))
  simp only [path?, names, List.splitOn_eq_singleton hr]
  generalize Text.trim ((Text.trim name).drop start.length) = rest
  cases Text.sameName start ((Text.trim name).take start.length) with
  | false =>
    constructor
    · intro h
      cases h
    · rintro ⟨key, -, hk, -⟩
      cases hk
  | true =>
    cases rest with
    | nil =>
      constructor
      · intro h
        cases h
      · rintro ⟨key, hne, hk, -⟩
        exact absurd (beq_iff_eq.mp hk).symm hne
    | cons c r =>
      constructor
      · intro h
        cases h
        exact ⟨_, List.cons_ne_nil _ _, beq_self_eq_true _, rfl⟩
      · rintro ⟨key, -, hk, rfl⟩
        cases beq_iff_eq.mp hk
        rfl

lemma record_concat (start : Text) (env : List Variable) (x : Variable) :
    record start (env ++ [x]) =
      match path? start x.1 with
      | some path => (record start env).merge (nested (read x.2) path)
      | none => record start env :=
  List.foldl_concat ..

lemma isSorted_record (hn : ∀ x ∈ env, '.' ∉ x.1) (start : Text) :
    (record start env).IsSorted := by
  induction env using List.reverseRecOn with
  | nil => exact Value.isSorted_empty
  | append_singleton env x ih =>
    rw [List.forall_mem_append, List.forall_mem_singleton] at hn
    rw [record_concat]
    split
    · next path hp =>
      obtain ⟨key, -, -, rfl⟩ := (path?_eq_some_iff hn.2).mp hp
      exact (ih hn.1).merge (Value.isSorted_singleton _ _)
    · exact ih hn.1

lemma lookup_record (hn : ∀ x ∈ env, '.' ∉ x.1) (hk : key ≠ [])
    (hr : ∀ x ∈ env, names start key x.1 → (read x.2).isRecord = false) :
    (record start env).entries.lookup key = given start env key := by
  induction env using List.reverseRecOn with
  | nil => rfl
  | append_singleton env x ih =>
    rw [List.forall_mem_append, List.forall_mem_singleton] at hn hr
    have hs : given start (env ++ [x]) key =
        if names start key x.1 then some (read x.2) else given start env key := by
      rw [given, List.reverse_concat, List.find?_cons]
      split
      · next h => rw [if_pos h]; rfl
      · next h => rw [if_neg (Bool.not_eq_true _ ▸ h)]; rfl
    rw [record_concat, hs, ← ih hn.1 hr.1]
    by_cases hx : names start key x.1
    · rw [if_pos hx, (path?_eq_some_iff hn.2).mpr ⟨key, hk, hx, rfl⟩]
      change ((record start env).merge (.record [(key, read x.2)])).entries.lookup key = _
      have hl : [(key, read x.2)].lookup key = some (read x.2) := List.lookup_cons_self
      rw [Value.lookup_entries_merge (Value.isSorted_singleton _ _)]
      · rw [Value.entries, hl, Option.some_or]
      · intro y hy
        rw [Value.entries, hl] at hy
        exact Option.some_inj.mp hy ▸ hr.2 hx
    · rw [if_neg hx]
      split
      · next path hp =>
        obtain ⟨l, -, hl, rfl⟩ := (path?_eq_some_iff hn.2).mp hp
        have hkl : key ≠ l := fun h => hx (h ▸ hl)
        have hnone : [(l, read x.2)].lookup key = none := by
          rw [lookup_cons_ite, if_neg hkl, List.lookup_nil]
        change ((record start env).merge (.record [(l, read x.2)])).entries.lookup key = _
        rw [Value.lookup_entries_merge (Value.isSorted_singleton _ _)]
        · rw [Value.entries, hnone, Option.none_or]
        · intro y hy
          rw [Value.entries, hnone] at hy
          cases hy
      · rfl

end Settings.Variable

namespace Settings.Yaml

section Reading

variable {α β : Type} {P : β → Prop}

def Yields (P : β → Prop) (x : Reading β) : Prop := ∀ n r, x.run n = .ok r → P r.1

lemma yields_pure {b : β} (h : P b) : Yields P (pure b) := by
  rintro n r hr
  cases hr
  exact h

lemma yields_throw (f : Fault) : Yields P (throw f) := by
  rintro n r hr
  cases hr

lemma yields_bind {f : α → Reading β} (h : ∀ a, Yields P (f a)) (x : Reading α) :
    Yields P (x >>= f) := by
  intro n r hr
  rw [StateT.run_bind] at hr
  cases hx : x.run n with
  | error e =>
    rw [hx] at hr
    cases hr
  | ok p =>
    rw [hx] at hr
    exact h p.1 p.2 r hr

end Reading

lemma yields_rootValue (a : Anchors) (n : Node) : Yields Value.IsSorted (rootValue a n) := by
  refine yields_bind (fun m => ?_) _
  split
  · exact yields_bind (fun es => yields_pure (Value.isSorted_ofEntries es)) _
  · exact yields_throw _
  · split
    · exact yields_pure Value.isSorted_empty
    · exact yields_bind (fun _ => yields_throw _) _
  · exact yields_pure Value.isSorted_empty

lemma isSorted_of_ofDocument {root : Node} {rest : Option Parsing} {v : Value}
    (h : ofDocument root rest = .ok v) : v.IsSorted := by
  unfold ofDocument at h
  cases hr : (rootValue ⟨root.anchored [], 100 * root.events⟩ root).run 0 with
  | error e =>
    rw [hr] at h
    cases h
  | ok p =>
    rw [hr] at h
    cases hc : checkEnd ((rest.map (·.tokens)).getD []) with
    | error e =>
      simp only [hc] at h
      cases h
    | ok u =>
      simp only [hc] at h
      cases h
      exact yields_rootValue _ _ 0 p hr

lemma isSorted_of_read {t : Text} {v : Value} (h : read t = .ok v) : v.IsSorted := by
  unfold read at h
  split at h
  · cases h
  · cases h
    exact Value.isSorted_empty
  · exact isSorted_of_ofDocument h

end Settings.Yaml

end TraceHeaders
