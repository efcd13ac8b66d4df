import TraceHeaders.Text.Basic

/-! Entries stand in the order of their keys, so dictionaries with the same entries are equal. -/

namespace TraceHeaders

def insertEntry {β : Type} (k : Text) (v : β) : List (Text × β) → List (Text × β)
  | [] => [(k, v)]
  | e :: es =>
    if k < e.1 then (k, v) :: e :: es
    else if k = e.1 then (k, v) :: es
    else e :: insertEntry k v es

theorem mem_insertEntry {β : Type} {k : Text} {v : β} {a : Text × β} {es : List (Text × β)}
    (h : a ∈ insertEntry k v es) : a = (k, v) ∨ a ∈ es := by
  induction es with
  | nil => simpa [insertEntry] using h
  | cons e es ih =>
    simp only [insertEntry] at h
    split at h
    · simpa using h
    split at h
    · simp only [List.mem_cons] at h ⊢
      exact h.imp_right .inr
    · simp only [List.mem_cons] at h ⊢
      obtain h | h := h
      · exact .inr (.inl h)
      · exact (ih h).imp_right .inr

theorem text_lt_of_not_lt {s t : Text} (h : ¬ s < t) (hne : s ≠ t) : t < s := by
  by_cases ht : t < s
  · exact ht
  · exact absurd (List.le_antisymm (List.not_lt.1 ht) (List.not_lt.1 h)) hne

theorem pairwise_insertEntry {β : Type} (k : Text) (v : β) {es : List (Text × β)}
    (h : es.Pairwise (·.1 < ·.1)) : (insertEntry k v es).Pairwise (·.1 < ·.1) := by
  induction es with
  | nil => simp [insertEntry]
  | cons e es ih =>
    have he := List.pairwise_cons.1 h
    simp only [insertEntry]
    split
    · next hk =>
      refine .cons (fun a ha => ?_) h
      obtain rfl | ha := List.mem_cons.1 ha
      · exact hk
      · exact List.lt_trans hk (he.1 a ha)
    split
    · next hk => exact .cons (fun a ha => hk ▸ he.1 a ha) he.2
    · next hk hne =>
      refine .cons (fun a ha => ?_) (ih he.2)
      obtain rfl | ha := mem_insertEntry ha
      · exact text_lt_of_not_lt hk hne
      · exact he.1 a ha

structure Dict (β : Type) where
  entries : List (Text × β)
  sorted : entries.Pairwise (·.1 < ·.1)
  deriving DecidableEq

namespace Dict

variable {β γ : Type}

def empty : Dict β := ⟨[], .nil⟩

instance : Inhabited (Dict β) := ⟨empty⟩

instance : EmptyCollection (Dict β) := ⟨empty⟩

def isEmpty (d : Dict β) : Bool := d.entries.isEmpty

def keys (d : Dict β) : List Text := d.entries.map (·.1)

def get? (d : Dict β) (k : Text) : Option β := (d.entries.find? (·.1 = k)).map (·.2)

def contains (d : Dict β) (k : Text) : Bool := (d.get? k).isSome

def insert (d : Dict β) (k : Text) (v : β) : Dict β :=
  ⟨insertEntry k v d.entries, pairwise_insertEntry k v d.sorted⟩

def filter (p : Text × β → Bool) (d : Dict β) : Dict β :=
  ⟨d.entries.filter p, d.sorted.filter p⟩

def erase (d : Dict β) (k : Text) : Dict β := d.filter (·.1 ≠ k)

def insertMany (d : Dict β) (es : List (Text × β)) : Dict β :=
  es.foldl (fun d e => d.insert e.1 e.2) d

def ofList (es : List (Text × β)) : Dict β := insertMany empty es

theorem ext_entries {d e : Dict β} (h : d.entries = e.entries) : d = e := by
  cases d; cases e; simp_all

theorem find?_insertEntry (k : Text) (v : β) (es : List (Text × β)) (l : Text) :
    (insertEntry k v es).find? (·.1 = l) = if k = l then some (k, v) else es.find? (·.1 = l) := by
  induction es with
  | nil => by_cases h : k = l <;> simp [insertEntry, h]
  | cons e es ih =>
    simp only [insertEntry]
    split
    · by_cases h : k = l <;> simp [h]
    split
    · next hk => by_cases h : k = l <;> simp_all
    · next hk hne =>
      by_cases h : e.1 = l
      · have : k ≠ l := fun hl => hne (hl.trans h.symm)
        simp [h, this]
      · simp [h, ih]

theorem get?_insert (d : Dict β) (k : Text) (v : β) (l : Text) :
    (d.insert k v).get? l = if k = l then some v else d.get? l := by
  simp only [get?, insert, find?_insertEntry]
  split <;> rfl

@[simp] theorem get?_insert_self (d : Dict β) (k : Text) (v : β) :
    (d.insert k v).get? k = some v := by simp [get?_insert]

@[simp] theorem get?_empty (k : Text) : (empty : Dict β).get? k = none := rfl

theorem get?_erase (d : Dict β) (k l : Text) :
    (d.erase k).get? l = if k = l then none else d.get? l := by
  simp only [get?, erase, filter, List.find?_filter]
  split
  · next h => simp [h]
  · next h =>
    congr 2
    funext e
    by_cases he : e.1 = l
    · simp [he, Ne.symm h]
    · simp [he]

end Dict

end TraceHeaders
