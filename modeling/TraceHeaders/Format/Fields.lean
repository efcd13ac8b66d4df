import TraceHeaders.Text.Basic

namespace TraceHeaders.Fields

def join (start : Text) (fields : List Text) : Text := start ++ fields.flatMap (';' :: ·)

def fitting (limit used : Nat) : List Text → Nat
  | [] => 0
  | f :: r =>
    if limit < used + Text.byteLength f + 1 then 0
    else fitting limit (used + Text.byteLength f + 1) r + 1

def append (limit : Nat) (start : Text) (fields : List Text) : Text :=
  join start (fields.take (fitting limit (Text.byteLength start) fields))

def dropped? (limit : Nat) (start : Text) (fields : List Text) : Option Nat :=
  let n := fitting limit (Text.byteLength start) fields
  if n < fields.length then some n else none

def extent : List Text → Nat
  | [] => 0
  | f :: r => Text.byteLength f + 1 + extent r

theorem byteLength_join (start : Text) (fields : List Text) :
    Text.byteLength (join start fields) = Text.byteLength start + extent fields := by
  induction fields with
  | nil => simp [join, extent]
  | cons f r ih =>
    simp only [join, List.flatMap_cons, Text.byteLength_append, Text.byteLength_cons] at ih ⊢
    have : (';' : Char).utf8Size = 1 := rfl
    rw [extent]
    omega

theorem extent_take_fitting_le (limit used : Nat) (fields : List Text) (h : used ≤ limit) :
    used + extent (fields.take (fitting limit used fields)) ≤ limit := by
  induction fields generalizing used with
  | nil => simpa [fitting, extent] using h
  | cons f r ih =>
    simp only [fitting]
    split
    · simpa [extent] using h
    · next hf =>
      have := ih (used + Text.byteLength f + 1) (by omega)
      rw [List.take_succ_cons, extent]
      omega

theorem byteLength_append_le (limit : Nat) (start : Text) (fields : List Text)
    (h : Text.byteLength start ≤ limit) : Text.byteLength (append limit start fields) ≤ limit := by
  rw [append, byteLength_join]
  exact extent_take_fitting_le limit _ fields h

end TraceHeaders.Fields
