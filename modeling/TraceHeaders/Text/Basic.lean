import TraceHeaders.Text.Blank

namespace TraceHeaders

abbrev Text := List Char

namespace Text

def trimLeft (t : Text) : Text := t.dropWhile isBlank

def trimRight (t : Text) : Text := (t.reverse.dropWhile isBlank).reverse

def trim (t : Text) : Text := trimRight (trimLeft t)

def trimmed? (t : Text) : Option Text :=
  if trim t = [] then none else some (trim t)

def cut? (sep : Char) : Text → Option (Text × Text)
  | [] => none
  | c :: r => if c = sep then some ([], r) else (cut? sep r).map fun p => (c :: p.1, p.2)

def byteLength : Text → Nat
  | [] => 0
  | c :: r => c.utf8Size + byteLength r

def asciiLower (t : Text) : Text := t.map Char.toLower

def sameName (s t : Text) : Bool := asciiLower s == asciiLower t

def replace (old new : Char) (t : Text) : Text := t.map fun c => if c = old then new else c

def commaElements (t : Text) : List Text := (t.splitOn ',').filterMap trimmed?

theorem cut?_eq_some {sep : Char} {t a b : Text} (h : cut? sep t = some (a, b)) :
    t = a ++ sep :: b := by
  induction t generalizing a with
  | nil => simp [cut?] at h
  | cons c r ih =>
    simp only [cut?] at h
    split at h
    · next hc => simp_all
    · obtain ⟨p, hp, he⟩ := Option.map_eq_some_iff.1 h
      obtain ⟨rfl, rfl⟩ := Prod.mk.inj he
      simp [ih hp]

theorem not_mem_of_cut? {sep : Char} {t a b : Text} (h : cut? sep t = some (a, b)) : sep ∉ a := by
  induction t generalizing a with
  | nil => simp [cut?] at h
  | cons c r ih =>
    simp only [cut?] at h
    split at h
    · simp_all
    · next hc =>
      obtain ⟨p, hp, he⟩ := Option.map_eq_some_iff.1 h
      obtain ⟨rfl, rfl⟩ := Prod.mk.inj he
      simp [Ne.symm hc, ih hp]

theorem cut?_eq_none_iff {sep : Char} {t : Text} : cut? sep t = none ↔ sep ∉ t := by
  induction t with
  | nil => simp [cut?]
  | cons c r ih =>
    simp only [cut?]
    split
    · simp_all
    · next hc => simp [ih, Ne.symm hc]

@[simp] theorem byteLength_nil : byteLength [] = 0 := rfl

@[simp] theorem byteLength_cons (c : Char) (t : Text) :
    byteLength (c :: t) = c.utf8Size + byteLength t := rfl

@[simp] theorem byteLength_append (s t : Text) :
    byteLength (s ++ t) = byteLength s + byteLength t := by
  induction s with
  | nil => simp
  | cons c r ih => simp [ih, Nat.add_assoc]

theorem sameName_comm (s t : Text) : sameName s t = sameName t s := by
  simp [sameName, Bool.beq_comm]

theorem sameName_refl (s : Text) : sameName s s = true := by simp [sameName]

theorem sameName_trans {s t u : Text} (h : sameName s t) (k : sameName t u) : sameName s u := by
  simp_all [sameName]

end Text

end TraceHeaders
