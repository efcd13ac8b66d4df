import TraceHeaders.Text.Basic
import TraceHeaders.Text.Case.Pairs
import TraceHeaders.Text.Case.Context

/-! Characters are mapped one by one, but for U+0130 and a capital sigma that ends a word. -/

namespace TraceHeaders.Text

def meetsCased (t : Text) : Bool :=
  match t.dropWhile isCaseIgnorable with
  | [] => false
  | c :: _ => isCased c

/-- `before` holds what precedes, nearest character first. -/
def lowerAfter (before : Text) : Text → Text
  | [] => []
  | c :: r =>
    (if c = 'Σ' then [if meetsCased before && !meetsCased r then 'ς' else 'σ']
      else if c = 'İ' then ['i', '\u0307']
      else [lowerChar c]) ++ lowerAfter (c :: before) r

def lower (t : Text) : Text := lowerAfter [] t

theorem toLower_of_le {c : Char} (h : 0x80 ≤ c.toNat) : c.toLower = c := by
  unfold Char.toLower
  rw [dif_neg]
  simp only [ge_iff_le, UInt32.le_iff_toNat_le]
  change ¬ (65 ≤ c.toNat ∧ c.toNat ≤ 90)
  omega

theorem lowerAfter_append_of_ascii {s : Text} (h : ∀ c ∈ s, c.toNat < 0x80) (before t : Text) :
    lowerAfter before (s ++ t) = asciiLower s ++ lowerAfter (s.reverse ++ before) t := by
  induction s generalizing before with
  | nil => rfl
  | cons c r ih =>
    have hc : c.toNat < 0x80 := h c (by simp)
    have h1 : c ≠ 'Σ' := by rintro rfl; simp [Char.toNat] at hc
    have h2 : c ≠ 'İ' := by rintro rfl; simp [Char.toNat] at hc
    rw [List.cons_append, lowerAfter, if_neg h1, if_neg h2, lowerChar_of_lt hc,
      ih fun d hd => h d (List.mem_cons_of_mem _ hd), List.reverse_cons, List.append_assoc]
    rfl

theorem lower_of_ascii {t : Text} (h : ∀ c ∈ t, c.toNat < 0x80) : lower t = asciiLower t := by
  have ha := lowerAfter_append_of_ascii h [] []
  rwa [List.append_nil, lowerAfter, List.append_nil] at ha

end TraceHeaders.Text
