import TraceHeaders.Text.Utf8

namespace TraceHeaders.Text.Percent

def isPlain (c : Char) : Bool := c.isAlphanum || c == '.' || c == '-' || c == '*' || c == '_'

def escapeByte (b : UInt8) : Text :=
  ['%', upperHexDigit (b.toNat / 16), upperHexDigit (b.toNat % 16)]

def encodeChar (c : Char) : Text :=
  if isPlain c then [c] else (charBytes c).flatMap escapeByte

def encode (t : Text) : Text := t.flatMap encodeChar

def escaped? (high low : Char) : Option UInt8 :=
  match hexDigit? high, hexDigit? low with
  | some a, some b => some (.ofNat (16 * a + b))
  | _, _ => none

def unescape : Text → List UInt8
  | '%' :: high :: low :: r =>
    match escaped? high low with
    | some b => b :: unescape r
    | none => charBytes '%' ++ unescape (high :: low :: r)
  | c :: r => charBytes c ++ unescape r
  | [] => []

def decode (t : Text) : Except Utf8Fault Text := ofBytes (unescape (replace '+' ' ' t))

theorem unescape_cons {c : Char} (h : c ≠ '%') (r : Text) :
    unescape (c :: r) = charBytes c ++ unescape r := by
  rw [unescape]
  rintro _ _ _ rfl
  exact absurd rfl h

theorem hexDigit?_upperHexDigit {n : Nat} (h : n < 16) : hexDigit? (upperHexDigit n) = some n := by
  revert n; decide

theorem upperHexDigit_ne_plus {n : Nat} (h : n < 16) : upperHexDigit n ≠ '+' := by
  revert n; decide

theorem escaped?_upperHexDigit (b : UInt8) :
    escaped? (upperHexDigit (b.toNat / 16)) (upperHexDigit (b.toNat % 16)) = some b := by
  have hb := b.toNat_lt
  rw [escaped?, hexDigit?_upperHexDigit (by omega), hexDigit?_upperHexDigit (by omega)]
  simp only [Nat.div_add_mod, Option.some.injEq]
  exact UInt8.ofNat_toNat

theorem unescape_escapeByte (b : UInt8) (r : Text) :
    unescape (escapeByte b ++ r) = b :: unescape r := by
  simp [escapeByte, unescape, escaped?_upperHexDigit]

theorem unescape_escapeBytes (bs : List UInt8) (r : Text) :
    unescape (bs.flatMap escapeByte ++ r) = bs ++ unescape r := by
  induction bs with
  | nil => rfl
  | cons b bs ih => simp [unescape_escapeByte, ih]

theorem ne_of_isPlain {c d : Char} (hc : isPlain c) (hd : isPlain d = false) : c ≠ d := by
  rintro rfl
  rw [hd] at hc
  cases hc

theorem unescape_encode (t : Text) : unescape (encode t) = bytes t := by
  induction t with
  | nil => rfl
  | cons c r ih =>
    show unescape (encodeChar c ++ encode r) = charBytes c ++ bytes r
    rw [encodeChar]
    split
    · next h => rw [List.singleton_append, unescape_cons (ne_of_isPlain h rfl), ih]
    · rw [unescape_escapeBytes, ih]

theorem plus_not_mem_encode (t : Text) : '+' ∉ encode t := by
  intro h
  obtain ⟨c, _, hc⟩ := List.mem_flatMap.1 h
  rw [encodeChar] at hc
  split at hc
  · next hp => exact ne_of_isPlain hp rfl (List.mem_singleton.1 hc).symm
  · obtain ⟨b, _, hb⟩ := List.mem_flatMap.1 hc
    have hlt := b.toNat_lt
    simp only [escapeByte, List.mem_cons, List.not_mem_nil, or_false] at hb
    obtain hb | hb | hb := hb
    · exact absurd hb (by decide)
    · exact upperHexDigit_ne_plus (by omega) hb.symm
    · exact upperHexDigit_ne_plus (by omega) hb.symm

theorem replace_of_not_mem {old new : Char} {t : Text} (h : old ∉ t) : replace old new t = t := by
  induction t with
  | nil => rfl
  | cons c r ih =>
    simp only [List.mem_cons, not_or] at h
    rw [replace, List.map_cons, if_neg (Ne.symm h.1)]
    exact congrArg _ (ih h.2)

theorem decode_encode (t : Text) : decode (encode t) = .ok t := by
  rw [decode, replace_of_not_mem (plus_not_mem_encode t), unescape_encode, ofBytes_bytes]

end TraceHeaders.Text.Percent
