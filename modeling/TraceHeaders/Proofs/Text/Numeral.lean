import TraceHeaders.Text.Numeral
import TraceHeaders.Proofs.Text.Trim
import Mathlib.Algebra.Group.Nat.Defs

namespace TraceHeaders.Text

lemma ofNat_eq_zero_iff {n : Nat} (h : n < UInt64.size) : UInt64.ofNat n = 0 ↔ n = 0 := by
  rw [← UInt64.toNat_inj, UInt64.toNat_ofNat', UInt64.toNat_zero, Nat.mod_eq_of_lt h]

lemma hex?_hexWord (w : UInt64) : hex? (hexWord w) = some w.toNat :=
  hex?_hexPadded (by decide) w.toNat_lt

lemma hexWord_inj {a b : UInt64} : hexWord a = hexWord b ↔ a = b := by
  constructor
  · intro h
    have hh := congrArg hex? h
    rw [hex?_hexWord, hex?_hexWord, Option.some.injEq] at hh
    exact UInt64.toNat_inj.mp hh
  · rintro rfl
    rfl

lemma mem_hexPadded {c : Char} {width n : Nat} (h : c ∈ hexPadded width n) :
    isLowerHexDigit c := by
  induction width generalizing n with
  | zero => cases h
  | succ w ih =>
    rw [hexPadded, List.mem_append, List.mem_singleton] at h
    obtain h | rfl := h
    · exact ih h
    · exact isLowerHexDigit_hexDigit (Nat.mod_lt n (by decide))

lemma byteLength_of_ascii {t : Text} (h : ∀ ch ∈ t, ch.toNat < 0x80) :
    byteLength t = t.length := by
  induction t with
  | nil => rfl
  | cons ch t ih =>
    have hc : ch.utf8Size = 1 := Char.utf8Size_eq_one_iff.mpr
      (Nat.le_of_lt_succ (h ch List.mem_cons_self))
    rw [byteLength_cons, hc, ih fun d hd => h d (List.mem_cons_of_mem ch hd),
      List.length_cons, Nat.add_comm]

lemma byteLength_hexPadded (width n : Nat) : byteLength (hexPadded width n) = width := by
  induction width generalizing n with
  | zero => rfl
  | succ w ih =>
    have hd : ∀ d < 16, (hexDigit d).utf8Size = 1 := by decide
    rw [hexPadded, byteLength_append, ih, byteLength_cons, hd _ (Nat.mod_lt n (by decide)),
      byteLength_nil]

lemma length_and_mem_hexWord (w : UInt64) :
    (hexWord w).length = 16 ∧ ∀ c ∈ hexWord w, isLowerHexDigit c :=
  ⟨length_hexPadded 16 _, fun _ => mem_hexPadded⟩

lemma isHexDigit_of_isLowerHexDigit {c : Char} (h : isLowerHexDigit c) : isHexDigit c := by
  simp only [isLowerHexDigit, Bool.or_eq_true, Bool.and_eq_true, decide_eq_true_eq] at h
  unfold isHexDigit hexDigit?
  split
  · rfl
  · next hd => rw [if_pos (h.resolve_left hd), Option.isSome_some]

lemma all_isHexDigit_hexPadded (width n : Nat) : (hexPadded width n).all isHexDigit :=
  List.all_eq_true.mpr fun _ hc => isHexDigit_of_isLowerHexDigit (mem_hexPadded hc)

lemma formed_hexPadded (width n : Nat) :
    ((hexPadded width n).length = width && (hexPadded width n).all isHexDigit) := by
  rw [length_hexPadded, all_isHexDigit_hexPadded, decide_eq_true rfl]
  rfl

lemma not_mem_hexPadded {c : Char} (h : isLowerHexDigit c = false) (width n : Nat) :
    c ∉ hexPadded width n := by
  intro hc
  rw [mem_hexPadded hc] at h
  cases h

lemma hexDigit?_lt {c : Char} {n : Nat} (h : hexDigit? c = some n) : n < 16 := by
  unfold hexDigit? at h
  simp only [Char.le_def, UInt32.le_iff_toNat_le] at h
  change (if 48 ≤ c.toNat ∧ c.toNat ≤ 57 then some (c.toNat - 48)
    else if 97 ≤ c.toNat ∧ c.toNat ≤ 102 then some (c.toNat - 97 + 10)
    else if 65 ≤ c.toNat ∧ c.toNat ≤ 70 then some (c.toNat - 65 + 10) else none) = some n at h
  split_ifs at h <;> simp only [Option.some.injEq] at h <;> omega

lemma digitsFrom_cons (base : Nat) (digit? : Char → Option Nat) (n : Nat) (c : Char) (t : Text) :
    digitsFrom base digit? n (c :: t) =
      (digit? c).bind fun d => digitsFrom base digit? (base * n + d) t := by
  rw [digitsFrom, List.foldlM_cons]
  cases digit? c <;> rfl

lemma exists_digitsFrom {t : Text} (h : ∀ c ∈ t, isHexDigit c) (m : Nat) :
    ∃ n, digitsFrom 16 hexDigit? m t = some n := by
  induction t generalizing m with
  | nil => exact ⟨m, rfl⟩
  | cons c r ih =>
    obtain ⟨k, hk⟩ := Option.isSome_iff_exists.mp (h c List.mem_cons_self)
    rw [digitsFrom_cons, hk]
    exact ih (fun d hd => h d (List.mem_cons_of_mem c hd)) _

lemma digitsFrom_lt {t : Text} {m n : Nat} (h : digitsFrom 16 hexDigit? m t = some n) :
    n < (m + 1) * 16 ^ t.length := by
  induction t generalizing m with
  | nil =>
    obtain rfl : m = n := Option.some.inj h
    simp
  | cons c r ih =>
    rw [digitsFrom_cons] at h
    obtain ⟨k, hk, hr⟩ := Option.bind_eq_some_iff.mp h
    have hd := hexDigit?_lt hk
    calc
      n < (16 * m + k + 1) * 16 ^ r.length := ih hr
      _ ≤ (16 * (m + 1)) * 16 ^ r.length := Nat.mul_le_mul_right _ (by omega)
      _ = (m + 1) * 16 ^ (c :: r).length := by
        rw [List.length_cons, Nat.pow_succ]
        ac_rfl

lemma hex?_eq_some_iff {t : Text} {n : Nat} :
    hex? t = some n ↔ t ≠ [] ∧ digitsFrom 16 hexDigit? 0 t = some n := by
  unfold hex? digits?
  by_cases ht : t = [] <;> simp [ht]

lemma hex?_lt {t : Text} {n : Nat} (h : hex? t = some n) : n < 16 ^ t.length := by
  have hn := digitsFrom_lt (hex?_eq_some_iff.mp h).2
  rwa [Nat.zero_add, Nat.one_mul] at hn

lemma toNat_of_isLowerHexDigit {c : Char} (h : isLowerHexDigit c) :
    0x30 ≤ c.toNat ∧ c.toNat ≤ 0x39 ∨ 0x61 ≤ c.toNat ∧ c.toNat ≤ 0x66 := by
  simp only [isLowerHexDigit, Bool.or_eq_true, Bool.and_eq_true, decide_eq_true_eq, Char.le_def,
    UInt32.le_iff_toNat_le] at h
  exact h

lemma not_blank_of_isLowerHexDigit {c : Char} (h : isLowerHexDigit c) : isBlank c = false := by
  have hn := toNat_of_isLowerHexDigit h
  exact not_blank_of_toNat (by omega) (by omega)

lemma trim_hexPadded (width n : Nat) : trim (hexPadded width n) = hexPadded width n :=
  trim_of_not_blank fun _ hc => not_blank_of_isLowerHexDigit (mem_hexPadded hc)

lemma trim_hexWord (w : UInt64) : trim (hexWord w) = hexWord w := trim_hexPadded 16 _

lemma decimalDigit?_of_isDigit {c : Char} (h : c.isDigit) :
    decimalDigit? c = some (c.toNat - '0'.toNat) := by
  rw [Char.isDigit, Bool.and_eq_true, decide_eq_true_eq, decide_eq_true_eq] at h
  exact if_pos h

lemma digitsFrom_of_isDigit {t : Text} (h : ∀ c ∈ t, c.isDigit) (n : Nat) :
    digitsFrom 10 decimalDigit? n t = some (Nat.ofDigitChars 10 t n) := by
  induction t generalizing n with
  | nil => rfl
  | cons c r ih =>
    have hc := decimalDigit?_of_isDigit (h c List.mem_cons_self)
    have hr := ih fun d hd => h d (List.mem_cons_of_mem c hd)
    rw [Nat.ofDigitChars_cons, ← hr]
    simp only [digitsFrom, List.foldlM_cons, hc]
    rfl

lemma decimalDigit?_eq_zero_iff {c : Char} : decimalDigit? c = some 0 ↔ c = '0' := by
  constructor
  · intro h
    unfold decimalDigit? at h
    split at h
    · next hd =>
      have hn : c.toNat - '0'.toNat = 0 := Option.some.inj h
      have hl : '0'.toNat ≤ c.toNat := hd.1
      apply Char.toNat_inj.mp
      omega
    · cases h
  · rintro rfl
    rfl

lemma digitsFrom_eq_zero_iff {t : Text} {m : Nat} :
    digitsFrom 10 decimalDigit? m t = some 0 ↔ m = 0 ∧ ∀ c ∈ t, c = '0' := by
  induction t generalizing m with
  | nil => simp [digitsFrom]
  | cons c r ih =>
    rw [digitsFrom_cons, Option.bind_eq_some_iff]
    constructor
    · rintro ⟨d, hd, hr⟩
      obtain ⟨hz, ha⟩ := ih.mp hr
      obtain ⟨rfl, rfl⟩ : m = 0 ∧ d = 0 := by omega
      exact ⟨rfl, List.forall_mem_cons.mpr ⟨decimalDigit?_eq_zero_iff.mp hd, ha⟩⟩
    · rintro ⟨rfl, h⟩
      obtain ⟨hc, hr⟩ := List.forall_mem_cons.mp h
      exact ⟨0, decimalDigit?_eq_zero_iff.mpr hc, ih.mpr ⟨rfl, hr⟩⟩

lemma decimal?_eq_zero_iff {t : Text} : decimal? t = some 0 ↔ t ≠ [] ∧ ∀ c ∈ t, c = '0' := by
  unfold decimal? digits?
  by_cases ht : t = []
  · simp [ht]
  · rw [if_neg ht, digitsFrom_eq_zero_iff]
    simp [ht]

lemma uint64?_eq_zero_iff {t : Text} : uint64? t = some 0 ↔ natural? t = some 0 := by
  rw [uint64?, Option.bind_eq_some_iff]
  constructor
  · rintro ⟨n, hn, hz⟩
    split at hz
    · next hl =>
      obtain rfl := (ofNat_eq_zero_iff hl).mp (Option.some.inj hz)
      exact hn
    · cases hz
  · intro h
    exact ⟨0, h, rfl⟩

lemma isDigit_of_mem_ofNat {n : Nat} {c : Char} (h : c ∈ ofNat n) : c.isDigit :=
  Nat.isDigit_of_mem_toDigits (by decide) (by decide) h

lemma isLowerHexDigit_of_isDigit {c : Char} (h : c.isDigit) : isLowerHexDigit c := by
  rw [Char.isDigit, Bool.and_eq_true, decide_eq_true_eq, decide_eq_true_eq] at h
  simp only [isLowerHexDigit, Bool.or_eq_true, Bool.and_eq_true, decide_eq_true_eq]
  exact .inl h

lemma not_blank_of_mem_ofNat {n : Nat} {c : Char} (h : c ∈ ofNat n) : isBlank c = false :=
  not_blank_of_isLowerHexDigit (isLowerHexDigit_of_isDigit (isDigit_of_mem_ofNat h))

lemma not_blank_of_mem_ofInt {z : Int} {c : Char} (h : c ∈ ofInt z) : isBlank c = false := by
  cases z with
  | ofNat n => exact not_blank_of_mem_ofNat h
  | negSucc n =>
    rw [ofInt, List.mem_cons] at h
    obtain rfl | h := h
    · rfl
    · exact not_blank_of_mem_ofNat h

lemma length_ofInt_le (p : Int8) : (ofInt p.toInt).length ≤ 4 := by
  have hd : ∀ n ≤ 128, (ofNat n).length ≤ 3 := fun n hn =>
    (Nat.length_toDigits_le_iff (by decide) (by decide)).mpr (hn.trans_lt (by decide))
  have hl := p.le_toInt
  have hu := p.toInt_lt
  revert hl hu
  cases p.toInt with
  | ofNat n =>
    intro _ hu
    exact (hd n (Int.ofNat_lt.mp hu).le).trans (by decide)
  | negSucc n =>
    intro hl _
    exact Nat.succ_le_succ (hd (n + 1) (by omega))

lemma decimal?_ofNat (n : Nat) : decimal? (ofNat n) = some n := by
  rw [decimal?, digits?, if_neg (show ofNat n ≠ [] from Nat.toDigits_ne_nil),
    digitsFrom_of_isDigit fun c => isDigit_of_mem_ofNat, ofNat, Nat.ofDigitChars_ten_toDigits]

lemma natural?_ofNat (n : Nat) : natural? (ofNat n) = some n := by
  unfold natural?
  split
  · next r h =>
    have hp := isDigit_of_mem_ofNat (c := '+') (h ▸ List.mem_cons_self)
    exact absurd hp (by decide)
  · exact decimal?_ofNat n

lemma integer?_ofInt (z : Int) : integer? (ofInt z) = some z := by
  cases z with
  | ofNat n =>
    unfold integer?
    split
    · next r h =>
      have hp := isDigit_of_mem_ofNat (c := '-') (h ▸ List.mem_cons_self)
      exact absurd hp (by decide)
    · rw [ofInt, natural?_ofNat]
      rfl
  | negSucc n =>
    rw [ofInt, integer?, decimal?_ofNat]
    rfl

lemma uint64?_ofNat (w : UInt64) : uint64? (ofNat w.toNat) = some w := by
  rw [uint64?, natural?_ofNat, Option.bind_some, if_pos w.toNat_lt, UInt64.ofNat_toNat]

lemma int8?_ofInt (p : Int8) : int8? (ofInt p.toInt) = some p := by
  rw [int8?, integer?_ofInt, Option.bind_some, if_pos ⟨p.le_toInt, p.toInt_lt⟩, Int8.ofInt_toInt]

def hexValue : Text → Nat
  | [] => 0
  | c :: r => (hexDigit? c).getD 0 * 16 ^ r.length + hexValue r

lemma hexDigit?_eq_zero_iff {c : Char} : hexDigit? c = some 0 ↔ c = '0' := by
  constructor
  · intro h
    unfold hexDigit? at h
    split_ifs at h with hd
    · have hn : c.toNat - '0'.toNat = 0 := Option.some.inj h
      have hl : '0'.toNat ≤ c.toNat := hd.1
      apply Char.toNat_inj.mp
      omega
    · simp at h
    · simp at h
  · rintro rfl
    rfl

lemma digitsFrom_eq_hexValue {t : Text} (h : ∀ c ∈ t, isHexDigit c) (m : Nat) :
    digitsFrom 16 hexDigit? m t = some (m * 16 ^ t.length + hexValue t) := by
  induction t generalizing m with
  | nil => simp [digitsFrom, hexValue]
  | cons c r ih =>
    obtain ⟨d, hd⟩ := Option.isSome_iff_exists.mp (h c List.mem_cons_self)
    have hj : (16 * m + d) * 16 ^ r.length = m * 16 ^ (r.length + 1) + d * 16 ^ r.length := by
      rw [Nat.add_mul, Nat.pow_succ]
      ac_rfl
    rw [digitsFrom_cons, hd, Option.bind_some, ih fun e he => h e (List.mem_cons_of_mem c he),
      hexValue, hd, List.length_cons, hj, Option.getD_some, Nat.add_assoc]

lemma hex?_eq_hexValue {t : Text} (ht : t ≠ []) (h : ∀ c ∈ t, isHexDigit c) :
    hex? t = some (hexValue t) := by
  have hd := digitsFrom_eq_hexValue h 0
  rw [Nat.zero_mul, Nat.zero_add] at hd
  exact hex?_eq_some_iff.mpr ⟨ht, hd⟩

lemma hexValue_lt {t : Text} (h : ∀ c ∈ t, isHexDigit c) : hexValue t < 16 ^ t.length := by
  by_cases ht : t = []
  · rw [ht]
    decide
  · exact hex?_lt (hex?_eq_hexValue ht h)

lemma hexValue_eq_zero_iff {t : Text} (h : ∀ c ∈ t, isHexDigit c) :
    hexValue t = 0 ↔ ∀ c ∈ t, c = '0' := by
  induction t with
  | nil => simp [hexValue]
  | cons c r ih =>
    obtain ⟨hc, hr⟩ := List.forall_mem_cons.mp h
    obtain ⟨d, hd⟩ := Option.isSome_iff_exists.mp hc
    have hz : d * 16 ^ r.length = 0 ↔ c = '0' := by
      rw [← hexDigit?_eq_zero_iff, hd, Option.some.injEq, Nat.mul_eq_zero]
      simp
    rw [hexValue, hd, Option.getD_some, Nat.add_eq_zero_iff, hz, ih hr, List.forall_mem_cons]

structure Identifying (t : Text) : Prop where
  digits : ∀ c ∈ t, isHexDigit c
  nonzero : ∃ c ∈ t, c ≠ '0'

lemma identifying_iff {t : Text} (h : ∀ c ∈ t, isHexDigit c) : Identifying t ↔ hexValue t ≠ 0 := by
  rw [Ne, hexValue_eq_zero_iff h]
  push Not
  exact ⟨fun hi => hi.nonzero, fun hn => ⟨h, hn⟩⟩

end TraceHeaders.Text
