import TraceHeaders.Text.Numeral

namespace TraceHeaders.Text

def charBytes (c : Char) : List UInt8 :=
  let v := c.toNat
  if v < 0x80 then [.ofNat v]
  else if v < 0x800 then [.ofNat (0xC0 + v / 64), .ofNat (0x80 + v % 64)]
  else if v < 0x10000 then
    [.ofNat (0xE0 + v / 4096), .ofNat (0x80 + v / 64 % 64), .ofNat (0x80 + v % 64)]
  else
    [.ofNat (0xF0 + v / 262144), .ofNat (0x80 + v / 4096 % 64), .ofNat (0x80 + v / 64 % 64),
      .ofNat (0x80 + v % 64)]

def bytes (t : Text) : List UInt8 := t.flatMap charBytes

inductive Piece where
  | char (c : Char)
  | broken (size : Nat)
  | unfinished
  deriving Repr, DecidableEq

structure Lead where
  more : Nat
  low : Nat
  high : Nat
  bits : Nat

def lead? (b : UInt8) : Option Lead :=
  let n := b.toNat
  if n < 0x80 then some ⟨0, 0, 0, n⟩
  else if n < 0xC2 then none
  else if n < 0xE0 then some ⟨1, 0x80, 0xBF, n - 0xC0⟩
  else if n < 0xF0 then
    some ⟨2, if n = 0xE0 then 0xA0 else 0x80, if n = 0xED then 0x9F else 0xBF, n - 0xE0⟩
  else if n < 0xF5 then
    some ⟨3, if n = 0xF0 then 0x90 else 0x80, if n = 0xF4 then 0x8F else 0xBF, n - 0xF0⟩
  else none

/-- Reads the remaining bytes of a character of which `seen` bytes gave the bits `value`; the
next one has to lie between `low` and `high`. -/
def readTail : (more low high value seen : Nat) → List UInt8 → Piece × List UInt8
  | 0, _, _, value, _, bs => (.char (Char.ofNat value), bs)
  | _ + 1, _, _, _, _, [] => (.unfinished, [])
  | more + 1, low, high, value, seen, b :: bs =>
    if low ≤ b.toNat ∧ b.toNat ≤ high then
      readTail more 0x80 0xBF (value * 64 + (b.toNat - 0x80)) (seen + 1) bs
    else (.broken seen, b :: bs)

def nextPiece (b : UInt8) (bs : List UInt8) : Piece × List UInt8 :=
  match lead? b with
  | none => (.broken 1, bs)
  | some l => readTail l.more l.low l.high l.bits 1 bs

theorem length_readTail_le (more low high value seen : Nat) (bs : List UInt8) :
    (readTail more low high value seen bs).2.length ≤ bs.length := by
  induction more generalizing low high value seen bs with
  | zero => simp [readTail]
  | succ m ih =>
    cases bs with
    | nil => simp [readTail]
    | cons b bs =>
      simp only [readTail]
      split
      · exact Nat.le_succ_of_le (ih ..)
      · simp

theorem length_nextPiece_le (b : UInt8) (bs : List UInt8) :
    (nextPiece b bs).2.length ≤ bs.length := by
  unfold nextPiece
  split
  · simp
  · exact length_readTail_le ..

def pieces : List UInt8 → List Piece
  | [] => []
  | b :: bs => (nextPiece b bs).1 :: pieces (nextPiece b bs).2
termination_by bs => bs.length
decreasing_by exact Nat.lt_succ_of_le (length_nextPiece_le b bs)

inductive Utf8Fault where
  | broken (size start : Nat)
  | unfinished (start : Nat)
  deriving Repr, DecidableEq

def Utf8Fault.message : Utf8Fault → Text
  | .broken size start =>
    "invalid utf-8 sequence of ".toList ++ ofNat size ++ " bytes from index ".toList ++ ofNat start
  | .unfinished start => "incomplete utf-8 byte sequence from index ".toList ++ ofNat start

def readPieces (start : Nat) : List Piece → Except Utf8Fault Text
  | [] => .ok []
  | .char c :: ps => (readPieces (start + c.utf8Size) ps).map (c :: ·)
  | .broken size :: _ => .error (.broken size start)
  | .unfinished :: _ => .error (.unfinished start)

def ofBytes (bs : List UInt8) : Except Utf8Fault Text := readPieces 0 (pieces bs)

def Piece.shown : Piece → Char
  | .char c => c
  | _ => '\uFFFD'

def ofBytesLossy (bs : List UInt8) : Text := (pieces bs).map Piece.shown

theorem nextPiece_charBytes (c : Char) (bs : List UInt8) :
    ∃ b r, charBytes c = b :: r ∧ nextPiece b (r ++ bs) = (.char c, bs) := by
  have hc : Char.ofNat c.toNat = c := Char.ofNat_toNat c
  have hv : c.toNat < 0xD800 ∨ (0xDFFF < c.toNat ∧ c.toNat < 0x110000) := c.valid
  generalize hn : c.toNat = v at hc hv
  unfold charBytes
  simp only [hn]
  split
  · next h =>
    refine ⟨_, _, rfl, ?_⟩
    have e : (UInt8.ofNat v).toNat = v := by simp; omega
    simp [nextPiece, lead?, e, h, readTail, hc]
  split
  · refine ⟨_, _, rfl, ?_⟩
    have e1 : (UInt8.ofNat (0xC0 + v / 64)).toNat = 0xC0 + v / 64 := by simp; omega
    have e2 : (UInt8.ofNat (0x80 + v % 64)).toNat = 0x80 + v % 64 := by simp; omega
    have n1 : ¬ 0xC0 + v / 64 < 0x80 := by omega
    have n2 : ¬ 0xC0 + v / 64 < 0xC2 := by omega
    have n3 : 0xC0 + v / 64 < 0xE0 := by omega
    simp only [nextPiece, lead?, e1, n1, n2, n3, if_true, if_false, readTail, List.cons_append,
      List.nil_append, e2]
    rw [if_pos (by omega)]
    have : (0xC0 + v / 64 - 0xC0) * 64 + (0x80 + v % 64 - 0x80) = v := by omega
    rw [this, hc]
  split
  · refine ⟨_, _, rfl, ?_⟩
    have e1 : (UInt8.ofNat (0xE0 + v / 4096)).toNat = 0xE0 + v / 4096 := by simp; omega
    have e2 : (UInt8.ofNat (0x80 + v / 64 % 64)).toNat = 0x80 + v / 64 % 64 := by simp; omega
    have e3 : (UInt8.ofNat (0x80 + v % 64)).toNat = 0x80 + v % 64 := by simp; omega
    have n1 : ¬ 0xE0 + v / 4096 < 0x80 := by omega
    have n2 : ¬ 0xE0 + v / 4096 < 0xC2 := by omega
    have n3 : ¬ 0xE0 + v / 4096 < 0xE0 := by omega
    have n4 : 0xE0 + v / 4096 < 0xF0 := by omega
    simp only [nextPiece, lead?, e1, n1, n2, n3, n4, if_true, if_false, readTail, List.cons_append,
      List.nil_append, e2, e3]
    rw [if_pos (by split <;> split <;> omega), if_pos (by omega)]
    have : ((0xE0 + v / 4096 - 0xE0) * 64 + (0x80 + v / 64 % 64 - 0x80)) * 64 +
        (0x80 + v % 64 - 0x80) = v := by omega
    rw [this, hc]
  · refine ⟨_, _, rfl, ?_⟩
    have e1 : (UInt8.ofNat (0xF0 + v / 262144)).toNat = 0xF0 + v / 262144 := by simp; omega
    have e2 : (UInt8.ofNat (0x80 + v / 4096 % 64)).toNat = 0x80 + v / 4096 % 64 := by simp; omega
    have e3 : (UInt8.ofNat (0x80 + v / 64 % 64)).toNat = 0x80 + v / 64 % 64 := by simp; omega
    have e4 : (UInt8.ofNat (0x80 + v % 64)).toNat = 0x80 + v % 64 := by simp; omega
    have n1 : ¬ 0xF0 + v / 262144 < 0x80 := by omega
    have n2 : ¬ 0xF0 + v / 262144 < 0xC2 := by omega
    have n3 : ¬ 0xF0 + v / 262144 < 0xE0 := by omega
    have n4 : ¬ 0xF0 + v / 262144 < 0xF0 := by omega
    have n5 : 0xF0 + v / 262144 < 0xF5 := by omega
    simp only [nextPiece, lead?, e1, n1, n2, n3, n4, n5, if_true, if_false, readTail,
      List.cons_append, List.nil_append, e2, e3, e4]
    rw [if_pos (by split <;> split <;> omega), if_pos (by omega), if_pos (by omega)]
    have : (((0xF0 + v / 262144 - 0xF0) * 64 + (0x80 + v / 4096 % 64 - 0x80)) * 64 +
        (0x80 + v / 64 % 64 - 0x80)) * 64 + (0x80 + v % 64 - 0x80) = v := by omega
    rw [this, hc]

theorem pieces_bytes (t : Text) : pieces (bytes t) = t.map .char := by
  induction t with
  | nil => simp [bytes, pieces]
  | cons c r ih =>
    obtain ⟨b, s, hb, hn⟩ := nextPiece_charBytes c (bytes r)
    have : bytes (c :: r) = b :: (s ++ bytes r) := by
      rw [← List.cons_append, ← hb]
      rfl
    rw [this, pieces, hn, ih]
    rfl

theorem readPieces_chars (start : Nat) (t : Text) : readPieces start (t.map .char) = .ok t := by
  induction t generalizing start with
  | nil => rfl
  | cons c r ih => simp [readPieces, ih, Except.map]

theorem ofBytes_bytes (t : Text) : ofBytes (bytes t) = .ok t := by
  rw [ofBytes, pieces_bytes, readPieces_chars]

theorem ofBytesLossy_bytes (t : Text) : ofBytesLossy (bytes t) = t := by
  simp [ofBytesLossy, pieces_bytes, Function.comp_def, Piece.shown]

end TraceHeaders.Text
