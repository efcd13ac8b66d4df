/-! The 25 code points with the property White_Space, which trimming removes. -/

namespace TraceHeaders.Text

def blankRuns : List (Nat × Nat) :=
  [(0x9, 0xD), (0x20, 0x20), (0x85, 0x85), (0xA0, 0xA0), (0x1680, 0x1680), (0x2000, 0x200A),
   (0x2028, 0x2029), (0x202F, 0x202F), (0x205F, 0x205F), (0x3000, 0x3000)]

def isBlank (c : Char) : Bool :=
  blankRuns.any fun r => r.1 ≤ c.toNat && c.toNat ≤ r.2

example : (blankRuns.map fun r => r.2 + 1 - r.1).sum = 25 := rfl

end TraceHeaders.Text
