import TraceHeaders.Text.Numeral

namespace TraceHeaders

structure Sampling where
  priority : Option Int8 := none
  mechanism : Option UInt8 := none
  deriving Repr, DecidableEq, Inhabited

namespace Sampling

def autoReject : Int8 := 0

def autoKeep : Int8 := 1

def userKeep : Int8 := 2

def ofPriority (p : Int8) : Sampling := { priority := some p }

def mechanismOf? (decisionMaker : Text) : Option UInt8 :=
  (['-'].isPrefixOf? decisionMaker).bind Text.uint8?

def withDecisionMaker (s : Sampling) (decisionMaker : Option Text) : Sampling :=
  { s with mechanism := decisionMaker.bind mechanismOf? }

def isSampled (s : Sampling) : Option Bool := s.priority.map (0 < ·)

end Sampling

end TraceHeaders
