import TraceHeaders.Sampling
import TraceHeaders.Style
import TraceHeaders.TagSet
import TraceHeaders.TraceId

/-! A partial context holds signals of a request without an identity. A link records a context that
belongs to another trace than the chosen one. -/

namespace TraceHeaders

structure Link where
  traceId : TraceId
  spanId : UInt64
  flags : UInt32
  traceState : Option Text
  attributes : Dict Text
  deriving DecidableEq

structure Context where
  traceId : TraceId
  spanId : UInt64
  style : Style
  sampling : Sampling := {}
  origin : Option Text := none
  tagSet : TagSet := {}
  baggage : Dict Text := ∅
  requestTags : Dict Text := ∅
  links : List Link := []
  deriving DecidableEq, Inhabited

structure PartialContext where
  style : Style
  origin : Option Text := none
  requestTags : Dict Text := ∅
  baggage : Dict Text := ∅
  deriving DecidableEq

inductive Finding where
  | complete (c : Context)
  | incomplete (p : PartialContext)
  deriving DecidableEq

namespace Finding

def style : Finding → Style
  | complete c => c.style
  | incomplete p => p.style

def context? : Finding → Option Context
  | complete c => some c
  | incomplete _ => none

end Finding

namespace Link

def highHalf? (l : Link) : Option UInt64 := if l.traceId.isWide then some l.traceId.high else none

def terminated (c : Context) : Link where
  traceId := c.traceId
  spanId := c.spanId
  flags := if c.sampling.isSampled = some true then 1 else 0
  traceState := if c.style = .traceContext then c.tagSet.traceState else none
  attributes := .ofList
    [("reason".toList, "terminated_context".toList), ("context_headers".toList, c.style.name)]

end Link

end TraceHeaders
