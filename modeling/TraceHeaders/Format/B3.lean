import TraceHeaders.Format.Codec
import TraceHeaders.RequestTags

namespace TraceHeaders.B3

def traceIdName : Text := "x-b3-traceid".toList
def spanIdName : Text := "x-b3-spanid".toList
def sampledName : Text := "x-b3-sampled".toList
def flagsName : Text := "x-b3-flags".toList
def singleName : Text := "b3".toList

inductive Cause where
  | badTraceId
  | badSpanId
  | badState
  | badParent
  | badShape
  deriving Repr, DecidableEq

def Cause.reason : Cause → Text
  | badTraceId => "Invalid trace_id".toList
  | badSpanId => "Invalid span_id".toList
  | badState => "Invalid sampling state".toList
  | badParent => "Invalid parent span id".toList
  | badShape => "Invalid b3 header".toList

def Cause.message (style : Style) (c : Cause) : Text := Fault.message ⟨.extract, c.reason, style⟩

inductive State where
  | deferred
  | accept
  | deny
  | debug
  deriving Repr, DecidableEq

namespace State

def sampling : State → Sampling
  | deferred => {}
  | accept => .ofPriority Sampling.autoKeep
  | deny => .ofPriority Sampling.autoReject
  | debug => .ofPriority Sampling.userKeep

def ofContext (c : Context) : State :=
  if c.tagSet.isDebug then debug
  else match c.sampling.isSampled with
    | some true => accept
    | some false => deny
    | none => deferred

end State

def isId (maxDigits : Nat) (t : Text) : Bool :=
  !t.isEmpty && t.length ≤ maxDigits && t.all Text.isHexDigit

def id? (maxDigits : Nat) (t : Text) : Option Nat :=
  if isId maxDigits t then (Text.hex? t).filter (· ≠ 0) else none

def ids (traceId spanId : Option Text) : Except Cause (TraceId × UInt64) :=
  match (traceId.map Text.trim).bind (id? 32) with
  | none => .error .badTraceId
  | some t =>
    match (spanId.map Text.trim).bind (id? 16) with
    | none => .error .badSpanId
    | some s => .ok (.ofNat t, .ofNat s)

def context (style : Style) (v : HeaderView) (traceId : TraceId) (spanId : UInt64) (s : State) :
    Context where
  traceId
  spanId
  style
  sampling := s.sampling
  tagSet := { isDebug := s = .debug }
  requestTags := RequestTags.collect v

def multiState (v : HeaderView) : Except Cause State :=
  if (v.get? flagsName).map Text.trim = some ['1'] then .ok .debug
  else match (v.get? sampledName).map Text.trim with
    | none => .ok .deferred
    | some t =>
      if t = ['1'] ∨ t = "true".toList then .ok .accept
      else if t = ['0'] ∨ t = "false".toList then .ok .deny
      else .error .badState

def extractMulti (v : HeaderView) : Logged (Option Finding) :=
  match ids (v.get? traceIdName) (v.get? spanIdName) with
  | .error c => do
    Logged.debug (c.message .b3multi)
    pure (RequestTags.finding? .b3multi v none ∅)
  | .ok (traceId, spanId) =>
    match multiState v with
    | .error c => do
      Logged.debug (c.message .b3multi)
      pure none
    | .ok s => pure (some (.complete (context .b3multi v traceId spanId s)))

def singleState : Option Text → Except Cause State
  | none => .ok .deferred
  | some ['1'] => .ok .accept
  | some ['0'] => .ok .deny
  | some ['d'] => .ok .debug
  | some _ => .error .badState

def checkParent : Option Text → Except Cause Unit
  | none => .ok ()
  | some t => if isId 16 t then .ok () else .error .badParent

def readParts (traceId spanId : Text) (state parent : Option Text) :
    Except Cause (TraceId × UInt64 × State) := do
  let (t, s) ← ids (some traceId) (some spanId)
  let st ← singleState state
  checkParent parent
  pure (t, s, st)

def readSingle (header : Text) : Except Cause (TraceId × UInt64 × State) :=
  match header.splitOn '-' with
  | [t, s] => readParts t s none none
  | [t, s, st] => readParts t s (some st) none
  | [t, s, st, p] => readParts t s (some st) (some p)
  | _ => .error .badShape

def extractSingle (v : HeaderView) : Logged (Option Finding) :=
  match (v.get? singleName).map Text.trim with
  | none => pure (RequestTags.finding? .b3single v none ∅)
  | some header =>
    if header = ['0'] then do
      Logged.debug "Received B3 deny without identity".toList
      pure none
    else match readSingle header with
      | .error c => do
        Logged.debug (c.message .b3single)
        pure (RequestTags.finding? .b3single v none ∅)
      | .ok (traceId, spanId, s) => pure (some (.complete (context .b3single v traceId spanId s)))

def traceIdText (padding : Bool) (t : TraceId) : Text :=
  if padding || t.isWide then Text.hexPadded 32 t.toNat else Text.hexWord t.low

def injectMulti (padding : Bool) (c : Context) : List Header :=
  [(traceIdName, traceIdText padding c.traceId), (spanIdName, Text.hexWord c.spanId)] ++
    (c.sampling.isSampled.map fun b => (sampledName, [if b then '1' else '0'])).toList ++
    if State.ofContext c = .debug then [(flagsName, ['1'])] else []

def stateText : State → Text
  | .deferred => []
  | .accept => ['-', '1']
  | .deny => ['-', '0']
  | .debug => ['-', 'd']

def injectSingle (padding : Bool) (c : Context) : List Header :=
  [(singleName, traceIdText padding c.traceId ++ '-' :: Text.hexWord c.spanId ++
    stateText (State.ofContext c))]

def multi (padding : Bool) : Codec := ⟨extractMulti, fun c => pure (injectMulti padding c)⟩

def single (padding : Bool) : Codec := ⟨extractSingle, fun c => pure (injectSingle padding c)⟩

end TraceHeaders.B3
