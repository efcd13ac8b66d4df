import TraceHeaders.Format.TraceParent
import TraceHeaders.Format.TraceState
import TraceHeaders.RequestTags

namespace TraceHeaders.TraceContext

def parentName : Text := "traceparent".toList
def stateName : Text := "tracestate".toList

def flagPriority (isSampled : Bool) : Int8 :=
  if isSampled then Sampling.autoKeep else Sampling.autoReject

def priority (isSampled : Bool) (stated : Option Int8) : Int8 :=
  match stated with
  | some p => if decide (0 < p) = isSampled then p else flagPriority isSampled
  | none => flagPriority isSampled

def context (v : HeaderView) (p : TraceParent) (state : Option (Text × TraceState.Own)) :
    Context :=
  let own := (state.map (·.2)).getD {}
  let tagSet : TagSet :=
    { tags := own.tags, traceState := state.map (·.1), lastParent := own.lastParent }
  { traceId := .ofNat p.traceId
    spanId := p.spanId
    style := .traceContext
    sampling :=
      (Sampling.ofPriority (priority p.isSampled own.priority)).withDecisionMaker
        tagSet.decisionMaker
    origin := own.origin
    tagSet
    requestTags := RequestTags.collect v }

def readState (v : HeaderView) : Logged (Option (Text × TraceState.Own)) :=
  match v.getAll stateName with
  | [] => do
    Logged.debug "No `tracestate` header found".toList
    pure none
  | values => TraceState.read values

def extract (v : HeaderView) : Logged (Option Finding) :=
  match (v.get? parentName).map Text.trim with
  | none => pure (RequestTags.finding? .traceContext v none ∅)
  | some t => do
    match ← TraceParent.ofText t with
    | .error c =>
      Logged.debug c.message
      pure (RequestTags.finding? .traceContext v none ∅)
    | .ok p =>
      let state ← readState v
      pure (some (.complete (context v p state)))

def inject (c : Context) : Logged (List Header) :=
  if c.traceId.isZero || c.spanId = 0 then do
    Logged.debug (Fault.message ⟨.inject, "a context without ids".toList, .traceContext⟩)
    pure []
  else do
    let state ← TraceState.encode c
    pure [(parentName,
        TraceParent.encode c.traceId c.spanId (c.sampling.isSampled = some true)),
      (stateName, state)]

def codec : Codec := ⟨extract, inject⟩

end TraceHeaders.TraceContext
