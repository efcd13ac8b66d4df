import TraceHeaders.Format.Baggage
import TraceHeaders.RequestTags

/-! The trace identifier travels as its low half in decimal, and its high half as a tag. -/

namespace TraceHeaders.Datadog

def traceIdName : Text := "x-datadog-trace-id".toList
def parentIdName : Text := "x-datadog-parent-id".toList
def priorityName : Text := "x-datadog-sampling-priority".toList
def originName : Text := "x-datadog-origin".toList
def tagsName : Text := "x-datadog-tags".toList
def baggageStart : Text := "ot-baggage-".toList

inductive Cause where
  | noTraceId
  | zeroTraceId
  | badTraceId
  | badParentId
  | badPriority
  deriving Repr, DecidableEq

def Cause.reason : Cause → Text
  | noTraceId => "`trace_id` not found".toList
  | zeroTraceId => "Invalid `trace_id` found".toList
  | badTraceId => "Failed to decode `trace_id`".toList
  | badParentId => "Failed to decode `parent_id`".toList
  | badPriority => "Failed to decode `sampling_priority`".toList

def Cause.message (c : Cause) : Text := Fault.message ⟨.extract, c.reason, .datadog⟩

def isZeros (t : Text) : Bool := !t.isEmpty && t.all (· = '0')

def traceId (v : HeaderView) : Except Cause UInt64 :=
  match (v.get? traceIdName).map Text.trim with
  | none => .error .noTraceId
  | some t =>
    if isZeros t then .error .zeroTraceId
    else match Text.uint64? t with
      | some n => .ok n
      | none => .error .badTraceId

def parentId (v : HeaderView) : Except Cause UInt64 :=
  match v.get? parentIdName with
  | none => .ok 0
  | some t =>
    match Text.uint64? (Text.trim t) with
    | some n => .ok n
    | none => .error .badParentId

def priority (v : HeaderView) : Except Cause (Option Int8) :=
  match v.get? priorityName with
  | none => .ok none
  | some t =>
    match Text.int8? (Text.trim t) with
    | some p => .ok (some p)
    | none => .error .badPriority

def parentAndPriority (v : HeaderView) : Except Cause (UInt64 × Option Int8) := do
  let parent ← parentId v
  let p ← priority v
  pure (parent, p)

def origin? (v : HeaderView) : Option Text := (v.get? originName).bind Text.trimmed?

def isHighHalf (t : Text) : Bool := t.length = 16 && t.all Text.isLowerHexDigit

def takeHighHalf (s : TagSet) : Logged (UInt64 × TagSet) :=
  match s.get? TagSet.highHalfKey with
  | none => pure (0, s)
  | some t =>
    let rest := s.erase TagSet.highHalfKey
    if isHighHalf t then pure (.ofNat ((Text.hex? t).getD 0), rest)
    else do
      Logged.warn ("Malformed Trace ID: ".toList ++ t ++
        " Failed to decode trace ID from carrier.".toList)
      pure (0, { rest with error := some (TagSet.Fault.malformedHighHalf t).message })

def tagSet (limit : Nat) (v : HeaderView) : Logged TagSet :=
  match v.get? tagsName with
  | none => pure {}
  | some header => TagSet.ofHeader limit header

def extractBaggage (enabled : Bool) (v : HeaderView) : Logged (Dict Text) :=
  if enabled then Baggage.extract baggageStart.isPrefixOf? v else pure ∅

def extract (baggageEnabled : Bool) (limit : Nat) (v : HeaderView) : Logged (Option Finding) := do
  let baggage ← extractBaggage baggageEnabled v
  match traceId v with
  | .error c =>
    Logged.debug c.message
    pure (RequestTags.finding? .datadog v (origin? v) baggage)
  | .ok low =>
    match parentAndPriority v with
    | .error c =>
      Logged.debug c.message
      pure none
    | .ok (spanId, priority) =>
      let tags ← tagSet limit v
      let (high, tagSet) ← takeHighHalf tags
      pure (some (.complete {
        traceId := .ofParts high low
        spanId
        style := .datadog
        sampling := ({ priority } : Sampling).withDecisionMaker tagSet.decisionMaker
        origin := origin? v
        tagSet
        baggage
        requestTags := RequestTags.collect v }))

def outgoingTags (c : Context) : TagSet :=
  if c.traceId.isWide then c.tagSet.withTag TagSet.highHalfKey (Text.hexWord c.traceId.high)
  else c.tagSet

def inject (baggageEnabled : Bool) (limit : Nat) (c : Context) : Logged (List Header) := do
  let tags ← (outgoingTags c).header? limit
  pure ([(traceIdName, Text.ofNat c.traceId.low.toNat), (parentIdName, Text.ofNat c.spanId.toNat)] ++
    (c.sampling.priority.map fun p => (priorityName, Text.ofInt p.toInt)).toList ++
    (c.origin.map (originName, ·)).toList ++
    (tags.map (tagsName, ·)).toList ++
    if baggageEnabled then Baggage.inject (baggageStart ++ ·) c.baggage else [])

def codec (baggageEnabled : Bool) (limit : Nat) : Codec :=
  ⟨extract baggageEnabled limit, inject baggageEnabled limit⟩

end TraceHeaders.Datadog
