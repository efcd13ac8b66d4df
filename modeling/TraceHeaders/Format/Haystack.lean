import TraceHeaders.Format.Baggage
import TraceHeaders.RequestTags

namespace TraceHeaders.Haystack

def traceIdName : Text := "trace-id".toList
def spanIdName : Text := "span-id".toList
def parentIdName : Text := "parent-id".toList
def baggageStart : Text := "baggage-".toList

def uuidStart : Text := "44617461-646f-6721-".toList

inductive Cause where
  | missing
  | malformed
  | zero
  deriving Repr, DecidableEq

def Cause.reason : Cause → Text
  | missing => "Missing id".toList
  | malformed => "Invalid id".toList
  | zero => "`0` value for id is invalid".toList

def Cause.message (c : Cause) : Text := Fault.message ⟨.extract, c.reason, .haystack⟩

def isHex (length : Nat) (t : Text) : Bool := t.length = length && t.all Text.isHexDigit

def digits? (t : Text) : Option Text :=
  match t.splitOn '-' with
  | [a, b, c, d, e] =>
    if isHex 8 a && isHex 4 b && isHex 4 c && isHex 4 d && isHex 12 e then some (d ++ e) else none
  | _ => if isHex 16 t then some t else none

def id (v : HeaderView) (name : Text) : Except Cause UInt64 :=
  match v.get? name with
  | none => .error .missing
  | some t =>
    match (digits? (Text.trim t)).bind Text.hex? with
    | none => .error .malformed
    | some n => if n = 0 then .error .zero else .ok (.ofNat n)

def ids (v : HeaderView) : Except Cause (UInt64 × UInt64) := do
  let traceId ← id v traceIdName
  let spanId ← id v spanIdName
  if (v.get? parentIdName).isSome then
    let _ ← id v parentIdName
  pure (traceId, spanId)

def baggageKey? (mapping : Dict Text) (name : Text) : Option Text :=
  (mapping.get? name).or (baggageStart.isPrefixOf? name)

def headers (mapping : Dict Text) : Dict Text :=
  .ofList (mapping.entries.map fun e => (e.2, e.1))

def baggageName (mapping : Dict Text) (key : Text) : Text :=
  ((headers mapping).get? key).getD (baggageStart ++ key)

def extract (mapping : Dict Text) (v : HeaderView) : Logged (Option Finding) := do
  let baggage ← Baggage.extract (baggageKey? mapping) v
  match ids v with
  | .error c =>
    Logged.debug c.message
    pure (RequestTags.finding? .haystack v none baggage)
  | .ok (traceId, spanId) =>
    pure (some (.complete {
      traceId := .narrow traceId
      spanId
      style := .haystack
      sampling := .ofPriority Sampling.autoKeep
      baggage
      requestTags := RequestTags.collect v }))

def uuid (id : UInt64) : Text :=
  uuidStart ++ Text.hexPadded 4 (id.toNat / 0x1000000000000) ++ '-' :: Text.hexPadded 12 id.toNat

def inject (mapping : Dict Text) (c : Context) : List Header :=
  [(traceIdName, uuid c.traceId.low), (spanIdName, uuid c.spanId)] ++
    Baggage.inject (baggageName mapping) c.baggage

def codec (mapping : Dict Text) : Codec := ⟨extract mapping, fun c => pure (inject mapping c)⟩

end TraceHeaders.Haystack
