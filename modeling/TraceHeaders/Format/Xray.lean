import TraceHeaders.Format.Codec
import TraceHeaders.Format.Fields
import TraceHeaders.RequestTags

namespace TraceHeaders.Xray

def headerName : Text := "x-amzn-trace-id".toList

def rootKey : Text := "Root".toList
def parentKey : Text := "Parent".toList
def sampledKey : Text := "Sampled".toList
def originKey : Text := "_dd.origin".toList

def reservedKeys : List Text :=
  [rootKey, parentKey, sampledKey, "Self".toList, "Lineage".toList, originKey]

def isReserved (key : Text) : Bool := reservedKeys.any fun r => Text.sameName r key

def lengthLimit : Nat := 256

inductive Cause where
  | badRoot
  | badParent
  | noTraceId
  | noParent
  deriving Repr, DecidableEq

def Cause.reason : Cause → Text
  | badRoot => "Invalid root".toList
  | badParent => "Invalid parent".toList
  | noTraceId => "Missing trace_id".toList
  | noParent => "Missing parent".toList

def Cause.message (c : Cause) : Text := Fault.message ⟨.extract, c.reason, .xray⟩

def isHex (length : Nat) (t : Text) : Bool := t.length = length && t.all Text.isHexDigit

def root? (t : Text) : Option UInt64 :=
  match t.splitOn '-' with
  | [['1'], time, unique] =>
    if isHex 8 time && isHex 24 unique then (Text.hex? (unique.drop 8)).map .ofNat else none
  | _ => none

def parent? (t : Text) : Option UInt64 :=
  if isHex 16 t then (Text.hex? t).map .ofNat else none

def sampling (t : Text) : Sampling :=
  if t = ['1'] then .ofPriority Sampling.autoKeep
  else if t = ['0'] then .ofPriority Sampling.autoReject
  else {}

structure Reading where
  traceId : Option UInt64 := none
  spanId : Option UInt64 := none
  sampling : Sampling := {}
  origin : Option Text := none
  baggage : Dict Text := ∅
  deriving DecidableEq

def Reading.read (r : Reading) (key value : Text) : Except Cause Reading :=
  if Text.sameName key rootKey then
    match root? value with
    | some n => .ok { r with traceId := some n }
    | none => .error .badRoot
  else if Text.sameName key parentKey then
    match parent? value with
    | some n => .ok { r with spanId := some n }
    | none => .error .badParent
  else if Text.sameName key sampledKey then .ok { r with sampling := Xray.sampling value }
  else if key = originKey then .ok { r with origin := some value }
  else if isReserved key then .ok r
  else .ok { r with baggage := r.baggage.insert key value }

def Reading.readAll (r : Reading) : List (Text × Text) → Except Cause Reading
  | [] => .ok r
  | f :: fs => (r.read f.1 f.2).bind fun r => r.readAll fs

def fields (t : Text) : List (Text × Text) :=
  (t.splitOn ';').filterMap fun f =>
    (Text.cut? '=' (Text.trim f)).map fun e => (Text.trim e.1, Text.trim e.2)

def Reading.context (r : Reading) (requestTags : Dict Text) : Except Cause Context :=
  match r.traceId.filter (· ≠ 0), r.spanId.filter (· ≠ 0) with
  | none, _ => .error .noTraceId
  | _, none => .error .noParent
  | some traceId, some spanId =>
    .ok {
      traceId := .narrow traceId
      spanId
      style := .xray
      sampling := r.sampling
      origin := r.origin
      baggage := r.baggage
      requestTags }

def readHeader (t : Text) (requestTags : Dict Text) : Except Cause Context :=
  (Reading.readAll {} (fields t)).bind fun r => r.context requestTags

def extract (v : HeaderView) : Logged (Option Finding) :=
  match v.get? headerName with
  | none => pure (RequestTags.finding? .xray v none ∅)
  | some t =>
    match readHeader t (RequestTags.collect v) with
    | .ok c => pure (some (.complete c))
    | .error c => do
      Logged.debug c.message
      pure (RequestTags.finding? .xray v none ∅)

def identity (c : Context) : Text :=
  rootKey ++ "=1-00000000-00000000".toList ++ Text.hexWord c.traceId.low ++ ';' :: parentKey ++
    '=' :: Text.hexWord c.spanId ++
    match c.sampling.isSampled with
    | some b => ';' :: sampledKey ++ ['=', if b then '1' else '0']
    | none => []

def optionalFields (c : Context) : List Text :=
  (c.origin.map fun o => originKey ++ '=' :: o).toList ++
    (c.baggage.entries.filter fun e => !isReserved e.1).map fun e => e.1 ++ '=' :: e.2

def header (c : Context) : Text := Fields.append lengthLimit (identity c) (optionalFields c)

def inject (c : Context) : Logged (List Header) := do
  let fields := optionalFields c
  match (Fields.dropped? lengthLimit (identity c) fields).bind (fields[·]?) with
  | none => pure ()
  | some f =>
    Logged.debug ("Dropping `".toList ++ f ++ "` from X-Ray header, limit reached".toList)
  pure [(headerName, header c)]

def codec : Codec := ⟨extract, inject⟩

end TraceHeaders.Xray
