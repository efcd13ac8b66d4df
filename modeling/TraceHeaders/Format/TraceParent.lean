import TraceHeaders.Format.Codec

namespace TraceHeaders

structure TraceParent where
  traceId : Nat
  spanId : UInt64
  isSampled : Bool
  deriving Repr, DecidableEq

namespace TraceParent

inductive Cause where
  | badShape
  | invalidVersion
  | unexpectedTail
  | zeroTraceId
  | zeroSpanId
  deriving Repr, DecidableEq

def Cause.reason : Cause → Text
  | badShape => "invalid traceparent".toList
  | invalidVersion => "`ff` is an invalid traceparent version".toList
  | unexpectedTail =>
    ("Traceparent with version `00` should contain only 4 values delimited by `-`").toList
  | zeroTraceId => "`0` value for trace_id is invalid".toList
  | zeroSpanId => "`0` value for span_id is invalid".toList

def Cause.message (c : Cause) : Text :=
  "Failed to extract traceparent: ".toList ++ Fault.message ⟨.extract, c.reason, .traceContext⟩

structure Parts where
  version : Text
  traceId : Text
  spanId : Text
  flags : Text
  tail : Text
  deriving Repr, DecidableEq

def takeHex? (n : Nat) (t : Text) : Option (Text × Text) :=
  if (t.take n).length = n ∧ (t.take n).all Text.isHexDigit then some (t.take n, t.drop n)
  else none

def takeHyphen? : Text → Option Text
  | '-' :: r => some r
  | _ => none

def isTail : Text → Bool
  | [] => true
  | c :: r => c = '-' && r.all (· ≠ '\n')

def parts? (t : Text) : Option Parts := do
  let (version, t) ← takeHex? 2 t
  let t ← takeHyphen? t
  let (traceId, t) ← takeHex? 32 t
  let t ← takeHyphen? t
  let (spanId, t) ← takeHex? 16 t
  let t ← takeHyphen? t
  let (flags, tail) ← takeHex? 2 t
  if isTail tail then some ⟨version, traceId, spanId, flags, tail⟩ else none

def ofParts (p : Parts) : Except Cause TraceParent :=
  let traceId := (Text.hex? p.traceId).getD 0
  let spanId := (Text.hex? p.spanId).getD 0
  if traceId = 0 then .error .zeroTraceId
  else if spanId = 0 then .error .zeroSpanId
  else .ok ⟨traceId, .ofNat spanId, (Text.hex? p.flags).getD 0 % 2 = 1⟩

def ofText (t : Text) : Logged (Except Cause TraceParent) :=
  match parts? t with
  | none => pure (.error .badShape)
  | some p =>
    if Text.sameName p.version "ff".toList then pure (.error .invalidVersion)
    else if p.version = "00".toList then
      pure (if p.tail = [] then ofParts p else .error .unexpectedTail)
    else do
      Logged.warn ("Unsupported traceparent version ".toList ++ p.version ++
        ", still attempting to parse".toList)
      pure (ofParts p)

def encode (traceId : TraceId) (spanId : UInt64) (isSampled : Bool) : Text :=
  "00-".toList ++ Text.hexPadded 32 traceId.toNat ++ '-' :: Text.hexWord spanId ++
    if isSampled then "-01".toList else "-00".toList

end TraceParent

end TraceHeaders
