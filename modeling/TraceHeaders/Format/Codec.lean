import TraceHeaders.Context
import TraceHeaders.Headers

/-! A codec reads one style and writes it; what it cannot use is noted and yields no finding. -/

namespace TraceHeaders

inductive Operation where
  | extract
  | inject
  deriving Repr, DecidableEq

def Operation.name : Operation → Text
  | extract => "extract".toList
  | inject => "inject".toList

structure Fault where
  operation : Operation
  reason : Text
  style : Style
  deriving Repr, DecidableEq

def Fault.message (f : Fault) : Text :=
  "Cannot ".toList ++ f.operation.name ++ " from ".toList ++ f.reason ++ ", ".toList ++ f.style.name

structure Codec where
  extract : HeaderView → Logged (Option Finding)
  inject : Context → Logged (List Header)

def Codec.silent : Codec := ⟨fun _ => pure none, fun _ => pure []⟩

end TraceHeaders
