import TraceHeaders.Text.LowerCase

namespace TraceHeaders

inductive Style where
  | datadog
  | b3multi
  | b3single
  | traceContext
  | haystack
  | xray
  | none
  deriving Repr, DecidableEq

namespace Style

instance : Inhabited Style := ⟨datadog⟩

def name : Style → Text
  | datadog => "datadog".toList
  | b3multi => "b3multi".toList
  | b3single => "b3single".toList
  | traceContext => "tracecontext".toList
  | haystack => "haystack".toList
  | xray => "xray".toList
  | none => "none".toList

def names : List (Text × Style) :=
  [datadog, b3multi, b3single, traceContext, haystack, xray, none].map (fun s => (s.name, s)) ++
    [("b3".toList, b3single), ("b3 single header".toList, b3single)]

structure Unknown where
  text : Text
  deriving Repr, DecidableEq

def Unknown.message (u : Unknown) : Text := "Unknown trace propagation style: ".toList ++ u.text

def ofText (t : Text) : Except Unknown Style :=
  match names.lookup (Text.lower (Text.trim t)) with
  | some s => .ok s
  | Option.none => .error ⟨t⟩

def listOfText (t : Text) : Except Unknown (List Style) := (Text.commaElements t).mapM ofText

end Style

end TraceHeaders
