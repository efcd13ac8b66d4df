import TraceHeaders.Dict
import TraceHeaders.Log
import TraceHeaders.Style

namespace TraceHeaders

structure Settings where
  logLevel : Level := .warn
  styles : List Style := [.datadog, .traceContext]
  extractStyles : List Style := []
  injectStyles : List Style := []
  extractFirst : Bool := false
  baggageEnabled : Bool := true
  b3Padding : Bool := true
  tagsLimit : Nat := 512
  baggageMapping : Dict Text := ∅
  deriving DecidableEq, Inhabited

namespace Settings

def resolve (specific common : List Style) : Logged (List Style) := do
  let styles := (if specific.isEmpty then common else specific).eraseDups
  if 1 < styles.length ∧ Style.none ∈ styles then
    Logged.warn "Propagation style `none` is ignored when combined with other styles".toList
    pure (styles.filter (· ≠ .none))
  else pure styles

def resolvedExtract (s : Settings) : Logged (List Style) := resolve s.extractStyles s.styles

def resolvedInject (s : Settings) : Logged (List Style) := resolve s.injectStyles s.styles

def completed (s : Settings) : Logged Settings := do
  let extractStyles ← if s.extractStyles.isEmpty then s.resolvedExtract else pure s.extractStyles
  let injectStyles ← if s.injectStyles.isEmpty then s.resolvedInject else pure s.injectStyles
  pure { s with extractStyles, injectStyles }

end Settings

end TraceHeaders
