import TraceHeaders.Format.B3
import TraceHeaders.Format.Datadog
import TraceHeaders.Format.Haystack
import TraceHeaders.Format.TraceContext
import TraceHeaders.Format.Xray
import TraceHeaders.Reconcile
import TraceHeaders.Settings.Basic

namespace TraceHeaders

def Settings.codec (s : Settings) : Style → Codec
  | .datadog => Datadog.codec s.baggageEnabled s.tagsLimit
  | .b3multi => B3.multi s.b3Padding
  | .b3single => B3.single s.b3Padding
  | .traceContext => TraceContext.codec
  | .haystack => Haystack.codec s.baggageMapping
  | .xray => Xray.codec
  | .none => .silent

def Settings.registrations (s : Settings) (styles : List Style) : List Registration :=
  styles.map fun style => (style, s.codec style)

structure Extractor where
  registrations : List Registration
  first : Bool

namespace Extractor

def ofSettings (s : Settings) : Logged Extractor := do
  let styles ← s.resolvedExtract
  pure ⟨s.registrations styles, s.extractFirst⟩

def styles (e : Extractor) : List Style := e.registrations.map (·.1)

def extract (e : Extractor) (s : Snapshot) : Logged (Option Finding) :=
  Reconcile.run e.first s.view {} e.registrations

def extractStream (e : Extractor) (s : Stream Text) : Logged (Option Finding) × Stream Text :=
  (e.extract ⟨s.walk.1⟩, s.walk.2)

def extractByteStream (e : Extractor) (s : Stream (List UInt8)) :
    Logged (Option Finding) × Stream (List UInt8) :=
  (e.extract (.ofBytes s.walk.1), s.walk.2)

end Extractor

structure Injector where
  registrations : List Registration

namespace Injector

def ofSettings (s : Settings) : Logged Injector := do
  let styles ← s.resolvedInject
  pure ⟨s.registrations styles⟩

def styles (i : Injector) : List Style := i.registrations.map (·.1)

def inject (i : Injector) (c : Context) : Logged (List Header) := do
  let headers ← i.registrations.mapM fun r => r.2.inject c
  pure headers.flatten

end Injector

structure Propagator where
  settings : Settings
  extractor : Extractor
  injector : Injector

def Propagator.ofSettings (settings : Settings) : Logged Propagator := do
  let extractor ← Extractor.ofSettings settings
  let injector ← Injector.ofSettings settings
  pure { settings, extractor, injector }

end TraceHeaders
