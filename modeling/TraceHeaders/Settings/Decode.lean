import TraceHeaders.Binary64.Parse
import TraceHeaders.Settings.Basic
import TraceHeaders.Settings.BaggageMapping
import TraceHeaders.Settings.Dialect

namespace TraceHeaders.Settings

inductive Expected where
  | text
  | size
  | settings
  | anything
  deriving Repr, DecidableEq

inductive ValueFault where
  | wrongKind (found : Value) (expected : Expected)
  | outOfRange (found : Value)
  | unknownStyle (style : Style.Unknown)
  | neitherOneNorZero
  | neitherOneNorZeroFloat
  | noFlagText (text : Text)
  | noFlag
  | wideNumber

def Expected.shown : Expected → Text
  | text => "a string".toList
  | size => "usize".toList
  | settings => "struct Config".toList
  | anything => "any value".toList

def ValueFault.message (d : Dialect) : ValueFault → Text
  | wrongKind v e =>
    (match d with
      | .layered => "invalid type: found ".toList
      | _ => "invalid type: ".toList) ++
      d.describe v ++ ", expected ".toList ++ e.shown
  | outOfRange v =>
    (match d with
      | .layered => "invalid value ".toList
      | _ => "invalid value: ".toList) ++
      d.describe v ++ ", expected ".toList ++ Expected.size.shown
  | unknownStyle u => "Failed to deserialize propagation style: ".toList ++ u.message
  | neitherOneNorZero => "The number is neither 1 nor 0".toList
  | neitherOneNorZeroFloat => "The number is neither 1.0 nor 0.0".toList
  | noFlagText t => "Could not parse boolean from a string: ".toList ++ t
  | noFlag => "data did not match any variant of untagged enum AnythingOrBool".toList
  | wideNumber => "JSON number out of range".toList

def textOf : Value → Except ValueFault Text
  | .text t => .ok t
  | .letter c => .ok [c]
  | v => .error (.wrongKind v .text)

def sizeOf : Value → Except ValueFault Nat
  | .int negative n =>
    if (Value.int negative n).isWide then .error (.wrongKind (.int negative n) .size)
    else if negative && n ≠ 0 then .error (.outOfRange (.int negative n))
    else .ok n
  | v => .error (.wrongKind v .size)

def flagOfFloat (x : Binary64) : Except ValueFault Bool :=
  if x.isAlmostOne then .ok true
  else if x.isZero then .ok false
  else .error .neitherOneNorZeroFloat

/-- Numbers of more than 63 bits count as floats. -/
def flagOfInt (z : Int) : Except ValueFault Bool :=
  if Int64.maxValue.toInt < z then .error .neitherOneNorZeroFloat
  else if z = 1 then .ok true
  else if z = 0 then .ok false
  else .error .neitherOneNorZero

def flagOfText (t : Text) : Except ValueFault Bool :=
  if Text.lower t = "true".toList then .ok true
  else if Text.lower t = "false".toList then .ok false
  else match Text.int64? t, Binary64.ofText? t with
    | some z, _ => flagOfInt z
    | none, some x => flagOfFloat x
    | none, none => .error (.noFlagText t)

def flagOf : Value → Except ValueFault Bool
  | .bool b => .ok b
  | .int negative n => flagOfInt (Value.signedInt negative n)
  | .float x => flagOfFloat x
  | .text t => flagOfText t
  | _ => .error .noFlag

def stylesOf (v : Value) : Except ValueFault (List Style) := do
  let t ← textOf v
  (Style.listOfText t).mapError .unknownStyle

def levelOf : Value → Logged Level
  | .text t => levelOfText t
  | .letter c => levelOfText [c]
  | v => do
    Logged.error ("Expected a string for log level, got ".toList ++ v.shown)
    pure .warn
where
  levelOfText (t : Text) : Logged Level :=
    match Level.ofText t with
    | .ok l => pure l
    | .error u => do
      Logged.error u.message
      pure .warn

def mappingOf (v : Value) : Logged (Except ValueFault (Dict Text)) :=
  match textOf v with
  | .ok t => do
    let m ← BaggageMapping.ofText t
    pure (.ok m)
  | .error f => pure (.error f)

inductive FieldName where
  | logLevel
  | styles
  | extractStyles
  | injectStyles
  | extractFirst
  | baggageEnabled
  | b3Padding
  | tagsLimit
  | baggageMapping
  deriving Repr, DecidableEq

def FieldName.name : FieldName → Text
  | logLevel => "log_level".toList
  | styles => "trace_propagation_style".toList
  | extractStyles => "trace_propagation_style_extract".toList
  | injectStyles => "trace_propagation_style_inject".toList
  | extractFirst => "trace_propagation_extract_first".toList
  | baggageEnabled => "trace_propagation_http_baggage_enabled".toList
  | b3Padding => "trace_propagation_style_b3_padding_enabled".toList
  | tagsLimit => "trace_x_datadog_tags_max_length".toList
  | baggageMapping => "trace_baggage_mapping".toList

def FieldName.all : List FieldName :=
  [logLevel, styles, extractStyles, injectStyles, extractFirst, baggageEnabled, b3Padding,
    tagsLimit, baggageMapping]

def FieldName.ofText? (t : Text) : Option FieldName := all.find? fun f => f.name = t

structure Located where
  path : List Text
  fault : ValueFault

def Located.here (f : ValueFault) : Located := ⟨[], f⟩

def flagAt (v : Value) : Except Located Bool :=
  match v.wide? with
  | some (path, w) => .error ⟨path, .wrongKind w .anything⟩
  | none => (flagOf v).mapError .here

def levelAt (v : Value) : Logged (Except Located Level) :=
  match v.wide? with
  | some (path, _) => pure (.error ⟨path, .wideNumber⟩)
  | none => do
    let l ← levelOf v
    pure (.ok l)

def set (s : Settings) (v : Value) : FieldName → Logged (Except Located Settings)
  | .logLevel => do
    let l ← levelAt v
    pure (l.map fun logLevel => { s with logLevel })
  | .styles => pure (styles.map fun styles => { s with styles })
  | .extractStyles => pure (styles.map fun extractStyles => { s with extractStyles })
  | .injectStyles => pure (styles.map fun injectStyles => { s with injectStyles })
  | .extractFirst => pure ((flagAt v).map fun extractFirst => { s with extractFirst })
  | .baggageEnabled => pure ((flagAt v).map fun baggageEnabled => { s with baggageEnabled })
  | .b3Padding => pure ((flagAt v).map fun b3Padding => { s with b3Padding })
  | .tagsLimit =>
    pure (((sizeOf v).mapError .here).map fun tagsLimit => { s with tagsLimit })
  | .baggageMapping => do
    let m ← mappingOf v
    pure ((m.mapError .here).map fun baggageMapping => { s with baggageMapping })
where
  styles : Except Located (List Style) := (stylesOf v).mapError .here

def setNamed (s : Settings) (name : Text) (v : Value) : Logged (Except Located Settings) :=
  match FieldName.ofText? name with
  | some f => do
    let t ← s.set v f
    pure (t.mapError fun e => { e with path := name :: e.path })
  | none => pure (.ok s)

def setAll (s : Settings) : List (Text × Value) → Logged (Except Located Settings)
  | [] => pure (.ok s)
  | (name, v) :: r => do
    match ← s.setNamed name v with
    | .ok s => s.setAll r
    | .error e => pure (.error e)

def ofDocument (v : Value) : Logged (Except ValueFault Settings) :=
  match v with
  | .record es => do
    let s ← setAll {} es
    pure (s.mapError (·.fault))
  | .list vs => do
    let s ← setAll {} ((FieldName.all.map (·.name)).zip vs)
    pure (s.mapError (·.fault))
  | v => pure (.error (.wrongKind v .settings))

end TraceHeaders.Settings
