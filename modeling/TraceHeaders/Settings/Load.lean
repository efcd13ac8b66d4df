import TraceHeaders.Settings.Decode
import TraceHeaders.Settings.Variables
import TraceHeaders.Settings.Yaml

/-! Each source overrides the ones before it field by field; a field that a source gives as a record
is merged with a record that is already there. -/

namespace TraceHeaders.Settings

inductive Source where
  | file
  | longVariables
  | shortVariables
  deriving Repr, DecidableEq

def longStart : Text := "DATADOG_".toList

def shortStart : Text := "DD_".toList

def fileName : Text := " in datadog.yaml YAML file".toList

def dotted (path : List Text) : Text := ['.'].intercalate path

def Source.place (path : List Text) : Source → Text
  | .file => Text.quoted ("default.".toList ++ dotted path) ++ fileName
  | .longVariables => inVariables longStart
  | .shortVariables => inVariables shortStart
where
  inVariables (start : Text) : Text :=
    Text.quoted ((dotted path).map Char.toUpper) ++ " in ".toList ++ backquoted start ++
      " environment variable(s)".toList

inductive LoadFault where
  | file (f : Yaml.Fault)
  | value (source : Source) (l : Located)

namespace LoadFault

def detail : LoadFault → Text
  | file f => f.message ++ fileName
  | value source l => l.fault.message .layered ++ " for key ".toList ++ source.place l.path

def message (f : LoadFault) : Text := "Failed to parse config: ".toList ++ f.detail

end LoadFault

abbrev Layers := List (Source × Value)

def Layers.merged (ls : Layers) : Value := ls.foldl (fun v l => v.merge l.2) (.record [])

def Layers.sourceOf (ls : Layers) (path : List Text) : Source :=
  ((ls.reverse.find? fun l => (l.2.get? path).isSome).map (·.1)).getD .file

def layers (fromFile : Value) (env : List Variable) : Layers :=
  [(.file, fromFile), (.longVariables, Variable.record longStart env),
    (.shortVariables, Variable.record shortStart env)]

def ofLayers (ls : Layers) : Logged (Except LoadFault Settings) := do
  let s ← setAll {} ls.merged.entries
  pure (s.mapError fun l => .value (ls.sourceOf l.path) l)

def ofSources (file : Option Text) (env : List Variable) : Logged (Except LoadFault Settings) :=
  match (file.map Yaml.read).getD (.ok (.record [])) with
  | .ok v => ofLayers (layers v env)
  | .error f => pure (.error (.file f))

def load (file : Option Text) (env : List Variable) :
    Logged (Except LoadFault Settings) := do
  match ← ofSources file env with
  | .ok s =>
    let s ← s.completed
    pure (.ok s)
  | .error f =>
    Logged.error ("Failed to parse Datadog config: ".toList ++ f.detail)
    pure (.error f)

end TraceHeaders.Settings
