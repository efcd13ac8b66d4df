import TraceHeaders.Format.Codec
import TraceHeaders.Text.Percent

namespace TraceHeaders.Baggage

def decode (t : Text) : Logged Text :=
  match Text.Percent.decode t with
  | .ok u => pure u
  | .error f => do
    Logged.debug ("Failed to decode value ".toList ++ t ++ ": ".toList ++ f.message)
    pure t

def found (key? : Text → Option Text) (v : HeaderView) : List (Text × Text) :=
  v.names.filterMap fun name =>
    (key? (Text.lower name)).bind fun key => (v.get? name).map (key, ·)

def decodeEntry (e : Text × Text) : Logged (Text × Text) := do
  let value ← decode e.2
  pure (e.1, value)

def extract (key? : Text → Option Text) (v : HeaderView) : Logged (Dict Text) := do
  let entries ← (found key? v).mapM decodeEntry
  pure (.ofList entries)

def inject (name : Text → Text) (baggage : Dict Text) : List Header :=
  baggage.entries.map fun e => (name e.1, Text.Percent.encode e.2)

end TraceHeaders.Baggage
