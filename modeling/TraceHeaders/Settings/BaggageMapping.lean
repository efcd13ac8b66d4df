import TraceHeaders.Dict
import TraceHeaders.Log
import TraceHeaders.Text.LowerCase

namespace TraceHeaders.BaggageMapping

def pair? (t : Text) : Option (Text × Text) :=
  (Text.cut? ':' t).bind fun p =>
    match Text.trimmed? p.1, Text.trimmed? p.2 with
    | some header, some key => some (Text.lower header, key)
    | _, _ => none

def refusal (element : Text) : Text :=
  "Failed to parse baggage mapping '".toList ++ element ++
    "', expected format 'header:baggage_key', ignoring".toList

def pairs : List Text → Logged (List (Text × Text))
  | [] => pure []
  | t :: r =>
    match pair? t with
    | some p => do
      let ps ← pairs r
      pure (p :: ps)
    | none => do
      Logged.error (refusal t)
      pairs r

def ofText (t : Text) : Logged (Dict Text) := do
  let ps ← pairs (Text.commaElements t)
  pure (.ofList ps)

theorem value_pairs (ts : List Text) : (pairs ts).value = ts.filterMap pair? := by
  induction ts with
  | nil => rfl
  | cons t r ih =>
    rw [pairs]
    split
    · next h => simp [h, ih]
    · next h => simp [h, ih]

theorem value_ofText (t : Text) :
    (ofText t).value = .ofList ((Text.commaElements t).filterMap pair?) := by
  simp [ofText, value_pairs]

end TraceHeaders.BaggageMapping
