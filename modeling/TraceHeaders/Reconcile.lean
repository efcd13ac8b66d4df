import TraceHeaders.Format.Codec

/-! The first complete context is kept. Later contexts of the same trace can only add what the W3C
headers know; contexts of other traces become links. -/

namespace TraceHeaders

abbrev Registration := Style × Codec

namespace Reconcile

structure Sighting where
  traceId : TraceId
  spanId : UInt64
  lastParent : Option Text
  deriving Repr, DecidableEq

def Sighting.ofContext (c : Context) : Sighting := ⟨c.traceId, c.spanId, c.tagSet.lastParent⟩

structure Progress where
  chosen : Option Context := none
  fallback : Option PartialContext := none
  datadog : Option Sighting := none
  traceContext : Option Sighting := none
  deriving DecidableEq

def linkMessage (style : Style) (other chosen : TraceId) : Text :=
  "Trace id ".toList ++ other.shown ++ " from ".toList ++ style.name ++
    " does not match ".toList ++ chosen.shown ++ ", adding span link".toList

def absorb (style : Style) (chosen c : Context) : Logged Context :=
  if chosen.traceId.matched c.traceId then
    pure (if style = .traceContext then { chosen with tagSet := chosen.tagSet.absorb c.tagSet }
      else chosen)
  else do
    Logged.debug (linkMessage style c.traceId chosen.traceId)
    pure { chosen with links := chosen.links ++ [.terminated c] }

def Progress.record (p : Progress) (style : Style) (c : Context) : Progress :=
  match style with
  | .datadog => { p with datadog := some (.ofContext c) }
  | .traceContext => { p with traceContext := some (.ofContext c) }
  | _ => p

def Progress.step (p : Progress) (style : Style) : Option Finding → Logged Progress
  | none => pure p
  | some (.incomplete f) =>
    pure (if p.chosen.isNone && p.fallback.isNone then { p with fallback := some f } else p)
  | some (.complete c) =>
    match p.chosen with
    | none => pure { p.record style c with chosen := some c }
    | some chosen => do
      let chosen ← absorb style chosen c
      pure { p.record style c with chosen := some chosen }

/-- The last parent that stands for "no parent of another vendor". -/
def noParent : Text := "0000000000000000".toList

/-- The parent that the W3C headers saw last, when they and the `x-datadog-*` headers describe
one trace through different parents. -/
def lastParent? (datadog traceContext : Option Sighting) : Option Text :=
  match datadog, traceContext with
  | some d, some w =>
    if d.traceId.matched w.traceId && d.spanId ≠ w.spanId then
      some ((w.lastParent.filter (· ≠ noParent)).getD (Text.hexWord d.spanId))
    else none
  | _, _ => none

def Progress.finding (p : Progress) : Option Finding :=
  match p.chosen with
  | none => p.fallback.map .incomplete
  | some c =>
    some (.complete
      { c with
        tagSet :=
          { c.tagSet with
            lastParent := (lastParent? p.datadog p.traceContext).or c.tagSet.lastParent } })

def run (first : Bool) (v : HeaderView) (p : Progress) :
    List Registration → Logged (Option Finding)
  | [] => pure p.finding
  | (style, codec) :: r => do
    let finding ← codec.extract v
    let next ← p.step style finding
    match next.chosen, first with
    | some c, true => pure (some (.complete c))
    | _, _ => run first v next r

end Reconcile

end TraceHeaders
