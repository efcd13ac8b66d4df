import TraceHeaders.Format.Codec
import TraceHeaders.Format.Fields

/-! The member `dd` holds the priority `s`, the origin `o`, the last parent `p` and the propagated
tags `t.*`. The other members are passed on. -/

namespace TraceHeaders.TraceState

def ownStart : Text := "dd=".toList

def ownLimit : Nat := 256

def foreignLimit : Nat := 31

structure Own where
  priority : Option Int8 := none
  origin : Option Text := none
  lastParent : Option Text := none
  tags : Dict Text := ∅
  deriving DecidableEq

def isPrintableAscii (c : Char) : Bool := 0x20 ≤ c.toNat && c.toNat ≤ 0x7E

def isParent (t : Text) : Bool := t.length = 16 && t.all Text.isLowerHexDigit

def decodeValue (t : Text) : Text := Text.replace '~' '=' t

def Own.read (o : Own) (key value : Text) : Logged Own :=
  if key = ['s'] then pure { o with priority := Text.int8? value }
  else if key = ['o'] then pure { o with origin := some (decodeValue value) }
  else if key = ['p'] then
    if isParent value then pure { o with lastParent := some value }
    else do
      Logged.warn ("Invalid last parent id in tracestate: ".toList ++ value)
      pure o
  else
    match "t.".toList.isPrefixOf? key with
    | some suffix =>
      pure { o with tags := o.tags.insert (TagSet.keyStart ++ suffix) (decodeValue value) }
    | none => pure o

def Own.readAll (o : Own) : List (Text × Text) → Logged Own
  | [] => pure o
  | i :: r => do
    let o ← o.read i.1 i.2
    o.readAll r

def items (t : Text) : List (Text × Text) :=
  (t.splitOn ';').filterMap fun i => Text.cut? ':' (Text.trim i)

def members (values : List Text) : List Text := values.flatMap Text.commaElements

def own? (ms : List Text) : Option Text := ms.findSome? ownStart.isPrefixOf?

def read (values : List Text) : Logged (Option (Text × Own)) :=
  let ms := members values
  let text := [','].intercalate ms
  if !text.all isPrintableAscii then do
    Logged.debug ("Received invalid tracestate header ".toList ++ text)
    pure none
  else match own? ms with
    | none => do
      Logged.debug "No `dd` value found in tracestate".toList
      pure (some (text, {}))
    | some t => do
      let own ← Own.readAll {} (items t)
      pure (some (text, own))

def isKeyChar (c : Char) : Bool := isPrintableAscii c && c ≠ ' ' && c ≠ ',' && c ≠ '='

def isValueChar (c : Char) : Bool := isPrintableAscii c && c ≠ ',' && c ≠ ';' && c ≠ '~'

def sanitize (allowed : Char → Bool) (t : Text) : Text :=
  t.map fun c => if allowed c then c else '_'

def encodeValue (t : Text) : Text := Text.replace '=' '~' (sanitize isValueChar t)

def tagItem? (key value : Text) : Option Text :=
  (TagSet.keyStart.isPrefixOf? key).map fun suffix =>
    "t.".toList ++ sanitize isKeyChar suffix ++ ':' :: encodeValue value

def fixedItems (c : Context) : List Text :=
  (c.sampling.priority.map fun p => "s:".toList ++ Text.ofInt p.toInt).toList ++
    (c.origin.map fun o => "o:".toList ++ encodeValue o).toList ++
    ["p:".toList ++ Text.hexWord c.spanId]

def ownBase (c : Context) : Text := ownStart ++ [';'].intercalate (fixedItems c)

def tagItems (c : Context) : List (Text × Text) :=
  c.tagSet.tags.entries.filterMap fun e => (tagItem? e.1 e.2).map (e.1, ·)

def ownMember (c : Context) : Logged Text := do
  let tags := tagItems c
  let texts := tags.map (·.2)
  match (Fields.dropped? ownLimit (ownBase c) texts).bind (tags[·]?) with
  | none => pure ()
  | some e =>
    Logged.debug ("Dropping `".toList ++ e.1 ++ "` from tracestate, `dd` member is full".toList)
  pure (Fields.append ownLimit (ownBase c) texts)

def foreign (t : Text) : List Text :=
  ((Text.commaElements t).filter fun m => !ownStart.isPrefixOf m).take foreignLimit

def encode (c : Context) : Logged Text := do
  let own ← ownMember c
  pure ([','].intercalate (own :: (c.tagSet.traceState.map foreign).getD []))

end TraceHeaders.TraceState
