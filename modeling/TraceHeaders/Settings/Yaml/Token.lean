import TraceHeaders.Settings.Yaml.Scalar
import TraceHeaders.Settings.Yaml.Tag

/-! That a scalar was the key of a mapping is known only at the colon after it, so tokens may go in
before it then. -/

namespace TraceHeaders.Settings.Yaml

inductive Collection where
  | sequence
  | mapping
  deriving Repr, DecidableEq

inductive Token.Kind where
  | directive (d : Directive)
  | documentStart
  | documentEnd
  | streamEnd
  | blockStart (c : Collection)
  | blockEnd
  | flowStart (c : Collection)
  | flowEnd (c : Collection)
  | entry
  | flowEntry
  | key
  | value
  | aliasOf (name : Text)
  | anchor (name : Text)
  | tag (t : Tag)
  | scalar (text : Text) (isPlain : Bool)
  | malformed (m : Malformed)
  deriving Repr, DecidableEq

structure Token where
  kind : Token.Kind
  mark : Mark
  deriving Repr, DecidableEq

structure PendingKey where
  number : Nat
  mark : Mark
  isRequired : Bool
  deriving Repr, DecidableEq

/-- A key is on one line with its colon, at most 1024 characters before it. -/
def PendingKey.isStale (k : PendingKey) (m : Mark) : Bool :=
  k.mark.line < m.line || k.mark.index + 1024 < m.index

structure Lexing where
  cursor : Cursor
  tokens : Array Token := #[]
  columns : List Nat := []
  keyAllowed : Bool := true
  pending : Option PendingKey := none
  outerPending : List (Option PendingKey) := []
  deriving Repr

namespace Lexing

def mark (s : Lexing) : Mark := s.cursor.mark

def inFlow (s : Lexing) : Bool := !s.outerPending.isEmpty

def least (s : Lexing) : Nat :=
  match s.columns with
  | [] => 0
  | n :: _ => n + 1

def add (s : Lexing) (k : Token.Kind) (m : Mark) : Lexing :=
  { s with tokens := s.tokens.push ⟨k, m⟩ }

def take (s : Lexing) (k : Token.Kind) (n : Nat) : Lexing :=
  { s.add k s.mark with cursor := s.cursor.skip n }

def noColon (s : Lexing) (k : PendingKey) : Malformed :=
  ⟨.noColon, s.mark, some (.simpleKey, k.mark)⟩

def dropStale (s : Lexing) : Except Malformed Lexing :=
  let isStale := fun k : PendingKey => k.isStale s.mark
  match (s.pending :: s.outerPending).findSome? (·.filter fun k => k.isRequired && isStale k) with
  | some k => .error (s.noColon k)
  | none =>
    let fresh := Option.filter fun k => !isStale k
    .ok { s with pending := fresh s.pending, outerPending := s.outerPending.map fresh }

def dropKey (s : Lexing) : Except Malformed Lexing :=
  match s.pending with
  | some k => if k.isRequired then .error (s.noColon k) else .ok { s with pending := none }
  | none => .ok s

def expectKey (s : Lexing) : Except Malformed Lexing :=
  if s.keyAllowed then
    let isRequired := !s.inFlow && s.columns.head? = some s.mark.column
    s.dropKey.map fun s => { s with pending := some ⟨s.tokens.size, s.mark, isRequired⟩ }
  else .ok s

def openBlock (s : Lexing) (c : Collection) (m : Mark) (number : Nat) : Lexing :=
  if s.inFlow || m.column < s.least then s
  else
    { s with
      columns := m.column :: s.columns
      tokens := s.tokens.insertIdxIfInBounds number ⟨.blockStart c, m⟩ }

def closeBlocks (s : Lexing) (p : Nat → Bool) : Lexing :=
  if s.inFlow then s
  else
    { s with
      columns := s.columns.dropWhile p
      tokens := s.tokens ++ (s.columns.takeWhile p).map fun _ => Token.mk .blockEnd s.mark }

def skipSpace : Nat → Lexing → Lexing
  | 0, s => s
  | fuel + 1, s =>
    let c := if s.mark.index = 0 && s.cursor.head? = some '\ufeff' then s.cursor.skip 1 else s.cursor
    let c := c.skipWhile fun d => d = ' ' || (d = '\t' && (s.inFlow || !s.keyAllowed))
    let c := if c.head? = some '#' then c.skipLineRest else c
    if c.head?.any isBreak then
      skipSpace fuel { s with cursor := c.skipBreak, keyAllowed := s.keyAllowed || !s.inFlow }
    else { s with cursor := c }

def takeDirective (s : Lexing) : Except Malformed Lexing := do
  let s ← (s.closeBlocks fun _ => true).dropKey
  let (d, c) ← directive s.cursor
  pure { s.add (.directive d) s.mark with cursor := c, keyAllowed := false }

def takeDocumentMark (s : Lexing) (k : Token.Kind) : Except Malformed Lexing := do
  let s ← (s.closeBlocks fun _ => true).dropKey
  pure { s.take k 3 with keyAllowed := false }

def takeEnd (s : Lexing) : Except Malformed Lexing := do
  let m := if s.mark.column = 0 then s.mark else s.mark.newLine 0
  let s ← { s with cursor := ⟨[], m⟩ }.closeBlocks (fun _ => true) |>.dropKey
  pure (s.add .streamEnd m)

def takeFlowStart (s : Lexing) (c : Collection) : Except Malformed Lexing := do
  let s ← s.expectKey
  pure { s.take (.flowStart c) 1 with
    keyAllowed := true
    pending := none
    outerPending := s.pending :: s.outerPending }

def takeFlowEnd (s : Lexing) (c : Collection) : Except Malformed Lexing := do
  let s ← s.dropKey
  let s := { s.take (.flowEnd c) 1 with keyAllowed := false }
  pure <| match s.outerPending with
    | [] => s
    | k :: r => { s with pending := k, outerPending := r }

def takeFlowEntry (s : Lexing) : Except Malformed Lexing := do
  let s ← s.dropKey
  pure { s.take .flowEntry 1 with keyAllowed := true }

def takeEntry (s : Lexing) : Except Malformed Lexing := do
  if !s.inFlow && !s.keyAllowed then throw ⟨.misplacedEntry, s.mark, none⟩
  let s ← (s.openBlock .sequence s.mark s.tokens.size).dropKey
  pure { s.take .entry 1 with keyAllowed := true }

def takeKey (s : Lexing) : Except Malformed Lexing := do
  if !s.inFlow && !s.keyAllowed then throw ⟨.misplacedKey, s.mark, none⟩
  let s ← (s.openBlock .mapping s.mark s.tokens.size).dropKey
  pure { s.take .key 1 with keyAllowed := !s.inFlow }

def takeValue (s : Lexing) : Except Malformed Lexing :=
  match s.pending with
  | some k =>
    let s := { s with tokens := s.tokens.insertIdxIfInBounds k.number ⟨.key, k.mark⟩ }
    .ok { (s.openBlock .mapping k.mark k.number).take .value 1 with
      keyAllowed := false
      pending := none }
  | none =>
    if !s.inFlow && !s.keyAllowed then .error ⟨.misplacedValue, s.mark, none⟩
    else .ok { (s.openBlock .mapping s.mark s.tokens.size).take .value 1 with
      keyAllowed := !s.inFlow }

def takeAlias (s : Lexing) : Except Malformed Lexing := do
  let s ← s.expectKey
  let (name, c) ← anchorName .aliasName s.mark (s.cursor.skip 1)
  pure { s.add (.aliasOf name) s.mark with cursor := c, keyAllowed := false }

def takeAnchor (s : Lexing) : Except Malformed Lexing := do
  let s ← s.expectKey
  let (name, c) ← anchorName .anchorName s.mark (s.cursor.skip 1)
  pure { s.add (.anchor name) s.mark with cursor := c, keyAllowed := false }

def takeTag (s : Lexing) : Except Malformed Lexing := do
  let s ← s.expectKey
  let (t, c) ← tag s.inFlow s.cursor
  pure { s.add (.tag t) s.mark with cursor := c, keyAllowed := false }

def takeBlock (s : Lexing) (isLiteral : Bool) : Except Malformed Lexing := do
  let s ← s.dropKey
  let w ← block isLiteral s.least s.mark (s.cursor.skip 1)
  pure { s.add (.scalar w.text false) s.mark with cursor := w.next, keyAllowed := true }

def takeQuoted (s : Lexing) (isSingle : Bool) : Except Malformed Lexing := do
  let s ← s.expectKey
  let w ← quoted isSingle s.mark {} (s.mark.skip 1) (s.cursor.rest.drop 1)
  pure { s.add (.scalar w.text false) s.mark with cursor := w.next, keyAllowed := false }

def takePlain (s : Lexing) : Except Malformed Lexing := do
  let s ← s.expectKey
  let w ← plain ⟨s.inFlow, s.least⟩ s.mark {} s.mark s.cursor.rest
  pure { s.add (.scalar w.text true) s.mark with cursor := w.next, keyAllowed := w.isBroken }

def takeNext (s : Lexing) : Except Malformed Lexing :=
  match s.cursor.rest with
  | [] => s.takeEnd
  | c :: r =>
    let isLoose := s.inFlow || atGap r
    if s.mark.column = 0 && c = '%' then s.takeDirective
    else if s.mark.column = 0 && atDocumentMark (c :: r) then
      s.takeDocumentMark (if c = '-' then .documentStart else .documentEnd)
    else if c = '[' then s.takeFlowStart .sequence
    else if c = '\x7b' then s.takeFlowStart .mapping
    else if c = ']' then s.takeFlowEnd .sequence
    else if c = '\x7d' then s.takeFlowEnd .mapping
    else if c = ',' then s.takeFlowEntry
    else if c = '-' && atGap r then s.takeEntry
    else if c = '?' && isLoose then s.takeKey
    else if c = ':' && isLoose then s.takeValue
    else if c = '*' then s.takeAlias
    else if c = '&' then s.takeAnchor
    else if c = '!' then s.takeTag
    else if c = '|' && !s.inFlow then s.takeBlock true
    else if c = '>' && !s.inFlow then s.takeBlock false
    else if c = '\x27' then s.takeQuoted true
    else if c = '"' then s.takeQuoted false
    else if c = '\t' || "|>%@\x60".toList.contains c then
      .error ⟨.badStart, s.mark, some (.nextToken, s.mark)⟩
    else s.takePlain

def advance (fuel : Nat) (s : Lexing) : Except Malformed Lexing := do
  let s ← (s.skipSpace fuel).dropStale
  let s ← (s.closeBlocks fun n => s.mark.column < n).takeNext
  s.dropStale

def cutOff (s : Lexing) (m : Malformed) : List Token :=
  let numbers := (s.pending :: s.outerPending).filterMap (·.map (·.number))
  s.tokens.toList.take (numbers.foldl min s.tokens.size) ++ [⟨.malformed m, m.mark⟩]

def run : Nat → Lexing → List Token
  | 0, s => s.tokens.toList
  | fuel + 1, s =>
    match s.advance (fuel + 1) with
    | .error m => s.cutOff m
    | .ok t =>
      if t.tokens.back?.any (·.kind = .streamEnd) then t.tokens.toList else t.run fuel

end Lexing

def tokens (t : Text) : List Token := Lexing.run (t.length + 1) { cursor := ⟨t, {}⟩ }

end TraceHeaders.Settings.Yaml
