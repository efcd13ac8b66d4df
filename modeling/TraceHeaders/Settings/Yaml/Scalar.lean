import TraceHeaders.Settings.Yaml.Fault

namespace TraceHeaders.Settings.Yaml

structure Folding where
  text : Text := []
  blanks : Text := []
  firstBreak : Text := []
  breaks : Text := []
  isBroken : Bool := false
  deriving Repr, DecidableEq

namespace Folding

def isPending (f : Folding) : Bool := f.isBroken || !f.blanks.isEmpty

def addBlank (f : Folding) (c : Char) : Folding :=
  if f.isBroken then f else { f with blanks := f.blanks ++ [c] }

def addBreak (f : Folding) (b : Text) : Folding :=
  if f.isBroken then { f with breaks := f.breaks ++ b }
  else { f with blanks := [], firstBreak := b, isBroken := true }

def gap (f : Folding) : Text :=
  if !f.isBroken then f.blanks
  else if f.firstBreak = ['\n'] then (if f.breaks.isEmpty then [' '] else f.breaks)
  else f.firstBreak ++ f.breaks

def settle (f : Folding) : Folding := { text := f.text ++ f.gap }

def push (f : Folding) (t : Text) : Folding := { text := f.text ++ f.gap ++ t }

def escapedBreak (f : Folding) : Folding := { f.settle with isBroken := true }

end Folding

structure Written where
  text : Text
  isBroken : Bool := false
  next : Cursor

structure Surroundings where
  inFlow : Bool
  column : Nat

def isFlowIndicator (c : Char) : Bool :=
  c = ',' || c = '[' || c = ']' || c = '\x7b' || c = '\x7d'

def endsPlain (s : Surroundings) (f : Folding) (m : Mark) (t : Text) : Bool :=
  (f.isPending && ((!s.inFlow && m.column < s.column) || (m.column = 0 && atDocumentMark t) ||
      t.head? = some '#')) ||
    (t.head? = some ':' && atGap (t.drop 1)) || (s.inFlow && t.head?.any isFlowIndicator)

def hasBadColon (s : Surroundings) (t : Text) : Bool :=
  s.inFlow && t.head? = some ':' && (t.drop 1).head?.any fun c => isFlowIndicator c || c = '?'

def plain (s : Surroundings) (start : Mark) (f : Folding) (m : Mark) :
    Text → Except Malformed Written
  | [] => .ok ⟨f.text, f.isBroken, ⟨[], m⟩⟩
  | '\r' :: '\n' :: r => plain s start (f.addBreak ['\n']) (m.newLine 2) r
  | c :: r =>
    if isBreak c then plain s start (f.addBreak (breakText c)) (m.newLine 1) r
    else if isBlankChar c then
      if f.isBroken && m.column < s.column && c = '\t' then
        .error ⟨.tabInPlain, m, some (.plainScalar, start)⟩
      else plain s start (f.addBlank c) (m.skip 1) r
    else if hasBadColon s (c :: r) then .error ⟨.unexpectedColon, m, some (.plainScalar, start)⟩
    else if endsPlain s f m (c :: r) then .ok ⟨f.text, f.isBroken, ⟨c :: r, m⟩⟩
    else plain s start (f.push [c]) (m.skip 1) r

def escapes : List (Char × Char) :=
  [('0', '\x00'), ('a', '\x07'), ('b', '\x08'), ('t', '\t'), ('\t', '\t'), ('n', '\n'),
   ('v', '\x0b'), ('f', '\x0c'), ('r', '\r'), ('e', '\x1b'), (' ', ' '), ('"', '"'), ('/', '/'),
   ('\\', '\\'), ('N', '\u0085'), ('_', '\u00a0'), ('L', '\u2028'), ('P', '\u2029')]

def escapeLength? (c : Char) : Option Nat :=
  if c = 'x' then some 2 else if c = 'u' then some 4 else if c = 'U' then some 8 else none

def escaped (start m : Mark) : Text → Except Malformed (Char × Nat)
  | [] => .error ⟨.unknownEscape, m, some (.escape, start)⟩
  | c :: r =>
    match escapes.lookup c, escapeLength? c with
    | some d, _ => .ok (d, 1)
    | none, none => .error ⟨.unknownEscape, m, some (.escape, start)⟩
    | none, some n =>
      if (r.take n).length < n then .error ⟨.badEscape, m.skip 2, some (.escape, start)⟩
      else match Text.hex? (r.take n) with
        | none => .error ⟨.badEscape, m.skip 2, some (.escape, start)⟩
        | some v =>
          if v.isValidChar then .ok (Char.ofNat v, n + 1)
          else .error ⟨.noCharacter, m.skip 2, some (.escape, start)⟩

def quoted (isSingle : Bool) (start : Mark) (f : Folding) (m : Mark) (t : Text) :
    Except Malformed Written :=
  match t with
  | [] => .error ⟨.endInside, m, some (.quotedScalar, start)⟩
  | '\r' :: '\n' :: r => quoted isSingle start (f.addBreak ['\n']) (m.newLine 2) r
  | c :: r =>
    if isBreak c then quoted isSingle start (f.addBreak (breakText c)) (m.newLine 1) r
    else if isBlankChar c then quoted isSingle start (f.addBlank c) (m.skip 1) r
    else if m.column = 0 && atDocumentMark (c :: r) then
      .error ⟨.documentMarkInside, m, some (.quotedScalar, start)⟩
    else if isSingle && c = '\x27' && r.head? = some '\x27' then
      quoted isSingle start (f.push ['\x27']) (m.skip 2) (r.drop 1)
    else if c = (if isSingle then '\x27' else '"') then
      .ok ⟨f.settle.text, false, ⟨r, m.skip 1⟩⟩
    else if !isSingle && c = '\\' then
      match r with
      | '\r' :: '\n' :: r => quoted isSingle start f.escapedBreak ((m.skip 1).newLine 2) r
      | r =>
        if r.head?.any isBreak then
          quoted isSingle start f.escapedBreak ((m.skip 1).newLine 1) (r.drop 1)
        else match escaped start m r with
          | .error e => .error e
          | .ok (d, n) => quoted isSingle start (f.push [d]) (m.skip (n + 1)) (r.drop n)
    else quoted isSingle start (f.push [c]) (m.skip 1) r
termination_by t.length
decreasing_by all_goals simp_all; try omega

inductive Chomping where
  | strip
  | clip
  | keep
  deriving Repr, DecidableEq

structure BlockHead where
  chomping : Chomping := .clip
  indent : Nat := 0
  deriving Repr, DecidableEq

def chomping? : Char → Option Chomping
  | '+' => some .keep
  | '-' => some .strip
  | _ => none

def blockIndent (start : Mark) (c : Cursor) : Except Malformed (Nat × Cursor) :=
  match c.head?.bind Text.decimalDigit? with
  | none => .ok (0, c)
  | some 0 => .error ⟨.zeroIndent, c.mark, some (.blockScalar, start)⟩
  | some n => .ok (n, c.skip 1)

def blockHead (start : Mark) (c : Cursor) : Except Malformed (BlockHead × Cursor) :=
  match c.head?.bind chomping? with
  | some chomping => (blockIndent start (c.skip 1)).map fun p => (⟨chomping, p.1⟩, p.2)
  | none =>
    (blockIndent start c).map fun p =>
      match p.1, p.2.head?.bind chomping? with
      | 0, _ => ({}, p.2)
      | n, some chomping => (⟨chomping, n⟩, p.2.skip 1)
      | n, none => (⟨.clip, n⟩, p.2)

def emptyLines (start : Mark) (indent widest : Nat) (breaks : Text) (m : Mark) :
    Text → Except Malformed (Text × Nat × Cursor)
  | [] => .ok (breaks, max widest m.column, ⟨[], m⟩)
  | '\r' :: '\n' :: r =>
    emptyLines start indent (max widest m.column) (breaks ++ ['\n']) (m.newLine 2) r
  | c :: r =>
    if c = ' ' && (indent = 0 || m.column < indent) then
      emptyLines start indent widest breaks (m.skip 1) r
    else if c = '\t' && (indent = 0 || m.column < indent) then
      .error ⟨.tabIndent, m, some (.blockScalar, start)⟩
    else if isBreak c then
      emptyLines start indent (max widest m.column) (breaks ++ breakText c) (m.newLine 1) r
    else .ok (breaks, max widest m.column, ⟨c :: r, m⟩)

structure Block where
  text : Text := []
  lastBreak : Text := []
  breaks : Text := []
  isIndented : Bool := false

def Block.joined (isLiteral : Bool) (b : Block) (isIndented : Bool) : Text :=
  (if !isLiteral && b.lastBreak = ['\n'] && !b.isIndented && !isIndented then
      (if b.breaks.isEmpty then b.text ++ [' '] else b.text)
    else b.text ++ b.lastBreak) ++ b.breaks

def blockLines (isLiteral : Bool) (start : Mark) (indent : Nat) :
    Nat → Block → Cursor → Except Malformed (Block × Cursor)
  | 0, b, c => .ok (b, c)
  | fuel + 1, b, c =>
    if c.mark.column ≠ indent || c.rest.isEmpty then .ok (b, c)
    else
      let isIndented := c.head?.any isBlankChar
      let line := c.rest.takeWhile fun d => !isBreak d
      let e := c.skipLineRest
      match emptyLines start indent 0 [] e.skipBreak.mark e.skipBreak.rest with
      | .error f => .error f
      | .ok (breaks, _, next) =>
        blockLines isLiteral start indent fuel
          ⟨b.joined isLiteral isIndented ++ line, e.nextBreak, breaks, isIndented⟩ next

def Block.chomped (b : Block) : Chomping → Text
  | .strip => b.text
  | .clip => b.text ++ b.lastBreak
  | .keep => b.text ++ b.lastBreak ++ b.breaks

/-- A block scalar after its indicator. Its lines begin at `least` or further right, but never
at column zero; a head with an indentation counts it from the collection around. -/
def block (isLiteral : Bool) (least : Nat) (start : Mark) (c : Cursor) :
    Except Malformed Written := do
  let (head, c) ← blockHead start c
  let c := c.skipBlanks
  let c := if c.head? = some '#' then c.skipLineRest else c
  if !c.atLineEnd then throw ⟨.noLineEnd, c.mark, some (.blockScalar, start)⟩
  let c := c.skipBreak
  let given := if head.indent = 0 then 0 else least - 1 + head.indent
  let (breaks, widest, c) ← emptyLines start given 0 [] c.mark c.rest
  let indent := if given = 0 then max widest (max least 1) else given
  let (b, c) ← blockLines isLiteral start indent (c.rest.length + 1) { breaks } c
  pure ⟨b.chomped head.chomping, false, c⟩

end TraceHeaders.Settings.Yaml
