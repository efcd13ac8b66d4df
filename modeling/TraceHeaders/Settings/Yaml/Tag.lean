import TraceHeaders.Settings.Yaml.Fault
import TraceHeaders.Text.Utf8

namespace TraceHeaders.Settings.Yaml

def endsName (t : Text) : Bool := atGap t || t.head?.any "?:,]\x7d%@\x60".toList.contains

def anchorName (construct : Construct) (start : Mark) (c : Cursor) :
    Except Malformed (Text × Cursor) :=
  let name := c.rest.takeWhile isWordChar
  let next := c.skip name.length
  if name.isEmpty || !endsName next.rest then .error ⟨.noName, next.mark, some (construct, start)⟩
  else .ok (name, next)

def isTagChar (isFull : Bool) (c : Char) : Bool :=
  isWordChar c || ";/?:@&=+$.%!~*'()".toList.contains c || (isFull && ",[]".toList.contains c)

def octet? : Text → Option Nat
  | '%' :: a :: b :: _ => Text.hex? [a, b]
  | _ => none

def moreOctets? (n : Nat) : Option Nat :=
  if n < 0x80 then some 0
  else if n < 0xC0 then none
  else if n < 0xE0 then some 1
  else if n < 0xF0 then some 2
  else if n < 0xF8 then some 3
  else none

def tailOctets (context : Construct × Mark) : Nat → Cursor → Except Malformed (List UInt8 × Cursor)
  | 0, c => .ok ([], c)
  | n + 1, c =>
    match octet? c.rest with
    | none => .error ⟨.noOctet, c.mark, some context⟩
    | some b =>
      if b / 64 ≠ 2 then .error ⟨.badTailOctet, c.mark, some context⟩
      else (tailOctets context n (c.skip 3)).map fun p => (.ofNat b :: p.1, p.2)

def escapedOctets (context : Construct × Mark) (c : Cursor) :
    Except Malformed (List UInt8 × Cursor) :=
  match octet? c.rest with
  | none => .error ⟨.noOctet, c.mark, some context⟩
  | some b =>
    match moreOctets? b with
    | none => .error ⟨.badLeadOctet, c.mark, some context⟩
    | some n => (tailOctets context n (c.skip 3)).map fun p => (.ofNat b :: p.1, p.2)

def tagChars (isFull : Bool) (context : Construct × Mark) :
    Nat → Text → Cursor → Except Malformed (Text × Cursor)
  | 0, t, c => .ok (t, c)
  | fuel + 1, t, c =>
    match c.head?.filter (isTagChar isFull) with
    | none => .ok (t, c)
    | some '%' =>
      match escapedOctets context c with
      | .error e => .error e
      | .ok (bs, c) => tagChars isFull context fuel (t ++ Text.ofBytesLossy bs) c
    | some d => tagChars isFull context fuel (t ++ [d]) (c.skip 1)

def tagText (isFull : Bool) (construct : Construct) (start : Mark) (c : Cursor) :
    Except Malformed (Text × Cursor) := do
  let (t, next) ← tagChars isFull (construct, start) c.rest.length [] c
  if t.isEmpty then throw ⟨.noTagText, c.mark, some (construct, start)⟩
  pure (t, next)

def handle (isDirective : Bool) (start : Mark) (c : Cursor) : Except Malformed (Text × Cursor) :=
  let word := (c.rest.drop 1).takeWhile isWordChar
  let next := c.skip (word.length + 1)
  if c.head? ≠ some '!' then
    .error ⟨.noExclamation, c.mark, some (if isDirective then .directiveHandle else .tag, start)⟩
  else if next.head? = some '!' then .ok ('!' :: word ++ ['!'], next.skip 1)
  else if !isDirective then .ok (['!'], c.skip 1)
  else if word.isEmpty then .ok (['!'], next)
  else .error ⟨.noExclamation, next.mark, some (.directiveWord, start)⟩

structure Tag where
  handle : Text
  suffix : Text
  deriving Repr, DecidableEq

def shortTag (start : Mark) (c : Cursor) : Except Malformed (Tag × Cursor) := do
  let (handle, next) ← handle false start c
  if handle = ['!'] then
    let (suffix, next) ← tagChars false (.tagText, start) next.rest.length [] next
    pure (if suffix.isEmpty then ⟨[], ['!']⟩ else ⟨handle, suffix⟩, next)
  else
    let (suffix, next) ← tagText false .tagText start next
    pure (⟨handle, suffix⟩, next)

def fullTag (start : Mark) (c : Cursor) : Except Malformed (Tag × Cursor) := do
  let (suffix, next) ← tagText true .tagText start c
  if next.head? ≠ some '>' then throw ⟨.noClosingAngle, next.mark, some (.tag, start)⟩
  pure (⟨[], suffix⟩, next.skip 1)

def tag (inFlow : Bool) (c : Cursor) : Except Malformed (Tag × Cursor) := do
  let (t, next) ←
    if (c.rest.drop 1).head? = some '<' then fullTag c.mark (c.skip 2) else shortTag c.mark c
  if next.atGap || (inFlow && next.head? = some ',') then pure (t, next)
  else throw ⟨.noGap, next.mark, some (.tag, c.mark)⟩

inductive Directive where
  | version (major minor : Nat)
  | handle (name meaning : Text)
  deriving Repr, DecidableEq

def versionNumber (start : Mark) (c : Cursor) : Except Malformed (Nat × Cursor) :=
  let digits := c.rest.takeWhile fun d => (Text.decimalDigit? d).isSome
  if 9 < digits.length then .error ⟨.longVersion, c.mark.skip 9, some (.versionDirective, start)⟩
  else match Text.decimal? digits with
    | none => .error ⟨.noVersion, c.mark, some (.versionDirective, start)⟩
    | some n => .ok (n, c.skip digits.length)

def version (start : Mark) (c : Cursor) : Except Malformed (Directive × Cursor) := do
  let (major, c) ← versionNumber start c.skipBlanks
  if c.head? ≠ some '.' then throw ⟨.badVersion, c.mark, some (.versionDirective, start)⟩
  let (minor, c) ← versionNumber start (c.skip 1)
  pure (.version major minor, c)

def handleMeaning (start : Mark) (c : Cursor) : Except Malformed (Directive × Cursor) := do
  let (name, c) ← handle true start c.skipBlanks
  if !c.head?.any isBlankChar then throw ⟨.noSpace, c.mark, some (.tagDirective, start)⟩
  let (meaning, c) ← tagText true .directiveText start c.skipBlanks
  if !c.atGap then throw ⟨.noGap, c.mark, some (.tagDirective, start)⟩
  pure (.handle name meaning, c)

def directive (c : Cursor) : Except Malformed (Directive × Cursor) := do
  let start := c.mark
  let name := (c.rest.drop 1).takeWhile isWordChar
  let c := c.skip (name.length + 1)
  if name.isEmpty then throw ⟨.noDirectiveName, c.mark, some (.directive, start)⟩
  if !c.atGap then throw ⟨.badDirectiveName, c.mark, some (.directive, start)⟩
  let (d, c) ←
    if name = "YAML".toList then version start c
    else if name = "TAG".toList then handleMeaning start c
    else throw ⟨.unknownDirective, c.mark, some (.directive, start)⟩
  let c := c.skipBlanks
  let c := if c.head? = some '#' then c.skipLineRest else c
  if !c.atLineEnd then throw ⟨.noLineEnd, c.mark, some (.directive, start)⟩
  pure (d, c.skipBreak)

end TraceHeaders.Settings.Yaml
