import TraceHeaders.Binary64.Parse
import TraceHeaders.Settings.Value

/-! A variable names a field after a common beginning. Its text is a value in a small grammar, and
stands for itself where it is none. -/

namespace TraceHeaders.Settings

abbrev Variable := Text × Text

namespace Variable

def isSpace (c : Char) : Bool := c = ' ' || c = '\t' || c = '\n' || c = '\r' || c = '\x0c'

def skipSpace (t : Text) : Text := t.dropWhile isSpace

def isBare (c : Char) : Bool :=
  c ≠ ',' && c ≠ '\x7b' && c ≠ '\x7d' && c ≠ '[' && c ≠ ']'

def isKeyChar (c : Char) : Bool := c.isAlphanum || c = '_' || c = '-'

def bareValue (t : Text) : Value :=
  match (if '.' ∈ t then Binary64.ofText? t else none), Text.uint64? t, Text.int64? t with
  | some x, _, _ => .float x
  | none, some n, _ => .int false n.toNat
  | none, none, some z => .int true z.natAbs
  | none, none, none => .text t

def codePoint? (n : Nat) (t : Text) : Option (Char × Text) := do
  let digits := t.take n
  if digits.length < n then none
  else
    let v ← Text.hex? digits
    if v.isValidChar then some (Char.ofNat v, t.drop n) else none

def escape? : Text → Option (Char × Text)
  | 'b' :: r => some ('\x08', r)
  | 'f' :: r => some ('\x0c', r)
  | 'n' :: r => some ('\n', r)
  | 'r' :: r => some ('\r', r)
  | 't' :: r => some ('\t', r)
  | '"' :: r => some ('"', r)
  | '\\' :: r => some ('\\', r)
  | 'u' :: r => codePoint? 4 r
  | 'U' :: r => codePoint? 8 r
  | _ => none

def cutQuotation? : Text → Option (Text × Text)
  | [] => none
  | '"' :: r => some ([], r)
  | '\\' :: c :: r => (cutQuotation? r).map fun p => ('\\' :: c :: p.1, p.2)
  | c :: r => (cutQuotation? r).map fun p => (c :: p.1, p.2)

def isQuotable (c : Char) : Bool := c = '\t' || (0x20 ≤ c.toNat && c ≠ '\x7f')

def unescape? : Nat → Text → Option Text
  | 0, _ => none
  | fuel + 1, t =>
    match t with
    | [] => some []
    | '\\' :: r => (escape? r).bind fun p => (unescape? fuel p.2).map (p.1 :: ·)
    | c :: r => if isQuotable c then (unescape? fuel r).map (c :: ·) else none

def fitting : Nat → Text → Text
  | _, [] => []
  | n, c :: r => if c.utf8Size ≤ n then c :: fitting (n - c.utf8Size) r else []

/-- The text within a quotation. Before the first escape, if there is one, as many bytes count as
there are characters. -/
def quoted? (t : Text) : Option Text :=
  let start := t.takeWhile (· ≠ '\\')
  let rest := t.dropWhile (· ≠ '\\')
  if !start.all isQuotable then none
  else if rest.isEmpty then some start
  else (unescape? (rest.length + 1) rest).map (fitting start.length start ++ ·)

def quotation? (t : Text) : Option (Text × Text) :=
  (cutQuotation? t).bind fun p => (quoted? p.1).map fun q => (q, p.2)

def key? (t : Text) : Option (Text × Text) :=
  match t with
  | '"' :: r => quotation? r
  | t =>
    if (t.takeWhile isKeyChar).isEmpty then none
    else some (t.takeWhile isKeyChar, t.dropWhile isKeyChar)

mutual

def value? : Nat → Text → Option (Value × Text)
  | 0, _ => none
  | fuel + 1, t => do
    let (v, r) ← unspaced? fuel (skipSpace t)
    some (v, skipSpace r)

def unspaced? : Nat → Text → Option (Value × Text)
  | 0, _ => none
  | fuel + 1, t =>
    match "true".toList.isPrefixOf? t, "false".toList.isPrefixOf? t with
    | some r, _ => some (.bool true, r)
    | none, some r => some (.bool false, r)
    | none, none =>
      match t with
      | '\x7b' :: r => (fields? fuel r).map fun p => (.ofEntries p.1, p.2)
      | '[' :: r => (elements? fuel r).map fun p => (.list p.1, p.2)
      | '"' :: r => (quotation? r).map fun p => (.text p.1, p.2)
      | '\x27' :: c :: '\x27' :: r => some (.letter c, r)
      | '\x27' :: _ => none
      | t => some (bareValue (Text.trim (t.takeWhile isBare)), t.dropWhile isBare)

def elements? : Nat → Text → Option (List Value × Text)
  | 0, _ => none
  | fuel + 1, t =>
    match t with
    | ']' :: r => some ([], r)
    | t => do
      let (v, r) ← value? fuel t
      match r with
      | ',' :: r =>
        let (vs, r) ← elements? fuel r
        some (v :: vs, r)
      | ']' :: r => some ([v], r)
      | _ => none

def fields? : Nat → Text → Option (List (Text × Value) × Text)
  | 0, _ => none
  | fuel + 1, t =>
    match t with
    | '\x7d' :: r => some ([], r)
    | t => do
      let (k, r) ← key? (skipSpace t)
      match skipSpace r with
      | '=' :: r =>
        let (v, r) ← value? fuel r
        match r with
        | ',' :: r =>
          let (es, r) ← fields? fuel r
          some ((k, v) :: es, r)
        | '\x7d' :: r => some ([(k, v)], r)
        | _ => none
      | _ => none

end

def read (t : Text) : Value :=
  match value? (3 * t.length + 3) t with
  | some (v, []) => v
  | _ => .text t

def path? (start : Text) (name : Text) : Option (List Text) :=
  let name := Text.trim name
  if Text.sameName start (name.take start.length) then
    let path := (Text.trim (name.drop start.length)).splitOn '.'
    if path.any (·.isEmpty) then none else some (path.map Text.asciiLower)
  else none

def nested (v : Value) : List Text → Value
  | [] => v
  | k :: ks => .record [(k, nested v ks)]

def record (start : Text) (env : List Variable) : Value :=
  env.foldl (fun r x =>
    match path? start x.1 with
    | some path => r.merge (nested (read x.2) path)
    | none => r) (.record [])

end Variable

end TraceHeaders.Settings
