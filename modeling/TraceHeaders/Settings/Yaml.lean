import TraceHeaders.Settings.Yaml.Node
import TraceHeaders.Settings.Yaml.Schema

namespace TraceHeaders.Settings.Yaml

inductive Mismatch where
  | noMapping (found : Value)
  | noText (found : Value)
  | noKind (text : Text) (k : Kind)
  | localTag

def Mismatch.message : Mismatch → Text
  | noMapping v => "invalid type: ".toList ++ Dialect.file.describe v ++ ", expected a map".toList
  | noText v => "invalid type: ".toList ++ Dialect.file.describe v ++ ", expected a string".toList
  | noKind t k => "invalid value: string ".toList ++ Text.quoted t ++ ", expected ".toList ++ k.shown
  | localTag => "invalid type: enum, expected any valid TOML value".toList

inductive Fault where
  | control (position : Nat)
  | malformed (m : Malformed)
  | unknownAnchor (mark : Mark)
  | mismatch (m : Mismatch) (path : Text) (mark : Mark)
  | tooDeep (mark : Mark)
  | tooManyAliases
  | secondDocument

def Fault.message : Fault → Text
  | control position =>
    "control characters are not allowed".toList ++
      if position = 0 then [] else " at position ".toList ++ Text.ofNat position
  | malformed m => m.message
  | unknownAnchor mark => "unknown anchor".toList ++ mark.shown
  | mismatch m path mark =>
    (if path.isEmpty then [] else path ++ [':', ' ']) ++ m.message ++ mark.shown
  | tooDeep mark => "recursion limit exceeded".toList ++ mark.shown
  | tooManyAliases => "repetition limit exceeded".toList
  | secondDocument =>
    "deserializing from YAML containing more than one document is not supported".toList

def isControl (c : Char) : Bool :=
  (c.toNat < 0x20 && c ≠ '\t' && c ≠ '\n' && c ≠ '\r') || (0x7F ≤ c.toNat && c.toNat < 0xA0 &&
    c ≠ '\u0085') || c = '\uFFFE' || c = '\uFFFF'

structure Anchors where
  nodes : List (Nat × Node)
  limit : Nat

abbrev Reading := StateT Nat (Except Fault)

def Anchors.resolve (a : Anchors) : Node → Reading Node
  | .aliasOf mark n => do
    let count ← get
    if a.limit ≤ count then throw .tooManyAliases
    modify fun count => count + 1
    match a.nodes.lookup n with
    | some x => pure x
    | none => throw (.unknownAnchor mark)
  | .unknownAlias mark => throw (.unknownAnchor mark)
  | .broken m => throw (.malformed m)
  | n => pure n

def isLocalTag (tag : Text) : Bool := tag.head? = some '!'

def typedScalar (p : Properties) (t : Text) (isPlain : Bool) : Except Mismatch Value :=
  match Kind.ofTag? p.tag with
  | some k =>
    match k.value? t with
    | some v => .ok v
    | none => .error (.noKind t k)
  | none =>
    .ok (if isPlain && (p.tag.isEmpty || isLocalTag p.tag) then plainValue t else .text t)

def member (path key : Text) : Text := if path.isEmpty then key else path ++ '.' :: key

def element (path : Text) (i : Nat) : Text := path ++ '[' :: Text.ofNat i ++ [']']

def keyText (a : Anchors) (path : Text) (n : Node) : Reading Text := do
  match ← a.resolve n with
  | .scalar _ t _ => pure t
  | .sequence p _ => throw (.mismatch (.noText (.list [])) path p.mark)
  | .mapping p _ => throw (.mismatch (.noText (.record [])) path p.mark)
  | _ => pure []

def memberPath (path : Text) : Node → Text
  | .scalar _ t _ => member path t
  | _ => member path ['?']

def record (a : Anchors) (path : Text) (value : Text → Node → Reading Value)
    (pairs : List (Node × Node)) : Reading Value := do
  let es ← pairs.mapM fun e => do
    let k ← keyText a path e.1
    let v ← value (memberPath path e.1) e.2
    pure (k, v)
  pure (.ofEntries es)

def refuseLocalTag (path : Text) (p : Properties) : Reading Unit :=
  if isLocalTag p.tag then throw (.mismatch .localTag path p.mark) else pure ()

def scalarValue (path : Text) (p : Properties) (t : Text) (isPlain : Bool) : Reading Value :=
  match typedScalar p t isPlain with
  | .ok v => pure v
  | .error m => throw (.mismatch m path p.mark)

def value (a : Anchors) : (depth : Nat) → (path : Text) → Node → Reading Value
  | 0, path, n => do
    match ← a.resolve n with
    | .scalar p t isPlain =>
      refuseLocalTag path p
      scalarValue path p t isPlain
    | .sequence p _ | .mapping p _ =>
      refuseLocalTag path p
      throw (.tooDeep p.mark)
    | _ => pure .null
  | depth + 1, path, n => do
    match ← a.resolve n with
    | .scalar p t isPlain =>
      refuseLocalTag path p
      scalarValue path p t isPlain
    | .sequence p items =>
      refuseLocalTag path p
      let vs ← items.zipIdx.mapM fun e => value a depth (element path e.2) e.1
      pure (.list vs)
    | .mapping p pairs =>
      refuseLocalTag path p
      record a path (value a depth) pairs
    | _ => pure .null

def deepest : Nat := 128

def rootValue (a : Anchors) (n : Node) : Reading Value := do
  match ← a.resolve n with
  | .mapping _ pairs => record a [] (value a (deepest - 1)) pairs
  | .sequence p _ => throw (.mismatch (.noMapping (.list [])) [] p.mark)
  | .scalar p t isPlain =>
    if t.isEmpty && isPlain then pure (.record [])
    else
      let v ← scalarValue [] p t isPlain
      throw (.mismatch (.noMapping v) [] p.mark)
  | _ => pure (.record [])

def checkEnd (ts : List Token) : Except Fault Unit :=
  match ts.head?.map Token.kind with
  | some (.malformed m) => .error (.malformed m)
  | _ =>
    match (ts.dropWhile fun t => t.kind = .documentEnd).head?.map Token.kind with
    | none | some .streamEnd => .ok ()
    | _ => .error .secondDocument

def ofDocument (root : Node) (rest : Option Parsing) : Except Fault Value := do
  let (v, _) ← (rootValue ⟨root.anchored [], 100 * root.events⟩ root).run 0
  checkEnd ((rest.map (·.tokens)).getD [])
  pure v

def read (t : Text) : Except Fault Value :=
  match t.findIdx? isControl, document? (tokens t) with
  | some n, _ => .error (.control (Text.byteLength (t.take n)))
  | none, none => .ok (.record [])
  | none, some (root, rest) => ofDocument root rest

end TraceHeaders.Settings.Yaml
