import TraceHeaders.Settings.Yaml.Token

/-! Where a text turns out to be no document, its tree ends in the fault; what precedes it stays. -/

namespace TraceHeaders.Settings.Yaml

structure Properties where
  mark : Mark := {}
  anchor : Option Nat := none
  tag : Text := []
  deriving Repr, DecidableEq

inductive Node where
  | aliasOf (mark : Mark) (anchor : Nat)
  | unknownAlias (mark : Mark)
  | scalar (p : Properties) (text : Text) (isPlain : Bool)
  | sequence (p : Properties) (items : List Node)
  | mapping (p : Properties) (pairs : List (Node × Node))
  | broken (m : Malformed)
  deriving Inhabited

def Node.absent : Node := .scalar {} [] true

structure Parsing where
  tokens : List Token
  anchors : List (Text × Nat) := []
  handles : List (Text × Text) := []

abbrev Partial (α : Type) := α × Option Parsing

namespace Parsing

def kind? (s : Parsing) : Option Token.Kind := s.tokens.head?.map (·.kind)

def isAt (s : Parsing) (k : Token.Kind) : Bool := s.kind? = some k

def mark (s : Parsing) : Mark := (s.tokens.head?.map (·.mark)).getD {}

def skip (s : Parsing) (n : Nat) : Parsing := { s with tokens := s.tokens.drop n }

def isBroken (s : Parsing) : Bool :=
  match s.kind? with
  | some (.malformed _) => true
  | _ => false

def unexpected (s : Parsing) (p : Problem) (context : Option (Construct × Mark)) : Node :=
  match s.kind? with
  | some (.malformed m) => .broken m
  | _ => .broken ⟨p, s.mark, context⟩

/-- Gives an anchor its number, which is the count of names before it. A name that returns keeps
its place in the count. -/
def defineAnchor (s : Parsing) (name : Text) : Nat × Parsing :=
  let n := s.anchors.length
  (n, { s with anchors := (name, n) :: s.anchors.filter (·.1 ≠ name) })

def tagText? (s : Parsing) (t : Tag) : Option Text :=
  if t.handle.isEmpty then some t.suffix else (s.handles.lookup t.handle).map (· ++ t.suffix)

def defaultHandles : List (Text × Text) :=
  [(['!'], ['!']), (['!', '!'], "tag:yaml.org,2002:".toList)]

end Parsing

structure Decoration where
  anchor : Option Text := none
  tag : Option (Tag × Mark) := none
  size : Nat := 0

def decoration : List Token → Decoration
  | ⟨.anchor a, _⟩ :: ⟨.tag t, m⟩ :: _ => ⟨some a, some (t, m), 2⟩
  | ⟨.tag t, m⟩ :: ⟨.anchor a, _⟩ :: _ => ⟨some a, some (t, m), 2⟩
  | ⟨.anchor a, _⟩ :: _ => { anchor := some a, size := 1 }
  | ⟨.tag t, m⟩ :: _ => { tag := some (t, m), size := 1 }
  | _ => {}

def Parsing.aliasNode (s : Parsing) (name : Text) (m : Mark) : Partial Node :=
  match s.anchors.lookup name with
  | some n => (.aliasOf m n, some (s.skip 1))
  | none => (.unknownAlias m, none)

def Parsing.properties (s : Parsing) : Except Node (Properties × Parsing) :=
  let d := decoration s.tokens
  let next := s.skip d.size
  let tag? := d.tag.map fun t => (s.tagText? t.1, t.2)
  match next.isBroken, tag? with
  | false, some (none, m) => .error (.broken ⟨.unknownHandle, m, some (.node, s.mark)⟩)
  | _, _ =>
    let tag := (tag?.bind (·.1)).getD []
    match d.anchor with
    | none => .ok ({ mark := s.mark, tag }, next)
    | some a =>
      let (n, next) := next.defineAnchor a
      .ok ({ mark := s.mark, anchor := some n, tag }, next)

def Parsing.emptyNode (s : Parsing) (isDecorated inBlock : Bool) (p : Properties) : Partial Node :=
  if isDecorated && !s.isBroken then (.scalar p [] true, some s)
  else (s.unexpected .noContent (some (if inBlock then .blockNode else .flowNode, p.mark)), none)

namespace Partial

def map {α β : Type} (f : α → β) (p : Partial α) : Partial β := (f p.1, p.2)

def cons (p : Partial Node) (more : Parsing → Partial (List Node)) : Partial (List Node) :=
  match p with
  | (n, none) => ([n], none)
  | (n, some s) => (more s).map (n :: ·)

def consPair (key : Partial Node) (value : Parsing → Partial Node)
    (more : Parsing → Partial (List (Node × Node))) : Partial (List (Node × Node)) :=
  match key with
  | (k, none) => ([(k, .absent)], none)
  | (k, some s) =>
    match value s with
    | (v, none) => ([(k, v)], none)
    | (v, some s) => (more s).map ((k, v) :: ·)

end Partial

def Parsing.afterComma? (s : Parsing) (isFirst : Bool) : Option Parsing :=
  if isFirst then some s else if s.isAt .flowEntry then some (s.skip 1) else none

mutual

def node (inBlock indentless : Bool) : Nat → Parsing → Partial Node
  | 0, s => (s.unexpected .noContent none, none)
  | fuel + 1, s =>
    match s.kind? with
    | some (.aliasOf name) => s.aliasNode name s.mark
    | _ =>
      match s.properties with
      | .error e => (e, none)
      | .ok (p, next) =>
        let empty := next.emptyNode (0 < (decoration s.tokens).size) inBlock p
        let rest := next.skip 1
        match next.kind? with
        | some (.scalar t isPlain) =>
          (.scalar { p with tag := if p.tag = ['!'] then [] else p.tag } t isPlain, some rest)
        | some (.flowStart .sequence) =>
          (flowItems next.mark true fuel rest).map (.sequence p)
        | some (.flowStart .mapping) =>
          (flowPairs next.mark true fuel rest).map (.mapping p)
        | some (.blockStart .sequence) =>
          if inBlock then (blockItems next.mark fuel rest).map (.sequence p) else empty
        | some (.blockStart .mapping) =>
          if inBlock then (blockPairs next.mark fuel rest).map (.mapping p) else empty
        | some .entry => if indentless then (bareItems fuel next).map (.sequence p) else empty
        | _ => empty

def optionalNode (inBlock indentless : Bool) (stops : List Token.Kind) :
    Nat → Parsing → Partial Node
  | 0, s => (s.unexpected .noContent none, none)
  | fuel + 1, s =>
    if s.kind?.any stops.contains then (.absent, some s) else node inBlock indentless fuel s

def optionalValue (inBlock : Bool) (stops : List Token.Kind) : Nat → Parsing → Partial Node
  | 0, s => (s.unexpected .noContent none, none)
  | fuel + 1, s =>
    if s.isAt .value then optionalNode inBlock inBlock stops fuel (s.skip 1)
    else (.absent, some s)

def blockItems (start : Mark) : Nat → Parsing → Partial (List Node)
  | 0, s => ([s.unexpected .noContent none], none)
  | fuel + 1, s =>
    if s.isAt .entry then
      (optionalNode true false [.entry, .blockEnd] fuel (s.skip 1)).cons (blockItems start fuel)
    else if s.isAt .blockEnd then ([], some (s.skip 1))
    else ([s.unexpected .noHyphen (some (.blockSequence, start))], none)

def bareItems : Nat → Parsing → Partial (List Node)
  | 0, s => ([s.unexpected .noContent none], none)
  | fuel + 1, s =>
    if s.isAt .entry then
      (optionalNode true false [.entry, .key, .value, .blockEnd] fuel (s.skip 1)).cons
        (bareItems fuel)
    else ([], some s)

def blockPairs (start : Mark) : Nat → Parsing → Partial (List (Node × Node))
  | 0, s => ([(s.unexpected .noContent none, .absent)], none)
  | fuel + 1, s =>
    if s.isAt .key then
      (optionalNode true true [.key, .value, .blockEnd] fuel (s.skip 1)).consPair
        (optionalValue true [.key, .value, .blockEnd] fuel) (blockPairs start fuel)
    else if s.isAt .blockEnd then ([], some (s.skip 1))
    else ([(s.unexpected .noKey (some (.blockMapping, start)), .absent)], none)

def flowItems (start : Mark) (isFirst : Bool) : Nat → Parsing → Partial (List Node)
  | 0, s => ([s.unexpected .noContent none], none)
  | fuel + 1, s =>
    if s.isAt (.flowEnd .sequence) then ([], some (s.skip 1))
    else match s.afterComma? isFirst with
      | none => ([s.unexpected .openSequence (some (.flowSequence, start))], none)
      | some s =>
        if s.isAt (.flowEnd .sequence) then ([], some (s.skip 1))
        else
          (if s.isAt .key then singlePair s.mark fuel (s.skip 1) else node false false fuel s).cons
            (flowItems start false fuel)

/-- A pair in square brackets is a mapping of its own. A key that is absent takes the token in its
place with it. -/
def singlePair (start : Mark) : Nat → Parsing → Partial Node
  | 0, s => (s.unexpected .noContent none, none)
  | fuel + 1, s =>
    let key : Partial Node :=
      if s.isAt .value || s.isAt .flowEntry || s.isAt (.flowEnd .sequence) then
        (.absent, some (s.skip 1))
      else node false false fuel s
    (key.consPair (optionalValue false [.flowEntry, .flowEnd .sequence] fuel)
      fun s => ([], some s)).map (.mapping { mark := start })

def flowPairs (start : Mark) (isFirst : Bool) : Nat → Parsing → Partial (List (Node × Node))
  | 0, s => ([(s.unexpected .noContent none, .absent)], none)
  | fuel + 1, s =>
    if s.isAt (.flowEnd .mapping) then ([], some (s.skip 1))
    else match s.afterComma? isFirst with
      | none => ([(s.unexpected .openMapping (some (.flowMapping, start)), .absent)], none)
      | some s =>
        let more := flowPairs start false fuel
        if s.isAt (.flowEnd .mapping) then ([], some (s.skip 1))
        else if s.isAt .key then
          (optionalNode false false [.value, .flowEntry, .flowEnd .mapping] fuel (s.skip 1)).consPair
            (optionalValue false [.flowEntry, .flowEnd .mapping] fuel) more
        else (node false false fuel s).consPair (fun s => (.absent, some s)) more

end

def directives (hasVersion : Bool) (handles : List (Text × Text)) :
    List Token → Except Malformed Parsing
  | ⟨.directive (.version major minor), m⟩ :: r =>
    if hasVersion then .error ⟨.secondVersion, m, none⟩
    else if major = 1 && (minor = 1 || minor = 2) then directives true handles r
    else .error ⟨.foreignVersion, m, none⟩
  | ⟨.directive (.handle name meaning), m⟩ :: r =>
    if handles.any (·.1 = name) then .error ⟨.secondPair, m, none⟩
    else directives hasVersion ((name, meaning) :: handles) r
  | ts => .ok { tokens := ts, handles := handles ++ Parsing.defaultHandles }

def document? (ts : List Token) : Option (Partial Node) :=
  let fuel := 4 * ts.length + 4
  match (ts.head?.map (·.kind)).getD .streamEnd with
  | .streamEnd => none
  | .documentStart | .directive _ =>
    some <| match directives false [] ts with
    | .error m => (.broken m, none)
    | .ok s =>
      if !s.isAt .documentStart then (s.unexpected .noDocumentStart none, none)
      else match (s.skip 1).kind? with
        | some (.directive _) | some .documentStart | some .documentEnd | some .streamEnd =>
          (.absent, some (s.skip 1))
        | _ => node true false fuel (s.skip 1)
  | _ => some (node true false fuel { tokens := ts, handles := Parsing.defaultHandles })

mutual

def Node.anchored (found : List (Nat × Node)) : Node → List (Nat × Node)
  | .scalar p t isPlain => noted found p (.scalar p t isPlain)
  | .sequence p items => anchoredItems (noted found p (.sequence p items)) items
  | .mapping p pairs => anchoredPairs (noted found p (.mapping p pairs)) pairs
  | _ => found
where
  noted (found : List (Nat × Node)) (p : Properties) (n : Node) : List (Nat × Node) :=
    match p.anchor with
    | none => found
    | some a => (a, n) :: found

def Node.anchoredItems (found : List (Nat × Node)) : List Node → List (Nat × Node)
  | [] => found
  | n :: r => anchoredItems (n.anchored found) r

def Node.anchoredPairs (found : List (Nat × Node)) : List (Node × Node) → List (Nat × Node)
  | [] => found
  | (k, v) :: r => anchoredPairs (v.anchored (k.anchored found)) r

end

mutual

def Node.events : Node → Nat
  | .sequence _ items => eventsItems items + 2
  | .mapping _ pairs => eventsPairs pairs + 2
  | _ => 1

def Node.eventsItems : List Node → Nat
  | [] => 0
  | n :: r => n.events + eventsItems r

def Node.eventsPairs : List (Node × Node) → Nat
  | [] => 0
  | (k, v) :: r => k.events + v.events + eventsPairs r

end

end TraceHeaders.Settings.Yaml
