import TraceHeaders.Binary64.Shortest
import TraceHeaders.Dict
import TraceHeaders.Text.Quoted

namespace TraceHeaders

inductive Value where
  | null
  | bool (b : Bool)
  /-- A whole number as it was written: zero can have a minus sign. -/
  | int (negative : Bool) (magnitude : Nat)
  | float (x : Binary64)
  | text (t : Text)
  /-- A single character, which is not a text where a flag is wanted. -/
  | letter (c : Char)
  | list (vs : List Value)
  | record (es : List (Text × Value))
  deriving Inhabited

namespace Value

def ofInt (z : Int) : Value := int (z < 0) z.natAbs

def signedInt (negative : Bool) (magnitude : Nat) : Int :=
  if negative then -(magnitude : Int) else magnitude

def ofEntries (es : List (Text × Value)) : Value :=
  record (es.foldl (fun r e => insertEntry e.1 e.2 r) [])

def entries : Value → List (Text × Value)
  | record es => es
  | _ => []

mutual

def merge (v : Value) : Value → Value
  | record es => record (mergeEntries v.entries es)
  | w => w

def mergeEntries (rs : List (Text × Value)) : List (Text × Value) → List (Text × Value)
  | [] => rs
  | (k, v) :: es => mergeEntries (insertEntry k (merge ((rs.lookup k).getD null) v) rs) es

end

def get? : Value → List Text → Option Value
  | v, [] => some v
  | record es, k :: ks => (es.lookup k).bind (get? · ks)
  | list vs, k :: ks => ((Text.decimal? k).bind (vs[·]?)).bind (get? · ks)
  | _, _ :: _ => none

def isWide : Value → Bool
  | int negative n => if negative then UInt64.size < 2 * n else UInt64.size ≤ n
  | _ => false

mutual

def wide? : Value → Option (List Text × Value)
  | list vs => wideElement? 0 vs
  | record es => wideMember? es
  | v => if v.isWide then some ([], v) else none

def wideElement? (i : Nat) : List Value → Option (List Text × Value)
  | [] => none
  | v :: vs =>
    match wide? v with
    | some (path, w) => some (Text.ofNat i :: path, w)
    | none => wideElement? (i + 1) vs

def wideMember? : List (Text × Value) → Option (List Text × Value)
  | [] => none
  | (k, v) :: es =>
    match wide? v with
    | some (path, w) => some (k :: path, w)
    | none => wideMember? es

end

mutual

def shown : Value → Text
  | null => "Null".toList
  | bool b => "Bool(".toList ++ (if b then "true" else "false").toList ++ [')']
  | int negative n => "Number(".toList ++ Text.ofInt (signedInt negative n) ++ [')']
  | float x =>
    match x with
    | .finite .. => "Number(".toList ++ x.compact ++ [')']
    | _ => "Null".toList
  | text t => "String(".toList ++ Text.quoted t ++ [')']
  | letter c => "String(".toList ++ Text.quoted [c] ++ [')']
  | list vs => "Array [".toList ++ [',', ' '].intercalate (shownList vs) ++ [']']
  | record es =>
    "Object ".toList ++ ['\x7b'] ++ [',', ' '].intercalate (shownEntries es) ++ ['\x7d']

def shownList : List Value → List Text
  | [] => []
  | v :: vs => shown v :: shownList vs

def shownEntries : List (Text × Value) → List Text
  | [] => []
  | (k, v) :: es => (Text.quoted k ++ ':' :: ' ' :: shown v) :: shownEntries es

end

end Value

end TraceHeaders
