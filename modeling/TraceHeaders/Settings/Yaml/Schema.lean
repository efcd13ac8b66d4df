import TraceHeaders.Binary64.Parse
import TraceHeaders.Settings.Dialect

/-! A plain scalar that looks like a null, a flag or a number is one; a core tag asks for a kind. -/

namespace TraceHeaders.Settings.Yaml

def isNull (t : Text) : Bool :=
  [['~'], "null".toList, "Null".toList, "NULL".toList].contains t

def flag? (t : Text) : Option Bool :=
  if ["true".toList, "True".toList, "TRUE".toList].contains t then some true
  else if ["false".toList, "False".toList, "FALSE".toList].contains t then some false
  else none

def digit? (base : Nat) (c : Char) : Option Nat := (Text.hexDigit? c).filter (· < base)

def isDecimalDigit (c : Char) : Bool := (Text.decimalDigit? c).isSome

def unsigned (t : Text) : Text :=
  if t.head? = some '-' || t.head? = some '+' then t.drop 1 else t

def isZeroPadded (t : Text) : Bool :=
  match unsigned t with
  | '0' :: r => !r.isEmpty && r.all isDecimalDigit
  | _ => false

def magnitude? : Text → Option Nat
  | '0' :: 'x' :: r => Text.digits? 16 (digit? 16) r
  | '0' :: 'o' :: r => Text.digits? 8 (digit? 8) r
  | '0' :: 'b' :: r => Text.digits? 2 (digit? 2) r
  | t => Text.decimal? t

def tooWide : Nat := UInt64.size * UInt64.size

def int? (t : Text) : Option Value :=
  let negative := t.head? = some '-'
  if isZeroPadded t then none
  else (magnitude? (unsigned t)).bind fun n =>
    if (if negative then 2 * n ≤ tooWide else n < tooWide) then some (.int negative n) else none

def infinityNames : List Text := [".inf".toList, ".Inf".toList, ".INF".toList]

def float? (t : Text) : Option Binary64 :=
  if [".nan".toList, ".NaN".toList, ".NAN".toList].contains t then some .nan
  else if infinityNames.contains (unsigned t) then some (.infinite (t.head? = some '-'))
  else match Binary64.ofText? t with
    | some (.finite negative m e) => some (.finite negative m e)
    | _ => none

def plainValue (t : Text) : Value :=
  if t.isEmpty || isNull t then .null
  else match flag? t, int? t, (float? t).filter fun _ => !isZeroPadded t with
    | some b, _, _ => .bool b
    | none, some v, _ => v
    | none, none, some x => .float x
    | none, none, none => .text t

inductive Kind where
  | flag
  | int
  | float
  | null
  deriving Repr, DecidableEq

def Kind.tag : Kind → Text
  | flag => "tag:yaml.org,2002:bool".toList
  | int => "tag:yaml.org,2002:int".toList
  | float => "tag:yaml.org,2002:float".toList
  | null => "tag:yaml.org,2002:null".toList

def Kind.ofTag? (t : Text) : Option Kind := [flag, int, float, null].find? fun k => k.tag = t

def Kind.shown : Kind → Text
  | flag => "a boolean".toList
  | int => "an integer".toList
  | float => "a float".toList
  | null => "null".toList

def Kind.value? (t : Text) : Kind → Option Value
  | flag => (flag? t).map .bool
  | int => int? t
  | float => (float? t).map .float
  | null => if isNull t then some .null else none

end TraceHeaders.Settings.Yaml
