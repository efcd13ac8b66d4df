import TraceHeaders.Settings.Value

/-! How diagnostics speak of values that are not of the wanted kind. -/

namespace TraceHeaders.Settings

inductive Dialect where
  | document
  | layered
  | file
  deriving Repr, DecidableEq

def backquoted (t : Text) : Text := '\x60' :: t ++ ['\x60']

def boolText (b : Bool) : Text := if b then "true".toList else "false".toList

def Dialect.describeInt (d : Dialect) (negative : Bool) (n : Nat) : Text :=
  let digits := backquoted (Text.ofInt (Value.signedInt negative n))
  if (Value.int negative n).isWide then
    "integer ".toList ++ digits ++ (if negative then " as i128" else " as u128").toList
  else if d = .layered then
    (if negative then "signed int ".toList else "unsigned int ".toList) ++ digits
  else "integer ".toList ++ digits

def Dialect.describe (d : Dialect) : Value → Text
  | .null =>
    match d with
    | .document => "null".toList
    | .layered => "unit".toList
    | .file => "unit value".toList
  | .bool b =>
    match d with
    | .layered => "bool ".toList ++ boolText b
    | _ => "boolean ".toList ++ backquoted (boolText b)
  | .int negative n => d.describeInt negative n
  | .float x =>
    match d with
    | .document => "floating point ".toList ++ backquoted x.compact
    | .layered => "float ".toList ++ backquoted x.plain
    | .file => "floating point ".toList ++ backquoted x.pointed
  | .text t => "string ".toList ++ Text.quoted t
  | .letter c => "string ".toList ++ Text.quoted [c]
  | .list _ => "sequence".toList
  | .record _ => "map".toList

end TraceHeaders.Settings
