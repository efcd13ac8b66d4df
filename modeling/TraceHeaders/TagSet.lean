import TraceHeaders.Dict
import TraceHeaders.Log
import TraceHeaders.Text.Numeral

namespace TraceHeaders

structure TagSet where
  tags : Dict Text := ∅
  traceState : Option Text := none
  lastParent : Option Text := none
  isDebug : Bool := false
  error : Option Text := none
  deriving DecidableEq, Inhabited

namespace TagSet

def keyStart : Text := "_dd.p.".toList

def highHalfKey : Text := "_dd.p.tid".toList

def decisionMakerKey : Text := "_dd.p.dm".toList

inductive Fault where
  | disabled
  | tooLong
  | undecodable
  | malformedHighHalf (text : Text)
  deriving Repr, DecidableEq

def Fault.message : Fault → Text
  | disabled => "disabled".toList
  | tooLong => "extract_max_size".toList
  | undecodable => "decoding_error".toList
  | malformedHighHalf t => "malformed_tid ".toList ++ t

def isKeyChar (c : Char) : Bool := 0x21 ≤ c.toNat && c.toNat ≤ 0x7E && c ≠ ','

def isValueChar (c : Char) : Bool := 0x20 ≤ c.toNat && c.toNat ≤ 0x7E && c ≠ ','

def isKey (k : Text) : Bool :=
  match keyStart.isPrefixOf? k with
  | some suffix => !suffix.isEmpty && suffix.all isKeyChar
  | none => false

def isValue (v : Text) : Bool := v.all isValueChar

def isDecisionMaker : Text → Bool
  | ['-', d] => '0' ≤ d && d ≤ '9'
  | _ => false

inductive Element where
  | tag (key value : Text)
  | foreign
  | malformed
  deriving Repr, DecidableEq

def element (pair : Text) : Element :=
  match Text.cut? '=' pair with
  | none => .malformed
  | some (k, v) =>
    if !keyStart.isPrefixOf k then .foreign
    else if isKey k && isValue v then .tag k v
    else .malformed

def readElements : List Text → Except Text (List (Text × Text))
  | [] => .ok []
  | pair :: r =>
    match element pair with
    | .tag k v => (readElements r).map ((k, v) :: ·)
    | .foreign => readElements r
    | .malformed => .error pair

def failed (f : Fault) : TagSet := { error := some f.message }

def checkDecisionMaker (s : TagSet) : Logged TagSet :=
  match s.tags.get? decisionMakerKey with
  | none => pure s
  | some d =>
    if isDecisionMaker d then pure s
    else do
      Logged.warn ("Failed to decode `_dd.p.dm`: ".toList ++ d)
      pure { s with
        tags := s.tags.erase decisionMakerKey, error := some Fault.undecodable.message }

def limitText (length limit : Nat) : Text :=
  "x-datadog-tags header of ".toList ++ Text.ofNat length ++ " bytes exceeds the ".toList ++
    Text.ofNat limit ++ " bytes limit".toList

def ofHeader (limit : Nat) (header : Text) : Logged TagSet :=
  if limit = 0 then pure (failed .disabled)
  else if limit < Text.byteLength header then do
    Logged.warn (limitText (Text.byteLength header) limit)
    pure (failed .tooLong)
  else
    match readElements ((header.splitOn ',').filter (· ≠ [])) with
    | .error pair => do
      Logged.warn ("Failed to decode x-datadog-tags pair: ".toList ++ pair)
      pure (failed .undecodable)
    | .ok tags => checkDecisionMaker { tags := .ofList tags }

def encode (tags : Dict Text) : Text :=
  [','].intercalate (tags.entries.map fun e => e.1 ++ '=' :: e.2)

def header? (limit : Nat) (s : TagSet) : Logged (Option Text) :=
  if s.tags.isEmpty || limit = 0 then pure none
  else if limit < Text.byteLength (encode s.tags) then do
    Logged.warn (limitText (Text.byteLength (encode s.tags)) limit ++ ", not injecting".toList)
    pure none
  else pure (some (encode s.tags))

def get? (s : TagSet) (key : Text) : Option Text := s.tags.get? key

def withTag (s : TagSet) (key value : Text) : TagSet := { s with tags := s.tags.insert key value }

def erase (s : TagSet) (key : Text) : TagSet := { s with tags := s.tags.erase key }

def decisionMaker (s : TagSet) : Option Text := s.get? decisionMakerKey

def absorb (s other : TagSet) : TagSet :=
  { s with
    traceState := other.traceState.or s.traceState
    lastParent := other.lastParent.or s.lastParent }

def spanTags (s : TagSet) : Dict Text :=
  (s.tags.insertMany (s.lastParent.toList.map (("_dd.parent_id".toList, ·)))).insertMany
    (s.error.toList.map (("_dd.propagation_error".toList, ·)))

end TagSet

end TraceHeaders
