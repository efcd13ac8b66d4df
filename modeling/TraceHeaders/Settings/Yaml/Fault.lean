import TraceHeaders.Settings.Yaml.Cursor
import TraceHeaders.Text.Numeral

namespace TraceHeaders.Settings.Yaml

def Mark.shown (m : Mark) : Text :=
  if m.line = 0 ∧ m.column = 0 then []
  else " at line ".toList ++ Text.ofNat (m.line + 1) ++ " column ".toList ++
    Text.ofNat (m.column + 1)

inductive Construct where
  | simpleKey
  | directive
  | versionDirective
  | tagDirective
  | directiveHandle
  | directiveWord
  | directiveText
  | anchorName
  | aliasName
  | tag
  | tagText
  | blockScalar
  | quotedScalar
  | escape
  | plainScalar
  | nextToken
  | node
  | blockNode
  | flowNode
  | blockSequence
  | blockMapping
  | flowSequence
  | flowMapping
  deriving Repr, DecidableEq

def Construct.text : Construct → Text
  | simpleKey => "while scanning a simple key".toList
  | directive => "while scanning a directive".toList
  | versionDirective => "while scanning a %YAML directive".toList
  | tagDirective => "while scanning a %TAG directive".toList
  | directiveHandle => "while scanning a tag directive".toList
  | directiveWord => "while parsing a tag directive".toList
  | directiveText => "while parsing a %TAG directive".toList
  | anchorName => "while scanning an anchor".toList
  | aliasName => "while scanning an alias".toList
  | tag => "while scanning a tag".toList
  | tagText => "while parsing a tag".toList
  | blockScalar => "while scanning a block scalar".toList
  | quotedScalar => "while scanning a quoted scalar".toList
  | escape => "while parsing a quoted scalar".toList
  | plainScalar => "while scanning a plain scalar".toList
  | nextToken => "while scanning for the next token".toList
  | node => "while parsing a node".toList
  | blockNode => "while parsing a block node".toList
  | flowNode => "while parsing a flow node".toList
  | blockSequence => "while parsing a block collection".toList
  | blockMapping => "while parsing a block mapping".toList
  | flowSequence => "while parsing a flow sequence".toList
  | flowMapping => "while parsing a flow mapping".toList

inductive Problem where
  | noColon
  | misplacedEntry
  | misplacedKey
  | misplacedValue
  | badStart
  | unknownDirective
  | noDirectiveName
  | badDirectiveName
  | noLineEnd
  | noVersion
  | longVersion
  | badVersion
  | noSpace
  | noGap
  | noName
  | noExclamation
  | noTagText
  | noClosingAngle
  | noOctet
  | badLeadOctet
  | badTailOctet
  | zeroIndent
  | tabIndent
  | documentMarkInside
  | endInside
  | unknownEscape
  | badEscape
  | noCharacter
  | unexpectedColon
  | tabInPlain
  | noDocumentStart
  | secondVersion
  | foreignVersion
  | secondPair
  | unknownHandle
  | noContent
  | noHyphen
  | noKey
  | openSequence
  | openMapping
  deriving Repr, DecidableEq

def Problem.text : Problem → Text
  | noColon => "could not find expected ':'".toList
  | misplacedEntry => "block sequence entries are not allowed in this context".toList
  | misplacedKey => "mapping keys are not allowed in this context".toList
  | misplacedValue => "mapping values are not allowed in this context".toList
  | badStart => "found character that cannot start any token".toList
  | unknownDirective => "found unknown directive name".toList
  | noDirectiveName => "could not find expected directive name".toList
  | badDirectiveName => "found unexpected non-alphabetical character".toList
  | noLineEnd => "did not find expected comment or line break".toList
  | noVersion => "did not find expected version number".toList
  | longVersion => "found extremely long version number".toList
  | badVersion => "did not find expected digit or '.' character".toList
  | noSpace => "did not find expected whitespace".toList
  | noGap => "did not find expected whitespace or line break".toList
  | noName => "did not find expected alphabetic or numeric character".toList
  | noExclamation => "did not find expected '!'".toList
  | noTagText => "did not find expected tag URI".toList
  | noClosingAngle => "did not find the expected '>'".toList
  | noOctet => "did not find URI escaped octet".toList
  | badLeadOctet => "found an incorrect leading UTF-8 octet".toList
  | badTailOctet => "found an incorrect trailing UTF-8 octet".toList
  | zeroIndent => "found an indentation indicator equal to 0".toList
  | tabIndent => "found a tab character where an indentation space is expected".toList
  | documentMarkInside => "found unexpected document indicator".toList
  | endInside => "found unexpected end of stream".toList
  | unknownEscape => "found unknown escape character".toList
  | badEscape => "did not find expected hexdecimal number".toList
  | noCharacter => "found invalid Unicode character escape code".toList
  | unexpectedColon => "found unexpected ':'".toList
  | tabInPlain => "found a tab character that violates indentation".toList
  | noDocumentStart => "did not find expected <document start>".toList
  | secondVersion => "found duplicate %YAML directive".toList
  | foreignVersion => "found incompatible YAML document".toList
  | secondPair => "found duplicate %TAG directive".toList
  | unknownHandle => "found undefined tag handle".toList
  | noContent => "did not find expected node content".toList
  | noHyphen => "did not find expected '-' indicator".toList
  | noKey => "did not find expected key".toList
  | openSequence => "did not find expected ',' or ']'".toList
  | openMapping => "did not find expected ',' or '\x7d'".toList

structure Malformed where
  problem : Problem
  mark : Mark
  context : Option (Construct × Mark) := none
  deriving Repr, DecidableEq

def Malformed.message (m : Malformed) : Text :=
  m.problem.text ++ m.mark.shown ++
    match m.context with
    | none => []
    | some (c, start) =>
      ", ".toList ++ c.text ++ if start.sameSpot m.mark then [] else start.shown

end TraceHeaders.Settings.Yaml
