import TraceHeaders.Text.Basic

namespace TraceHeaders.Settings.Yaml

structure Mark where
  index : Nat := 0
  line : Nat := 0
  column : Nat := 0
  deriving Repr, DecidableEq, Inhabited

namespace Mark

def skip (m : Mark) (n : Nat) : Mark := { m with index := m.index + n, column := m.column + n }

def newLine (m : Mark) (n : Nat) : Mark := ⟨m.index + n, m.line + 1, 0⟩

def sameSpot (m n : Mark) : Bool := m.line = n.line && m.column = n.column

end Mark

def isBlankChar (c : Char) : Bool := c = ' ' || c = '\t'

def isBreak (c : Char) : Bool :=
  c = '\r' || c = '\n' || c = '\u0085' || c = '\u2028' || c = '\u2029'

def isGap (c : Char) : Bool := isBlankChar c || isBreak c

def breakText (c : Char) : Text := if c = '\u2028' || c = '\u2029' then [c] else ['\n']

def isWordChar (c : Char) : Bool := c.isAlphanum || c = '_' || c = '-'

def atGap : Text → Bool
  | [] => true
  | c :: _ => isGap c

def atDocumentMark (t : Text) : Bool :=
  ("---".toList.isPrefixOf t || "...".toList.isPrefixOf t) && atGap (t.drop 3)

structure Cursor where
  rest : Text
  mark : Mark := {}
  deriving Repr, DecidableEq, Inhabited

namespace Cursor

def head? (c : Cursor) : Option Char := c.rest.head?

def skip (c : Cursor) (n : Nat) : Cursor := ⟨c.rest.drop n, c.mark.skip n⟩

def skipWhile (p : Char → Bool) (c : Cursor) : Cursor := c.skip (c.rest.takeWhile p).length

def skipBlanks (c : Cursor) : Cursor := c.skipWhile isBlankChar

def skipLineRest (c : Cursor) : Cursor := c.skipWhile fun d => !isBreak d

def skipBreak (c : Cursor) : Cursor :=
  match c.rest with
  | '\r' :: '\n' :: r => ⟨r, c.mark.newLine 2⟩
  | d :: r => if isBreak d then ⟨r, c.mark.newLine 1⟩ else c
  | [] => c

def nextBreak (c : Cursor) : Text :=
  match c.rest with
  | '\r' :: '\n' :: _ => ['\n']
  | d :: _ => if isBreak d then breakText d else []
  | [] => []

def atLineEnd (c : Cursor) : Bool := c.head?.all isBreak

def atGap (c : Cursor) : Bool := Yaml.atGap c.rest

end Cursor

end TraceHeaders.Settings.Yaml
