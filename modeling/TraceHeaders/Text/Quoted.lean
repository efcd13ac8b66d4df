import TraceHeaders.Text.Numeral
import TraceHeaders.Text.Printable

namespace TraceHeaders.Text

def quotedChar (c : Char) : Text :=
  if c = '"' then ['\\', '"']
  else if c = '\\' then ['\\', '\\']
  else if c = '\n' then ['\\', 'n']
  else if c = '\r' then ['\\', 'r']
  else if c = '\t' then ['\\', 't']
  else if c = '\x00' then ['\\', '0']
  else if isPrintable c then [c]
  else ['\\', 'u', '\x7b'] ++ hexPlain c.toNat ++ ['\x7d']

def quoted (t : Text) : Text := ['"'] ++ t.flatMap quotedChar ++ ['"']

end TraceHeaders.Text
