import HeaderBidding.Decimal.Integer
import HeaderBidding.Text.HiddenData

/-!
# Quoted texts

A quoted text stands in double quotes. Quotes, backslashes and characters that are not seen on
their own are written as escapes, so that the text can be told apart in a diagnostic.
-/

namespace HeaderBidding.Text

/-- A code point as an escape in hexadecimal. -/
def codeEscape (c : Char) : List Char :=
  ['\\', 'u', '{'] ++ Decimal.hexadecimal c.toNat ++ ['}']

/-- A character inside a quoted text. -/
def quotedChar (c : Char) : List Char :=
  if c = '"' then ['\\', '"']
  else if c = '\\' then ['\\', '\\']
  else if c = '\n' then ['\\', 'n']
  else if c = '\r' then ['\\', 'r']
  else if c = '\t' then ['\\', 't']
  else if c = Char.ofNat 0 then ['\\', '0']
  else if hidden.has c then codeEscape c
  else [c]

/-- A text in double quotes. -/
def quoted (s : String) : String :=
  String.ofList ('"' :: s.toList.flatMap quotedChar ++ ['"'])

end HeaderBidding.Text
