import Refetch.Text.Hex
import Refetch.Text.Printable
/-!
# Quoted text

Text between double quotes, in which quotes, backslashes and characters that would not show are
written as escapes.
-/

namespace Refetch.Text

/-- The code point in hexadecimal, between braces. -/
def escapeCode (c : Char) : List Char :=
  ['\\', 'u', '{'] ++ Nat.toDigits 16 c.toNat ++ ['}']

def escapeChar (c : Char) : List Char :=
  if c = '"' then ['\\', '"']
  else if c = '\\' then ['\\', '\\']
  else if c = '\n' then ['\\', 'n']
  else if c = '\r' then ['\\', 'r']
  else if c = '\t' then ['\\', 't']
  else if c.toNat = 0 then ['\\', '0']
  else if extendsGrapheme c then escapeCode c
  else if isPrintable c then [c]
  else escapeCode c

def quoted (s : String) : String :=
  String.ofList ('"' :: s.toList.flatMap escapeChar ++ ['"'])

end Refetch.Text
