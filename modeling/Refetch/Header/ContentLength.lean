import Refetch.Header.List
import Refetch.Text.Blank
/-!
# The declared length of a body

The first `Content-Length` value, without blanks around it: digits, after a plus sign if one is
there, of a number below 2^64. Anything else counts as unknown, which differs from zero.
-/

namespace Refetch

/-- Numbers from here on do not fit into 64 bits. -/
def lengthLimit : Nat := 1 <<< 64

/-- Reads digits after those that gave `acc`; none if a character is no digit or the number grows to
the limit. -/
def readDigits (acc : Nat) : List Char → Option Nat
  | [] => some acc
  | c :: rest =>
    if c.isDigit then
      let n := acc * 10 + (c.toNat - '0'.toNat)
      if n < lengthLimit then readDigits n rest else none
    else none

def readLength : List Char → Option Nat
  | [] => none
  | '+' :: [] => none
  | '+' :: rest => readDigits 0 rest
  | cs => readDigits 0 cs

def HeaderList.contentLength? (h : HeaderList) : Option Nat :=
  (h.get? "content-length").bind fun v => readLength (Text.trimChars v.toList)

end Refetch
