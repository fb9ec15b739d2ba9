import Refetch.Bytes
/-!
# Hexadecimal text

Bytes are written as two lowercase digits each.
-/

namespace Refetch.Text.Hex

/-- The digits of the two halves of a byte. -/
def digit (n : Nat) : Char :=
  if n < 10 then Char.ofNat ('0'.toNat + n) else Char.ofNat ('a'.toNat + (n - 10))

/-- Reads one digit of either letter case. -/
def value? (c : Char) : Option Nat :=
  if '0' ≤ c ∧ c ≤ '9' then some (c.toNat - '0'.toNat)
  else if 'a' ≤ c ∧ c ≤ 'f' then some (c.toNat - 'a'.toNat + 10)
  else if 'A' ≤ c ∧ c ≤ 'F' then some (c.toNat - 'A'.toNat + 10)
  else none

/-- One of the twenty-two hexadecimal digits. -/
def isDigit (c : Char) : Bool := (value? c).isSome

def encodeByte (b : UInt8) : List Char := [digit (b.toNat / 16), digit (b.toNat % 16)]

def encodeChars (bs : Bytes) : List Char := bs.flatMap encodeByte

def encode (bs : Bytes) : String := String.ofList (encodeChars bs)

/-- Reads pairs of digits; an odd digit or another character makes it fail. -/
def decodeChars : List Char → Option Bytes
  | [] => some []
  | [_] => none
  | a :: b :: rest => do
    let high ← value? a
    let low ← value? b
    let tail ← decodeChars rest
    pure (UInt8.ofNat (high * 16 + low) :: tail)

def decode (s : String) : Option Bytes := decodeChars s.toList

/-- The shortest lowercase spelling of a number. -/
def ofNat (n : Nat) : String := String.ofList (Nat.toDigits 16 n)

end Refetch.Text.Hex
