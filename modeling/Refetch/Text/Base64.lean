import Refetch.Bytes
/-!
# Base64

Three bytes become four characters; a shorter last group is filled up with `=`.
-/

namespace Refetch.Text.Base64

def alphabet : List Char :=
  "ABCDEFGHIJKLMNOPQRSTUVWXYZabcdefghijklmnopqrstuvwxyz0123456789+/".toList

/-- The character for the six low bits. -/
def digit (n : Nat) : Char := alphabet.getD (n % 64) '='

def encodeChars : Bytes → List Char
  | [] => []
  | [a] =>
    let n := a.toNat * 16
    [digit (n / 64), digit n, '=', '=']
  | [a, b] =>
    let n := (a.toNat * 256 + b.toNat) * 4
    [digit (n / 4096), digit (n / 64), digit n, '=']
  | a :: b :: c :: rest =>
    let n := (a.toNat * 256 + b.toNat) * 256 + c.toNat
    digit (n / 262144) :: digit (n / 4096) :: digit (n / 64) :: digit n :: encodeChars rest

def encode (bs : Bytes) : String := String.ofList (encodeChars bs)

end Refetch.Text.Base64
