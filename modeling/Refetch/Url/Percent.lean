import Refetch.Text.Hex
import Refetch.Text.Utf8
/-!
# Percent-encoding

Characters that a part of a URL cannot hold are written as the bytes of their UTF-8 form, each byte
as a percent sign and two digits. Decoding leaves a percent sign alone that no two digits follow.
-/

namespace Refetch.Url.Percent

/-- The bytes that must be written as escapes. -/
abbrev EscapeSet := UInt8 → Bool

/-- Control bytes and all bytes beyond ASCII. -/
def controls : EscapeSet := fun b => b < 0x20 || 0x7E < b

def EscapeSet.with (s : EscapeSet) (extra : String) : EscapeSet :=
  fun b => s b || (Text.Utf8.encode extra).contains b

def fragment : EscapeSet := EscapeSet.with controls " \"<>\x60"

def path : EscapeSet := fragment.with "#?\x7b\x7d"

def userInfo : EscapeSet := path.with "/:;=@[\\]^|"

def query : EscapeSet := EscapeSet.with controls " \"#<>"

/-- The query of a URL with a special scheme. -/
def specialQuery : EscapeSet := query.with "'"

/-- The uppercase digit. -/
def digit (n : Nat) : Char :=
  if n < 10 then Char.ofNat ('0'.toNat + n) else Char.ofNat ('A'.toNat + (n - 10))

def escape (b : UInt8) : List Char := ['%', digit (b.toNat / 16), digit (b.toNat % 16)]

def encodeByte (s : EscapeSet) (b : UInt8) : List Char :=
  if s b then escape b else [Char.ofNat b.toNat]

def encodeChar (s : EscapeSet) (c : Char) : List Char :=
  (String.utf8EncodeChar c).flatMap (encodeByte s)

def encode (s : EscapeSet) (cs : List Char) : List Char := cs.flatMap (encodeChar s)

/-- The value of a hexadecimal digit given as a byte. -/
def value? (b : UInt8) : Option Nat := Text.Hex.value? (Char.ofNat b.toNat)

/-- Replaces every escape by its byte. -/
def decodeBytes : Bytes → Bytes
  | 0x25 :: a :: b :: rest =>
    match value? a, value? b with
    | some x, some y => UInt8.ofNat (x * 16 + y) :: decodeBytes rest
    | _, _ => 0x25 :: decodeBytes (a :: b :: rest)
  | b :: rest => b :: decodeBytes rest
  | [] => []

def decode (s : String) : Bytes := decodeBytes (Text.Utf8.encode s)

end Refetch.Url.Percent
