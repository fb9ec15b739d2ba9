import Refetch.Digest.Sha2
import Refetch.Error
import Refetch.Text.Blank
import Refetch.Text.Inspect
/-!
# Checksums

A checksum is the digest that a body is expected to have, written in hexadecimal. Its length tells
the kind of digest: 64 digits for SHA-256, 128 for SHA-512.
-/

namespace Refetch.Digest

inductive HashKind
  | sha256
  | sha512
  deriving Repr, DecidableEq

namespace HashKind

def algorithm : HashKind → BlockHash
  | sha256 => Digest.sha256
  | sha512 => Digest.sha512

def name : HashKind → String
  | sha256 => "Sha256"
  | sha512 => "Sha512"

/-- The kind that digits of this number write. -/
def ofDigitCount : Nat → Option HashKind
  | 64 => some sha256
  | 128 => some sha512
  | _ => none

/-- The kind of a digest written in hexadecimal. -/
def detect? (hash : String) : Option HashKind :=
  if hash.toList.all Text.Hex.isDigit then ofDigitCount hash.toList.length else none

/-- The digest of some bytes, in hexadecimal. -/
def hexDigest (kind : HashKind) (bs : Bytes) : String := Text.Hex.encode (kind.algorithm.digest bs)

end HashKind

structure Checksum where
  kind : HashKind
  expected : String
  deriving Repr, DecidableEq

namespace Checksum

def lower (s : String) : String := String.ofList (s.toList.map Char.toLower)

/-- Reads a digest, blanks around it passed over. -/
def parse (hash : String) : Except Error Checksum :=
  let hash := Text.trim hash
  match HashKind.detect? hash with
  | some kind => .ok ⟨kind, lower hash⟩
  | none => .error (.config (.checksumFormat hash))

/-- Compares without regard to the case of ASCII letters. -/
def accepts (c : Checksum) (actual : String) : Bool := lower c.expected == lower actual

def inspect (c : Checksum) : String :=
  Text.Inspect.record "Checksum" [("kind", c.kind.name), ("expected", Text.quoted c.expected)]

end Checksum

end Refetch.Digest
