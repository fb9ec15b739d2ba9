import Refetch.Url.Idna
import Refetch.Url.ParseError
import Refetch.Url.Percent
/-!
# Hosts

The host of a URL is a name, an IPv4 address or an IPv6 address. A name that ends in a number is an
IPv4 address; its parts may be decimal, octal or hexadecimal, and the last part fills what the
others leave. An IPv6 address stands in brackets.
-/

namespace Refetch.Url

inductive Host
  | domain (name : String)
  | ipv4 (address : Nat)
  | ipv6 (pieces : List Nat)
  deriving Repr, DecidableEq

namespace Host

/-! ## Numbers -/

def digitOf? (base : Nat) (c : Char) : Option Nat :=
  match Text.Hex.value? c with
  | some v => if v < base then some v else none
  | none => none

def numberOf? (base acc : Nat) : List Char → Option Nat
  | [] => some acc
  | c :: rest => do numberOf? base (acc * base + (← digitOf? base c)) rest

/-- A part of an IPv4 address; `0x` alone is zero. -/
def part? : List Char → Option Nat
  | [] => none
  | '0' :: 'x' :: rest => numberOf? 16 0 rest
  | '0' :: 'X' :: rest => numberOf? 16 0 rest
  | '0' :: c :: rest => numberOf? 8 0 (c :: rest)
  | cs => numberOf? 10 0 cs

/-! ## IPv4 -/

/-- The labels, without an empty one at the end. -/
def addressParts (cs : List Char) : List (List Char) :=
  let parts := Idna.labels cs
  if 1 < parts.length && parts.getLast? == some [] then parts.dropLast else parts

def endsInNumber (cs : List Char) : Bool :=
  match (addressParts cs).getLast? with
  | none => false
  | some last => (!last.isEmpty && last.all Char.isDigit) || (part? last).isSome

/-- The last part fills the bytes that the others leave; each of the others is one byte. -/
def joinParts (acc : Nat) : List Nat → Nat → Option Nat
  | [], _ => none
  | [last], free => if last < 1 <<< (8 * free) then some ((acc <<< (8 * free)) + last) else none
  | n :: rest, free => if n < 256 then joinParts (acc * 256 + n) rest (free - 1) else none

def ipv4? (cs : List Char) : Option Nat := do
  let numbers ← (addressParts cs).mapM part?
  if numbers.length ≤ 4 then joinParts 0 numbers 4 else none

/-! ## IPv6 -/

/-- Splits at colons. -/
def groups : List Char → List (List Char)
  | [] => [[]]
  | c :: rest =>
    if c = ':' then [] :: groups rest
    else
      match groups rest with
      | [] => [[c]]
      | g :: gs => (c :: g) :: gs

/-- A piece of one to four digits. -/
def piece? (g : List Char) : Option Nat :=
  if 1 ≤ g.length ∧ g.length ≤ 4 then numberOf? 16 0 g else none

/-- A decimal byte without needless zeros. -/
def byte? (cs : List Char) : Option Nat := do
  guard (1 ≤ cs.length ∧ cs.length ≤ 3 ∧ ¬ (1 < cs.length ∧ cs.head? = some '0'))
  let n ← numberOf? 10 0 cs
  guard (n < 256)
  pure n

/-- The pieces that the last group stands for: it may be four decimal bytes. -/
def lastPieces? (g : List Char) : Option (List Nat) :=
  if g.contains '.' then
    match (Idna.labels g).mapM byte? with
    | some [a, b, c, d] => some [a * 256 + b, c * 256 + d]
    | _ => none
  else (piece? g).map fun n => [n]

def piecesOf? : List (List Char) → Option (List Nat)
  | [] => some []
  | [g] => lastPieces? g
  | g :: gs => do pure ((← piece? g) :: (← piecesOf? gs))

/-- The text before and after the first pair of colons. -/
def splitGap : List Char → Option (List Char × List Char)
  | ':' :: ':' :: rest => some ([], rest)
  | c :: rest => (splitGap rest).map fun (l, r) => (c :: l, r)
  | [] => none

def groupsOf (cs : List Char) : List (List Char) := if cs.isEmpty then [] else groups cs

def ipv6? (cs : List Char) : Option (List Nat) :=
  match splitGap cs with
  | none => do
    let ps ← piecesOf? (groups cs)
    guard (ps.length = 8)
    pure ps
  | some (l, r) => do
    let left ← (groupsOf l).mapM piece?
    let right ← piecesOf? (groupsOf r)
    guard (left.length + right.length ≤ 7)
    pure (left ++ List.replicate (8 - left.length - right.length) 0 ++ right)

/-- The length of the run of zeros at the start. -/
def zeroRun : List Nat → Nat
  | 0 :: rest => zeroRun rest + 1
  | _ => 0

/-- Place and length of the first longest run of zeros. -/
def longestGap (place : Nat) : List Nat → Nat × Nat
  | [] => (place, 0)
  | n :: rest =>
    let here := zeroRun (n :: rest)
    let (p, k) := longestGap (place + 1) rest
    if here ≠ 0 ∧ k ≤ here then (place, here) else (p, k)

def renderPieces (ps : List Nat) : String := ":".intercalate (ps.map Text.Hex.ofNat)

/-- The longest gap of two zeros or more is left out. -/
def renderIpv6 (ps : List Nat) : String :=
  let (p, k) := longestGap 0 ps
  if k < 2 then renderPieces ps
  else renderPieces (ps.take p) ++ "::" ++ renderPieces (ps.drop (p + k))

def renderIpv4 (n : Nat) : String :=
  ".".intercalate ([n / 16777216 % 256, n / 65536 % 256, n / 256 % 256, n % 256].map toString)

def render : Host → String
  | domain name => name
  | ipv4 n => renderIpv4 n
  | ipv6 ps => "[" ++ renderIpv6 ps ++ "]"

/-! ## Reading -/

def bracketed? (cs : List Char) : Except ParseError Host :=
  if cs.getLast? = some ']' then
    match ipv6? (cs.drop 1).dropLast with
    | some ps => .ok (.ipv6 ps)
    | none => .error .ipv6
  else .error .ipv6

/-- The host of a URL with a special scheme. -/
def parse (cs : List Char) : Except ParseError Host :=
  if cs.head? = some '[' then bracketed? cs
  else
    match Text.Utf8.decodeChars (Percent.decodeBytes (Text.Utf8.encodeChars cs)) with
    | .error _ => .error .idna
    | .ok decoded =>
      match Idna.toAscii decoded with
      | none => .error .idna
      | some [] => .error .emptyHost
      | some name =>
        if endsInNumber name then
          match ipv4? name with
          | some n => .ok (.ipv4 n)
          | none => .error .ipv4
        else .ok (.domain (String.ofList name))

/-- The host of any other URL. -/
def parseOpaque (cs : List Char) : Except ParseError Host :=
  if cs.head? = some '[' then bracketed? cs
  else if cs.any fun c => c.toNat == 0 || "\t\n\r #/:<>?@[\\]^|".toList.contains c then
    .error .domainCharacter
  else .ok (.domain (String.ofList (Percent.encode Percent.controls cs)))

end Host

end Refetch.Url
