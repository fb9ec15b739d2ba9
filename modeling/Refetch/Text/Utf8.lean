import Refetch.Bytes
/-!
# UTF-8

Encoding of text, and decoding in two manners: strict, naming the place and extent of the first
fault, and lossy, where every fault becomes one replacement character.

A fault is a maximal part of the input that begins like a character and cannot go on: it covers the
lead byte and those of the following bytes that the lead byte admits. Input that ends inside a
character is truncated.
-/

namespace Refetch.Text.Utf8

def encodeChars (cs : List Char) : Bytes := cs.flatMap String.utf8EncodeChar

def encode (s : String) : Bytes := encodeChars s.toList

/-- The first character of some bytes, or the reason why there is none. -/
inductive Head
  | char (c : Char) (rest : Bytes)
  | invalid (length : Nat)
  | truncated
  deriving Repr, DecidableEq

def isTail (b : UInt8) : Bool := 0x80 ≤ b && b ≤ 0xBF

/-- The six low bits of a byte. -/
def low6 (b : UInt8) : Nat := b.toNat % 64

/-- A character of two bytes. -/
def headTwo (lead : UInt8) : Bytes → Head
  | [] => .truncated
  | b :: rest =>
    if isTail b then .char (Char.ofNat (lead.toNat % 32 * 64 + low6 b)) rest else .invalid 1

/-- A character of three bytes whose second byte lies between the bounds. -/
def headThree (lead lower upper : UInt8) : Bytes → Head
  | [] => .truncated
  | [b] => if lower ≤ b && b ≤ upper then .truncated else .invalid 1
  | b :: c :: rest =>
    if !(lower ≤ b && b ≤ upper) then .invalid 1
    else if !isTail c then .invalid 2
    else .char (Char.ofNat (lead.toNat % 16 * 4096 + low6 b * 64 + low6 c)) rest

/-- A character of four bytes whose second byte lies between the bounds. -/
def headFour (lead lower upper : UInt8) : Bytes → Head
  | [] => .truncated
  | [b] => if lower ≤ b && b ≤ upper then .truncated else .invalid 1
  | [b, c] =>
    if !(lower ≤ b && b ≤ upper) then .invalid 1
    else if isTail c then .truncated else .invalid 2
  | b :: c :: d :: rest =>
    if !(lower ≤ b && b ≤ upper) then .invalid 1
    else if !isTail c then .invalid 2
    else if !isTail d then .invalid 3
    else .char (Char.ofNat (lead.toNat % 8 * 262144 + low6 b * 4096 + low6 c * 64 + low6 d)) rest

/-- The rows of well-formed sequences, by lead byte. -/
def head (lead : UInt8) (rest : Bytes) : Head :=
  if lead < 0x80 then .char (Char.ofNat lead.toNat) rest
  else if lead < 0xC2 then .invalid 1
  else if lead ≤ 0xDF then headTwo lead rest
  else if lead == 0xE0 then headThree lead 0xA0 0xBF rest
  else if lead == 0xED then headThree lead 0x80 0x9F rest
  else if lead ≤ 0xEF then headThree lead 0x80 0xBF rest
  else if lead == 0xF0 then headFour lead 0x90 0xBF rest
  else if lead ≤ 0xF3 then headFour lead 0x80 0xBF rest
  else if lead == 0xF4 then headFour lead 0x80 0x8F rest
  else .invalid 1

theorem length_of_headTwo {lead : UInt8} {rest rest' : Bytes} {c : Char}
    (h : headTwo lead rest = .char c rest') : rest'.length ≤ rest.length := by
  fun_cases headTwo lead rest <;> grind [headTwo]

theorem length_of_headThree {lead lower upper : UInt8} {rest rest' : Bytes} {c : Char}
    (h : headThree lead lower upper rest = .char c rest') : rest'.length ≤ rest.length := by
  fun_cases headThree lead lower upper rest <;> grind [headThree]

theorem length_of_headFour {lead lower upper : UInt8} {rest rest' : Bytes} {c : Char}
    (h : headFour lead lower upper rest = .char c rest') : rest'.length ≤ rest.length := by
  fun_cases headFour lead lower upper rest <;> grind [headFour]

theorem length_of_head {lead : UInt8} {rest rest' : Bytes} {c : Char}
    (h : head lead rest = .char c rest') : rest'.length ≤ rest.length := by
  unfold head at h
  repeat' split at h
  all_goals first
    | exact length_of_headTwo h
    | exact length_of_headThree h
    | exact length_of_headFour h
    | grind

/-- Where strict decoding stops. -/
inductive Fault
  | invalid (length index : Nat)
  | incomplete (index : Nat)
  deriving Repr, DecidableEq

def Fault.message : Fault → String
  | .invalid length index =>
    "invalid utf-8 sequence of " ++ toString length ++ " bytes from index " ++ toString index
  | .incomplete index => "incomplete utf-8 byte sequence from index " ++ toString index

/-- Strict decoding of bytes that start at `index`. -/
def decodeFrom (index : Nat) : Bytes → Except Fault (List Char)
  | [] => .ok []
  | b :: rest =>
    match h : head b rest with
    | .char c rest' =>
      have := length_of_head h
      match decodeFrom (index + (rest.length + 1 - rest'.length)) rest' with
      | .ok cs => .ok (c :: cs)
      | .error e => .error e
    | .invalid n => .error (.invalid n index)
    | .truncated => .error (.incomplete index)
termination_by bs => bs.length
decreasing_by simp only [List.length_cons]; omega

def decodeChars (bs : Bytes) : Except Fault (List Char) := decodeFrom 0 bs

def decode (bs : Bytes) : Except Fault String := (decodeChars bs).map String.ofList

def replacement : Char := Char.ofNat 0xFFFD

/-- Lossy decoding. -/
def decodeLossyChars : Bytes → List Char
  | [] => []
  | b :: rest =>
    match h : head b rest with
    | .char c rest' =>
      have := length_of_head h
      c :: decodeLossyChars rest'
    | .invalid n => replacement :: decodeLossyChars (rest.drop (n - 1))
    | .truncated => [replacement]
termination_by bs => bs.length
decreasing_by all_goals simp only [List.length_cons, List.length_drop]; omega

def decodeLossy (bs : Bytes) : String := String.ofList (decodeLossyChars bs)

end Refetch.Text.Utf8
