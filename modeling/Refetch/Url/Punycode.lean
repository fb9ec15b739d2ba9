/-!
# Punycode

The spelling of text by ASCII letters, digits and hyphens (RFC 3492). The ASCII characters come
first; after a hyphen, numbers of variable length tell where the others are inserted.
-/

namespace Refetch.Url.Punycode

/-- The digits 0 to 35. -/
def digit (n : Nat) : Char :=
  if n < 26 then Char.ofNat ('a'.toNat + n) else Char.ofNat ('0'.toNat + (n - 26))

def value? (c : Char) : Option Nat :=
  if 'a' ≤ c ∧ c ≤ 'z' then some (c.toNat - 'a'.toNat)
  else if 'A' ≤ c ∧ c ≤ 'Z' then some (c.toNat - 'A'.toNat)
  else if '0' ≤ c ∧ c ≤ '9' then some (c.toNat - '0'.toNat + 26)
  else none

/-- The digit values from which on a digit is not the last one; `k` counts by 36. -/
def threshold (bias k : Nat) : Nat :=
  if k ≤ bias then 1 else if bias + 26 ≤ k then 26 else k - bias

theorem threshold_pos (bias k : Nat) : 1 ≤ threshold bias k := by
  unfold threshold; split <;> try split
  all_goals omega

theorem threshold_le (bias k : Nat) : threshold bias k ≤ 26 := by
  unfold threshold; split <;> try split
  all_goals omega

/-- Brings a delta down to a bias; `k` counts by 36. -/
def biasOf (delta k : Nat) : Nat :=
  if 455 < delta then biasOf (delta / 35) (k + 36) else k + 36 * delta / (delta + 38)
termination_by delta

/-- The bias after a delta, which was the `points`-th. -/
def adapt (delta points : Nat) (first : Bool) : Nat :=
  let delta := if first then delta / 700 else delta / 2
  biasOf (delta + delta / points) 0

/-- The digits of a number. -/
def encodeNumber (bias k q : Nat) : List Char :=
  let t := threshold bias k
  if q < t then [digit q]
  else digit (t + (q - t) % (36 - t)) :: encodeNumber bias (k + 36) ((q - t) / (36 - t))
termination_by q
decreasing_by
  have h1 := threshold_pos bias k
  have h2 := threshold_le bias k
  have h3 : (q - threshold bias k) / (36 - threshold bias k) ≤ q - threshold bias k :=
    Nat.div_le_self _ _
  omega

structure Encoder where
  output : List Char
  /-- The code point reached. -/
  point : Nat
  delta : Nat
  bias : Nat
  /-- The number of characters written. -/
  handled : Nat

/-- One character of the text, when those equal to `point` are written. -/
def Encoder.visit (basic : Nat) (e : Encoder) (c : Char) : Encoder :=
  if c.toNat < e.point then { e with delta := e.delta + 1 }
  else if c.toNat = e.point then
    { e with
      output := e.output ++ encodeNumber e.bias 36 e.delta
      bias := adapt e.delta (e.handled + 1) (e.handled == basic)
      delta := 0
      handled := e.handled + 1 }
  else e

/-- Writes all characters equal to `point`. -/
def Encoder.write (basic : Nat) (cs : List Char) (e : Encoder) (point : Nat) : Encoder :=
  let start := { e with
    delta := e.delta + (point - e.point) * (e.handled + 1)
    point := point }
  let done := cs.foldl (visit basic) start
  { done with delta := done.delta + 1, point := point + 1 }

def insertPoint (n : Nat) : List Nat → List Nat
  | [] => [n]
  | m :: rest => if n < m then n :: m :: rest else if n = m then m :: rest else m :: insertPoint n rest

/-- The spelling of a text. -/
def encode (cs : List Char) : List Char :=
  let basic := cs.filter (·.toNat < 0x80)
  let points := ((cs.map Char.toNat).filter (0x80 ≤ ·)).foldr insertPoint []
  let start : Encoder :=
    ⟨if basic.isEmpty then [] else basic ++ ['-'], 0x80, 0, 72, basic.length⟩
  (points.foldl (Encoder.write basic.length cs) start).output

structure Decoder where
  output : List Char
  point : Nat
  /-- Where the next character is inserted. -/
  place : Nat
  bias : Nat
  /-- The number being read: the place at its start, its weight and its digit count by 36. -/
  start : Nat
  weight : Nat
  k : Nat

/-- Numbers beyond 32 bits are refused. -/
def numberLimit : Nat := 1 <<< 32

def Decoder.finishNumber (d : Decoder) : Option Decoder :=
  let size := d.output.length + 1
  let point := d.point + d.place / size
  let place := d.place % size
  if point < 0x110000 ∧ ¬ (0xD800 ≤ point ∧ point < 0xE000) then
    some {
      output := d.output.take place ++ Char.ofNat point :: d.output.drop place
      point := point
      place := place + 1
      bias := adapt (d.place - d.start) size (d.start == 0)
      start := place + 1
      weight := 1
      k := 36 }
  else none

/-- Reads the digits one by one. -/
def Decoder.read (d : Decoder) : List Char → Option (List Char)
  | [] => if d.k = 36 then some d.output else none
  | c :: rest => do
    let v ← value? c
    let place := d.place + v * d.weight
    guard (place < numberLimit)
    let t := threshold d.bias d.k
    if v < t then
      (← finishNumber { d with place := place }).read rest
    else
      let weight := d.weight * (36 - t)
      guard (weight < numberLimit)
      read { d with place := place, weight := weight, k := d.k + 36 } rest

/-- The text before the last hyphen, and what follows it. -/
def splitLast (cs : List Char) : List Char × List Char :=
  let tail := (cs.reverse.takeWhile (· != '-')).reverse
  if tail.length = cs.length then ([], cs) else (cs.take (cs.length - tail.length - 1), tail)

/-- The text of a spelling. -/
def decode (cs : List Char) : Option (List Char) :=
  let (basic, digits) := splitLast cs
  if basic.all (·.toNat < 0x80) then
    Decoder.read ⟨basic, 0x80, 0, 72, 0, 1, 36⟩ digits
  else none

end Refetch.Url.Punycode
