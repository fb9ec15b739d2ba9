/-!
# Fractions and rounding

Fractions of natural numbers, rounded to the nearest whole number or to a number of significant
bits. Of two numbers that are equally near, the even one is taken.
-/

namespace Refetch

structure Fraction where
  num : Nat
  den : Nat
  deriving Repr, DecidableEq

namespace Fraction

def ofNat (n : Nat) : Fraction := ⟨n, 1⟩

def mul (a b : Fraction) : Fraction := ⟨a.num * b.num, a.den * b.den⟩

def div (a b : Fraction) : Fraction := ⟨a.num * b.den, a.den * b.num⟩

/-- The greatest whole number that is not above the fraction. -/
def floor (a : Fraction) : Nat := a.num / a.den

/-- What is above the whole number below. -/
def part (a : Fraction) : Fraction := ⟨a.num % a.den, a.den⟩

/-- The nearest whole number; a half goes to the even neighbour. -/
def round (a : Fraction) : Nat :=
  let q := a.num / a.den
  let r := a.num % a.den
  if a.den < 2 * r ∨ (2 * r = a.den ∧ q % 2 = 1) then q + 1 else q

/-- The fraction times a power of two. -/
def scale (a : Fraction) (e : Int) : Fraction :=
  if 0 ≤ e then ⟨a.num <<< e.toNat, a.den⟩ else ⟨a.num, a.den <<< (-e).toNat⟩

/-- The exponent at which the fraction has so many bits before the point. -/
def exponent (bits : Nat) (a : Fraction) : Int :=
  let e : Int := bits - 1 - (a.num.log2 - a.den.log2 : Int)
  if (a.scale e).floor < 1 <<< (bits - 1) then e + 1 else e

/-- The nearest number of so many significant bits. -/
def significant (bits : Nat) (a : Fraction) : Fraction :=
  if a.num = 0 ∨ a.den = 0 then ⟨0, 1⟩
  else
    let e := a.exponent bits
    (ofNat (a.scale e).round).scale (-e)

/-- The digits of the fraction with so many places after the point. -/
def fixed (places : Nat) (a : Fraction) : List Char :=
  let unit := Nat.pow 10 places
  let n := (mul a ⟨unit, 1⟩).round
  let whole := Nat.toDigits 10 (n / unit)
  if places = 0 then whole
  else
    let digits := Nat.toDigits 10 (n % unit)
    whole ++ '.' :: List.replicate (places - digits.length) '0' ++ digits

end Fraction

end Refetch
