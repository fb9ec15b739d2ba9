import Refetch.Number.Fraction
/-!
# Amounts of bytes

Below 1024 an amount is written in bytes, above in the greatest binary unit that it reaches, with
two places after the point.
-/

namespace Refetch.Progress

def units : List String := ["Ki", "Mi", "Gi", "Ti", "Pi", "Ei", "Zi", "Yi"]

/-- Divides by 1024 until the number is below that or the units run out. -/
def reduce (a : Fraction) : List String → Fraction × String
  | [] => (a, "")
  | [unit] => (⟨a.num, a.den * 1024⟩, unit)
  | unit :: rest =>
    let b : Fraction := ⟨a.num, a.den * 1024⟩
    if b.floor < 1024 then (b, unit) else reduce b rest

/-- Amounts are known to 53 significant bits. -/
def amount (bytes : Nat) : String :=
  let a := (Fraction.ofNat bytes).significant 53
  if a.floor < 1024 then String.ofList (a.fixed 0) ++ " B"
  else
    let (b, unit) := reduce a units
    String.ofList (b.fixed 2) ++ " " ++ unit ++ "B"

end Refetch.Progress
