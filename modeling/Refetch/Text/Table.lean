/-!
# Tables written as text

A table is a text of hexadecimal numbers with blanks between them, read into rows.
-/

namespace Refetch.Text.Table

def digitValue (c : Char) : Nat :=
  if c.isDigit then c.toNat - '0'.toNat else c.toNat - 'A'.toNat + 10

/-- Reads numbers; the digits of one may be under way. -/
def numbersFrom (pending : Option Nat) : List Char → List Nat
  | [] => pending.toList
  | c :: rest =>
    if c = ' ' ∨ c = '\n' then pending.toList ++ numbersFrom none rest
    else numbersFrom (some (pending.getD 0 * 16 + digitValue c)) rest

/-- The numbers of a text. -/
def numbers (text : String) : List Nat := numbersFrom none text.toList

def triples : List Nat → List (Nat × Nat × Nat)
  | a :: b :: c :: rest => (a, b, c) :: triples rest
  | _ => []

/-- Rows of a key, a count, and as many numbers. -/
def rows : List Nat → List (Nat × List Nat)
  | key :: count :: rest => (key, rest.take count) :: rows (rest.drop count)
  | _ => []
termination_by xs => xs.length
decreasing_by simp only [List.length_drop, List.length_cons]; omega

end Refetch.Text.Table
