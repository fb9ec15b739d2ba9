import Refetch.Text.Quoted
/-!
# Inspection

The text that shows a value with its structure: records with named fields, optional values, lists
and pairs. Strings inside are quoted.
-/

namespace Refetch.Text.Inspect

/-- A record with its fields in the order given. -/
def record (name : String) (fields : List (String × String)) : String :=
  name ++ " \x7b " ++ ", ".intercalate (fields.map fun f => f.1 ++ ": " ++ f.2) ++ " \x7d"

def option {α : Type} (inspect : α → String) : Option α → String
  | some a => "Some(" ++ inspect a ++ ")"
  | none => "None"

def list {α : Type} (inspect : α → String) (xs : List α) : String :=
  "[" ++ ", ".intercalate (xs.map inspect) ++ "]"

def pair (a b : String) : String := "(" ++ a ++ ", " ++ b ++ ")"

def bool : Bool → String
  | true => "true"
  | false => "false"

def nat (n : Nat) : String := String.ofList (Nat.toDigits 10 n)

end Refetch.Text.Inspect
