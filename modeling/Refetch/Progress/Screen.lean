import Refetch.Text.Blank
import Refetch.Text.Columns
/-!
# Screens

What a terminal with some rows and columns shows of a list of lines. A line that is too long goes on
in the next row, and a line for which there are too few rows left ends the list.
-/

namespace Refetch.Progress.Screen

/-- The rows that a line takes up. -/
def height (width : Nat) (line : List Char) : Nat :=
  max 1 ((Text.columns line + width - 1) / width)

/-- The lines that fit into so many rows. -/
def fitting (width : Nat) : Nat → List (List Char) → List (List Char)
  | _, [] => []
  | rows, line :: rest =>
    if height width line ≤ rows then line :: fitting width (rows - height width line) rest else []

/-- Breaks a line into rows; `used` columns of the row under way, given in reverse, are taken. -/
def wrapFrom (width used : Nat) (row : List Char) : List Char → List (List Char)
  | [] => [row.reverse]
  | c :: rest =>
    let n := Text.charColumns c
    if width < used + n then row.reverse :: wrapFrom width n [c] rest
    else wrapFrom width (used + n) (c :: row) rest

def wrap (width : Nat) (line : List Char) : List (List Char) := wrapFrom width 0 [] line

def trimEnd (row : List Char) : List Char := (row.reverse.dropWhile Text.isBlank).reverse

/-- The text of a screen, without blanks at the ends of rows and without empty rows at the end. -/
def render (width rows : Nat) (lines : List (List Char)) : String :=
  let shown := ((fitting width rows lines).flatMap (wrap width)).map trimEnd
  "\n".intercalate ((shown.reverse.dropWhile List.isEmpty).reverse.map String.ofList)

end Refetch.Progress.Screen
