import Refetch.Io.Error
/-!
# Paths

A path is a text of names with slashes between them. Repeated slashes count as one. The names `.`
and `..` are kept; what they mean depends on the directories that a walk comes through.
-/

namespace Refetch.Storage

/-- Splits at slashes; empty names are left out. -/
def splitNames : List Char → List Char → List String
  | acc, [] => if acc.isEmpty then [] else [String.ofList acc.reverse]
  | acc, c :: rest =>
    if c = '/' then
      if acc.isEmpty then splitNames [] rest else String.ofList acc.reverse :: splitNames [] rest
    else splitNames (c :: acc) rest

structure Path where
  absolute : Bool
  names : List String
  /-- A slash follows the last name. -/
  slash : Bool
  deriving Repr, DecidableEq

namespace Path

/-- The path that a text writes. -/
def ofText (text : String) : Path :=
  let cs := text.toList
  { absolute := cs.head? == some '/'
    names := splitNames [] cs
    slash := cs.getLast? == some '/' }

/-- The directory that every relative path starts from. -/
def here : Path := ⟨false, ["."], false⟩

/-- The path that a name list below the root writes. -/
def ofLocation (names : List String) : Path := ⟨true, names, false⟩

/-- Drops dots at the end; the first name stays. -/
def dropDots (names : List String) : List String :=
  match names with
  | [] => []
  | n :: rest => n :: (rest.reverse.dropWhile (· == ".")).reverse

/-- The path without its last name; none for the root and the empty path. -/
def parent? (p : Path) : Option Path :=
  match dropDots p.names with
  | [] => none
  | n :: rest => some ⟨p.absolute, (n :: rest).dropLast, false⟩

theorem dropDots_length_le (names : List String) : (dropDots names).length ≤ names.length := by
  cases names with
  | nil => exact Nat.le_refl _
  | cons n rest =>
    simp only [dropDots, List.length_cons, List.length_reverse]
    have := (List.dropWhile_sublist (· == ".") (l := rest.reverse)).length_le
    simp only [List.length_reverse] at this
    omega

theorem parent?_lt {p q : Path} (h : p.parent? = some q) : q.names.length < p.names.length := by
  unfold parent? at h
  have := dropDots_length_le p.names
  split at h
  · contradiction
  · rename_i n rest e
    cases h
    simp only [List.length_dropLast, List.length_cons]
    rw [e] at this
    simp only [List.length_cons] at this
    omega

/-- It names nothing at all. -/
def isEmpty (p : Path) : Bool := !p.absolute && p.names.isEmpty

/-- The directory that holds what the path names. -/
def directory (p : Path) : Path :=
  match p.parent? with
  | some q => if q.isEmpty then here else q
  | none => here

/-- The text of a path inside a directory given by its text. -/
def join (directory name : String) : String :=
  if directory.isEmpty ∨ directory.toList.getLast? = some '/' then directory ++ name
  else directory ++ "/" ++ name

end Path

end Refetch.Storage
