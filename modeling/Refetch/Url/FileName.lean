import Refetch.Error
import Refetch.Text.Blank
import Refetch.Url.Parse
/-!
# The file name in a URL

The last path segment, percent-decoded, names a file. Separators and control characters in it become
underscores and blanks around it are dropped, so that it names a direct child of any directory.
-/

namespace Refetch.Url

/-- The general category `Cc`. -/
def isControl (c : Char) : Bool := c.toNat < 0x20 || (0x7F ≤ c.toNat && c.toNat ≤ 0x9F)

def plainChar (c : Char) : Char :=
  if c = '/' ∨ c = '\\' then '_' else if isControl c then '_' else c

/-- A name of one plain path component, if something usable is left of the text. -/
def plainName? (cs : List Char) : Option (List Char) :=
  let name := Text.trimChars (cs.map plainChar)
  if name = [] ∨ name = ['.'] ∨ name = ['.', '.'] then none else some name

def fileName (u : Url) : Except UrlFault String :=
  match u.pathSegments? with
  | none => .error (.noPath u.render)
  | some segments =>
    match segments.getLast? with
    | none | some "" => .error (.noFileName u.render)
    | some segment =>
      match Text.Utf8.decodeChars (Percent.decode segment) with
      | .error fault => .error (.undecodable u.render fault)
      | .ok decoded =>
        match plainName? decoded with
        | none => .error (.unusableFileName u.render)
        | some name => .ok (String.ofList name)

end Refetch.Url
