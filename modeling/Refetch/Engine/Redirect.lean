import Refetch.Header.Wire
import Refetch.Http.Method
import Refetch.Url.Parse
/-!
# Redirection

Some answers tell to ask again, at the URL in their `Location`, which is resolved against the URL
that was asked. The status decides on the method and on whether the body goes along. Headers about a
body go with it, and secrets do not go to another host or port.
-/

namespace Refetch.Redirect

/-! ## References -/

/-- The characters of a reference, percent signs apart. -/
def isReferenceChar (c : Char) : Bool :=
  c.isAlphanum || "-._~:/?#[]@!$&'()*+,;=".toList.contains c

/-- Percent signs come with two hexadecimal digits. -/
def isReference : List Char → Bool
  | [] => true
  | '%' :: a :: b :: rest => Text.Hex.isDigit a && Text.Hex.isDigit b && isReference rest
  | c :: rest => isReferenceChar c && isReference rest

/-- The scheme of a reference and what follows its colon. -/
def splitScheme? (cs : List Char) : Option (List Char × List Char) :=
  let name := cs.takeWhile fun c => c ≠ ':' && c ≠ '/' && c ≠ '?' && c ≠ '#'
  match cs.drop name.length, name with
  | ':' :: rest, c :: _ => if c.isAlpha then some (name, rest) else none
  | _, _ => none

/-- Everything up to the last slash of a path. -/
def directoryText (u : Url) : List Char :=
  (u.path.render.toList.reverse.dropWhile (· ≠ '/')).reverse

/-- The absolute text of a reference, seen from a base. -/
def absoluteText (base : Url) (cs : List Char) : List Char :=
  let origin := (base.scheme ++ ":" ++ base.renderAuthority).toList
  if (splitScheme? cs).isSome then cs
  else
    match cs with
    | '/' :: '/' :: _ => base.scheme.toList ++ ':' :: cs
    | '/' :: _ => origin ++ cs
    | [] | '#' :: _ =>
      origin ++ base.path.render.toList ++ (Url.optional "?" base.query).toList ++ cs
    | '?' :: _ => origin ++ base.path.render.toList ++ cs
    | _ => origin ++ directoryText base ++ cs

/-- The URL that a reference leads to. -/
def resolve? (base : Url) (reference : String) : Option Url :=
  if isReference reference.toList then
    (Url.parse (String.ofList (absoluteText base reference.toList))).toOption
  else none

/-! ## Decisions -/

/-- The next method, and whether the body goes along; none for an answer that is no redirection. -/
def next? (status : Nat) (method : Method) : Option (Method × Bool) :=
  match status with
  | 301 | 302 => some (if method.name = "POST" then (.get, false) else (method, true))
  | 303 => some (if method = .head then .head else .get, false)
  | 307 | 308 => some (method, true)
  | _ => none

/-- Headers that describe a body. -/
def bodyHeaders : List String :=
  ["transfer-encoding", "content-encoding", "content-type", "content-length"]

/-- Headers that only the host they were made for may see. -/
def secretHeaders : List String :=
  ["authorization", "cookie", "cookie2", "proxy-authorization", "www-authenticate"]

def without (names : List String) (h : WireHeaders) : WireHeaders := names.foldl .erase h

def sameOrigin (a b : Url) : Bool :=
  a.host == b.host && a.effectivePort? == b.effectivePort?

def withoutUserInfo (u : Url) : Url := { u with username := "", password := none }

def withoutFragment (u : Url) : Url := { u with fragment := none }

/-- The URL that a request names as the one it comes from. -/
def referer? (source target : Url) : Option String :=
  if source.scheme = "https" ∧ target.scheme = "http" then none
  else some (withoutFragment (withoutUserInfo source)).render

/-- The headers of the request after a redirection. -/
def headers (source target : Url) (keepsBody : Bool) (h : WireHeaders) : WireHeaders :=
  let h := if keepsBody then h else without bodyHeaders h
  let h := if sameOrigin source target then h else without secretHeaders h
  match referer? source target with
  | some r => h.insert "referer" (Text.Utf8.encode r)
  | none => h

end Refetch.Redirect
