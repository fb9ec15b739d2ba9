import Refetch.Text.Blank
import Refetch.Time.HttpDate
import Refetch.Url.Basic
import Refetch.Url.Percent
/-!
# Cookies

A jar keeps the cookies that answers set. A cookie goes with a request if its domain, its path and
its need for a secure scheme fit the URL and its time is not over.
-/

namespace Refetch

structure Cookie where
  name : String
  value : String
  domain : String
  /-- Only for the very host that set it. -/
  hostOnly : Bool
  path : String
  secure : Bool
  expires : Option Timestamp
  deriving Repr, DecidableEq

abbrev CookieJar := List Cookie

namespace Cookie

def lower (cs : List Char) : List Char := cs.map Char.toLower

/-- The host is the domain or lies below it. An address is below nothing. -/
def domainMatches (host : Url.Host) (domain : String) : Bool :=
  let h := host.render.toList
  let d := domain.toList
  h == d ||
    match host with
    | .domain _ => ('.' :: d).isSuffixOf h
    | _ => false

/-- The path is the cookie's path or lies below it. -/
def pathMatches (path cookiePath : String) : Bool :=
  let p := path.toList
  let c := cookiePath.toList
  c.isPrefixOf p &&
    (p.length == c.length || c.getLast? == some '/' || (p.drop c.length).head? == some '/')

/-- The directory of a URL's path. -/
def defaultPath (u : Url) : String :=
  let dir := (u.path.render.toList.reverse.dropWhile (· ≠ '/')).drop 1
  if dir.isEmpty then "/" else String.ofList dir.reverse

/-- What stands on both sides of the first mark; nothing on the right if there is none. -/
def splitAt (mark : Char) (cs : List Char) : List Char × Option (List Char) :=
  match cs.dropWhile (· ≠ mark) with
  | [] => (cs, none)
  | _ :: rest => (cs.takeWhile (· ≠ mark), some rest)

/-- The pieces between semicolons, as names and values. -/
def attributes (cs : List Char) : List (List Char × List Char) :=
  (cs.splitOn ';').map fun piece =>
    let (name, value) := splitAt '=' piece
    (Text.trimChars name, Text.trimChars (value.getD []))

/-- A number of seconds, with a sign if it is negative. -/
def readSeconds? : List Char → Option Int
  | '-' :: digits => if isNumber digits then some (-(value digits : Int)) else none
  | digits => if isNumber digits then some (value digits : Int) else none
where
  isNumber (cs : List Char) : Bool := !cs.isEmpty && cs.all Char.isDigit
  value (cs : List Char) : Nat := cs.foldl (fun n c => n * 10 + (c.toNat - '0'.toNat)) 0

/-- The last value of an attribute. -/
def attribute? (attrs : List (List Char × List Char)) (name : String) : Option (List Char) :=
  (attrs.reverse.find? fun a => lower a.1 == name.toList).map (·.2)

/-- When the cookie ends: after so many seconds, or else at a date. -/
def endOf (now : Timestamp) (attrs : List (List Char × List Char)) : Option Timestamp :=
  match (attribute? attrs "max-age").bind readSeconds? with
  | some s => some ⟨now.nanos + s * Timestamp.nanosPerSecond⟩
  | none => (attribute? attrs "expires").bind fun v => HttpDate.parse? (String.ofList v)

/-- The domain that the cookie names, without a point in front. -/
def namedDomain? (attrs : List (List Char × List Char)) : Option String :=
  match attribute? attrs "domain" with
  | none | some [] => none
  | some ('.' :: d) => if d.isEmpty then none else some (String.ofList (lower d))
  | some d => some (String.ofList (lower d))

/-- Reads the value of a header field that sets a cookie for a URL. -/
def read? (now : Timestamp) (u : Url) (text : String) : Option Cookie := do
  let host ← u.host
  let (pair, rest) := splitAt ';' text.toList
  let (name, value) := splitAt '=' pair
  let value ← value
  let name := Text.trimChars name
  if name.isEmpty then none
  else
    let attrs := attributes (rest.getD [])
    let path := match attribute? attrs "path" with
      | some ('/' :: p) => String.ofList ('/' :: p)
      | _ => defaultPath u
    let domain := namedDomain? attrs
    if domain.all (domainMatches host) then
      some {
        name := String.ofList name
        value := String.ofList (Text.trimChars value)
        domain := domain.getD host.render
        hostOnly := domain.isNone
        path := path
        secure := (attribute? attrs "secure").isSome
        expires := endOf now attrs }
    else none

def isOver (now : Timestamp) (c : Cookie) : Bool := c.expires.any fun t => decide (t ≤ now)

def goesWith (now : Timestamp) (u : Url) (c : Cookie) : Bool :=
  !c.isOver now && (!c.secure || u.scheme == "https") && pathMatches u.path.render c.path &&
    u.host.any fun h => if c.hostOnly then h.render == c.domain else domainMatches h c.domain

end Cookie

namespace CookieJar

/-- Puts a cookie into the place of one with its name, domain and path. One that is over only takes
the place away. -/
def insert (now : Timestamp) (jar : CookieJar) (c : Cookie) : CookieJar :=
  let others := jar.filter fun d => !(d.name == c.name && d.domain == c.domain && d.path == c.path)
  if c.isOver now then others else others ++ [c]

/-- Takes in what an answer from a URL sets. -/
def update (now : Timestamp) (u : Url) (jar : CookieJar) (fields : List String) : CookieJar :=
  (fields.filterMap (Cookie.read? now u)).foldl (insert now) jar

/-- The header value for a request to a URL. -/
def header? (now : Timestamp) (u : Url) (jar : CookieJar) : Option String :=
  match jar.filter (Cookie.goesWith now u) with
  | [] => none
  | cookies => some ("; ".intercalate (cookies.map fun c => c.name ++ "=" ++ c.value))

end CookieJar

end Refetch
