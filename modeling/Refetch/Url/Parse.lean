import Refetch.Url.Basic
/-!
# Reading URLs

A text is read in the manner of browsers (the URL Standard): control characters and spaces at the
ends are dropped, tabs and line breaks everywhere. Then come scheme, authority, path, query and
fragment, each written in its own form as soon as it is read.

Special schemes take a backslash for a slash and must have a host. The path resolves `.` and `..`
as it goes; a segment that looks like a drive letter is not removed by `..`.
-/

namespace Refetch.Url

/-- Trims controls and spaces, and drops tabs and line breaks. -/
def clean (cs : List Char) : List Char :=
  let isEdge : Char → Bool := fun c => c.toNat ≤ 0x20
  (((cs.dropWhile isEdge).reverse.dropWhile isEdge).reverse).filter fun c =>
    c != '\t' && c != '\n' && c != '\r'

def isSchemeChar (c : Char) : Bool := c.isAlphanum || c == '+' || c == '-' || c == '.'

/-- The scheme in lowercase, and what follows its colon. -/
def splitScheme (cs : List Char) : Option (String × List Char) :=
  match cs with
  | [] => none
  | c :: _ =>
    if c.isAlpha then
      match cs.dropWhile isSchemeChar with
      | ':' :: rest => some (String.ofList ((cs.takeWhile isSchemeChar).map Char.toLower), rest)
      | _ => none
    else none

/-! ## Authority -/

/-- A character that ends the authority. -/
def endsAuthority (special : Bool) (c : Char) : Bool :=
  c == '/' || c == '?' || c == '#' || (special && c == '\\')

def splitAuthority (special : Bool) (cs : List Char) : List Char × List Char :=
  (cs.takeWhile fun c => !endsAuthority special c, cs.dropWhile fun c => !endsAuthority special c)

/-- The text before and after the last at sign. -/
def splitUserInfo (authority : List Char) : Option (List Char) × List Char :=
  let tail := (authority.reverse.takeWhile (· != '@')).reverse
  if tail.length = authority.length then (none, authority)
  else (some (authority.take (authority.length - tail.length - 1)), tail)

/-- User name and password, escaped; an empty password is none. -/
def readUserInfo (cs : List Char) : String × Option String :=
  let encode := fun cs => String.ofList (Percent.encode Percent.userInfo cs)
  match cs.dropWhile (· != ':') with
  | ':' :: c :: rest => (encode (cs.takeWhile (· != ':')), some (encode (c :: rest)))
  | _ => (encode (cs.takeWhile (· != ':')), none)

/-- The host ends at a colon outside of brackets. -/
def splitHost (inside : Bool) : List Char → List Char × List Char
  | [] => ([], [])
  | c :: rest =>
    if c = ':' ∧ !inside then ([], c :: rest)
    else
      let inside := if c = '[' then true else if c = ']' then false else inside
      let (h, r) := splitHost inside rest
      (c :: h, r)

/-- A port below 2^16; the scheme's own port is left out. A backslash ends it, whatever the
scheme. -/
def readPort (scheme : String) (cs : List Char) : Except ParseError (Option Nat × List Char) :=
  let digits := cs.takeWhile Char.isDigit
  let rest := cs.dropWhile Char.isDigit
  let n := digits.foldl (fun n c => n * 10 + (c.toNat - '0'.toNat)) 0
  if 65535 < n then .error .port
  else
    match rest with
    | c :: _ =>
      if c = '\\' then
        .ok (if digits.isEmpty ∨ some n = defaultPort? scheme then none else some n, rest)
      else .error .port
    | [] => .ok (if digits.isEmpty ∨ some n = defaultPort? scheme then none else some n, [])

structure Authority where
  username : String
  password : Option String
  host : Host
  port : Option Nat
  /-- What the port left over; it belongs to the path. -/
  rest : List Char

/-- The at sign of an empty user name must be followed by a host, unless nothing follows at all. -/
def readAuthority (scheme : String) (authority after : List Char) :
    Except ParseError Authority := do
  let special := isSpecialScheme scheme
  let (info, hostText) := splitUserInfo authority
  if info = some [] ∧ hostText = [] ∧ after ≠ [] then throw .emptyHost
  let (username, password) := readUserInfo (info.getD [])
  let (name, portText) := splitHost false hostText
  if special ∧ name = [] then throw .emptyHost
  let host ← if special then Host.parse name else Host.parseOpaque name
  if host = .domain "" ∧ (portText ≠ [] ∨ username ≠ "" ∨ password.isSome) then throw .emptyHost
  let (port, rest) ←
    match portText with
    | ':' :: digits => readPort scheme digits
    | other => pure (none, other)
  pure ⟨username, password, host, port, rest⟩

/-! ## Path -/

def isSingleDot (s : List Char) : Bool :=
  s == ['.'] || s.map Char.toLower == "%2e".toList

def isDoubleDot (s : List Char) : Bool :=
  ["..", ".%2e", "%2e.", "%2e%2e"].any fun t => s.map Char.toLower == t.toList

/-- A letter and a colon or a bar. -/
def isDriveLetter (s : List Char) : Bool :=
  match s with
  | [c, d] => c.isAlpha && (d == ':' || d == '|')
  | _ => false

/-- Takes off the last segment, unless it looks like a drive letter. -/
def shorten (segments : List (List Char)) : List (List Char) :=
  match segments.getLast? with
  | some s => if isDriveLetter s then segments else segments.dropLast
  | none => []

/-- Adds one segment of the text; `last` if no slash follows it. -/
def addSegment (file : Bool) (segments : List (List Char)) (s : List Char) (last : Bool) :
    List (List Char) :=
  if isDoubleDot s then
    let shorter := shorten segments
    if last then shorter ++ [[]] else shorter
  else if isSingleDot s then
    if last then segments ++ [[]] else segments
  else if file && segments.isEmpty && isDriveLetter s then segments ++ [s.take 1 ++ [':']]
  else segments ++ [s]

/-- Splits at slashes. -/
def splitSegments (special : Bool) : List Char → List (List Char)
  | [] => [[]]
  | c :: rest =>
    if c = '/' ∨ (special ∧ c = '\\') then [] :: splitSegments special rest
    else
      match splitSegments special rest with
      | [] => [[c]]
      | s :: ss => (c :: s) :: ss

def resolveSegments (file : Bool) (segments : List (List Char)) :
    List (List Char) → List (List Char)
  | [] => segments
  | [s] => addSegment file segments s true
  | s :: rest => resolveSegments file (addSegment file segments s false) rest

/-- The segments of a path text without its leading slash. -/
def readSegments (special file : Bool) (start : List (List Char)) (cs : List Char) :
    List (List Char) :=
  resolveSegments file start
    ((splitSegments special cs).map (Percent.encode Percent.path))

def isSlash (special : Bool) (c : Char) : Bool := c == '/' || (special && c == '\\')

/-- Drops a slash at the start. -/
def dropSlash (special : Bool) : List Char → List Char
  | [] => []
  | c :: rest => if isSlash special c then rest else c :: rest

/-- Drops the empty segments at the start; one segment always stays. -/
def dropEmptySegments : List (List Char) → List (List Char)
  | [] => [[]]
  | [] :: s :: rest => dropEmptySegments (s :: rest)
  | s :: rest => s :: rest

def pathOfSegments (ss : List (List Char)) : Path := .segments (ss.map String.ofList)

/-! ## Query and fragment -/

structure Tail where
  query : Option String
  fragment : Option String

/-- Splits off query and fragment. -/
def splitTail (special : Bool) (cs : List Char) : List Char × Tail :=
  let path := cs.takeWhile fun c => c != '?' && c != '#'
  let encode := fun (s : Percent.EscapeSet) cs => String.ofList (Percent.encode s cs)
  let fragmentOf : List Char → Option String := fun cs =>
    match cs with
    | '#' :: rest => some (encode Percent.fragment rest)
    | _ => none
  let set := if special then Percent.specialQuery else Percent.query
  match cs.dropWhile fun c => c != '?' && c != '#' with
  | '?' :: rest =>
    (path, ⟨some (encode set (rest.takeWhile (· != '#'))), fragmentOf (rest.dropWhile (· != '#'))⟩)
  | other => (path, ⟨none, fragmentOf other⟩)

/-! ## The whole -/

/-- A URL with an authority. -/
def readWithAuthority (scheme : String) (cs : List Char) : Except ParseError Url := do
  let special := isSpecialScheme scheme
  let (authority, after) := splitAuthority special cs
  let a ← readAuthority scheme authority after
  let (path, tail) := splitTail special (a.rest ++ after)
  let segments :=
    if path.isEmpty && !special then [] else readSegments special false [] (dropSlash special path)
  pure ⟨scheme, a.username, a.password, some a.host, a.port, pathOfSegments segments,
    tail.query, tail.fragment⟩

/-- A URL of some other scheme without an authority. -/
def readWithoutAuthority (scheme : String) (cs : List Char) : Url :=
  let (path, tail) := splitTail false cs
  let p := match path with
    | '/' :: rest => pathOfSegments (readSegments false false [] rest)
    | _ => .opaqueText (String.ofList (Percent.encode Percent.controls path))
  ⟨scheme, "", none, none, none, p, tail.query, tail.fragment⟩

def fileUrl (host : Host) (segments : List (List Char)) (tail : Tail) : Url :=
  ⟨"file", "", none, some host, none, pathOfSegments (dropEmptySegments segments),
    tail.query, tail.fragment⟩

/-- The segments hold a drive letter in the first place, which takes the place of a host. -/
def startsWithDrive (segments : List (List Char)) : Bool :=
  (segments.head?.map isDriveLetter).getD false

/-- A file URL whose text goes on with two slashes. Without a host, the path keeps its slash as an
empty first segment until the end. -/
def readFileHost (cs : List Char) : Except ParseError Url := do
  let name := cs.takeWhile fun c => !endsAuthority true c
  if isDriveLetter name then
    let (path, tail) := splitTail true cs
    pure (fileUrl (.domain "") (readSegments true true [] path) tail)
  else
    let (path, tail) := splitTail true (cs.dropWhile fun c => !endsAuthority true c)
    let host ← if name = [] then pure (.domain "") else Host.parse name
    if host = .domain "" ∨ host = .domain "localhost" then
      pure (fileUrl (.domain "") (readSegments true true [] path) tail)
    else
      let segments := readSegments true true [] (dropSlash true path)
      pure (fileUrl (if startsWithDrive segments then .domain "" else host) segments tail)

def readFile (cs : List Char) : Except ParseError Url :=
  match cs with
  | c :: d :: rest =>
    if isSlash true c && isSlash true d then readFileHost rest
    else
      let (path, tail) := splitTail true cs
      pure (fileUrl (.domain "") (readSegments true true [] (dropSlash true path)) tail)
  | _ =>
    let (path, tail) := splitTail true cs
    pure (fileUrl (.domain "") (readSegments true true [] (dropSlash true path)) tail)

def readScheme (scheme : String) (cs : List Char) : Except ParseError Url :=
  if scheme = "file" then readFile cs
  else if isSpecialScheme scheme then readWithAuthority scheme (cs.dropWhile (isSlash true))
  else
    match cs with
    | '/' :: '/' :: rest => readWithAuthority scheme rest
    | _ => pure (readWithoutAuthority scheme cs)

/-- Reads a URL that stands on its own. -/
def parse (text : String) : Except ParseError Url :=
  match splitScheme (clean text.toList) with
  | none => .error .relativeWithoutBase
  | some (scheme, rest) => readScheme scheme rest

end Refetch.Url
