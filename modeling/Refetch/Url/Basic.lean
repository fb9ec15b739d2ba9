import Refetch.Text.Inspect
import Refetch.Url.Host
/-!
# URLs

A URL is kept in its parts, each in the form in which it is written. A path is either a list of
segments or, for URLs like `mailto:`, one opaque text.
-/

namespace Refetch

namespace Url

inductive Path
  | opaqueText (text : String)
  | segments (segments : List String)
  deriving Repr, DecidableEq

/-- Schemes with a host and, but for files, a known port. -/
def defaultPort? (scheme : String) : Option Nat :=
  match scheme with
  | "http" | "ws" => some 80
  | "https" | "wss" => some 443
  | "ftp" => some 21
  | _ => none

def isSpecialScheme (scheme : String) : Bool :=
  (defaultPort? scheme).isSome || scheme == "file"

end Url

structure Url where
  scheme : String
  username : String
  password : Option String
  host : Option Url.Host
  /-- The port, if it is not the scheme's own. -/
  port : Option Nat
  path : Url.Path
  query : Option String
  fragment : Option String
  deriving Repr, DecidableEq

namespace Url

def Path.render : Path → String
  | .opaqueText t => t
  | .segments ss => String.join (ss.map fun s => "/" ++ s)

def renderUserInfo (u : Url) : String :=
  match u.password with
  | some p => u.username ++ ":" ++ p ++ "@"
  | none => if u.username.isEmpty then "" else u.username ++ "@"

/-- A path that would read as a host is kept apart by a dot. -/
def renderAuthority (u : Url) : String :=
  match u.host with
  | some h =>
    "//" ++ u.renderUserInfo ++ h.render ++
      (match u.port with | some p => ":" ++ toString p | none => "")
  | none =>
    match u.path with
    | .segments ("" :: _ :: _) => "/."
    | _ => ""

def optional (mark : String) : Option String → String
  | some t => mark ++ t
  | none => ""

def render (u : Url) : String :=
  u.scheme ++ ":" ++ u.renderAuthority ++ u.path.render ++ optional "?" u.query ++
    optional "#" u.fragment

instance : ToString Url := ⟨render⟩

/-- The segments of a path that starts with a slash. -/
def pathSegments? (u : Url) : Option (List String) :=
  match u.path with
  | .segments [] => none
  | .segments ss => some ss
  | .opaqueText _ => none

/-- The port that a connection uses. -/
def effectivePort? (u : Url) : Option Nat := u.port <|> defaultPort? u.scheme

end Url

end Refetch
