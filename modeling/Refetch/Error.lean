import Refetch.Io.Error
import Refetch.Text.Quoted
import Refetch.Text.Utf8
import Refetch.Url.ParseError
/-!
# Errors

What can go wrong in a download, by cause, and the text that reports it.

A call ends well, with an error, or in a crash. A crash is what becomes of a call that meets a value
which one of its steps has no answer for.
-/

namespace Refetch

/-- A setting that is missing or does not fit. -/
inductive ConfigFault
  | noUrl
  | noDestination
  | requestWithoutUrl
  | headerName (name : String)
  | headerValue (name : String)
  | method (name : String)
  | bodyMissing (method : String)
  | bodyUnexpected (method : String)
  | checksumFormat (text : String)
  | other (text : String)
  deriving Repr, DecidableEq

def ConfigFault.message : ConfigFault → String
  | noUrl => "no URL configured"
  | noDestination => "no destination configured"
  | requestWithoutUrl => "request has no URL"
  | headerName name => "invalid header name " ++ Text.quoted name ++ ": invalid HTTP header name"
  | headerValue name => "invalid value for header " ++ name ++ ": failed to parse header value"
  | method name => "invalid HTTP method " ++ Text.quoted name
  | bodyMissing m => "method " ++ m ++ " requires a request body"
  | bodyUnexpected m => "method " ++ m ++ " must not have a request body"
  | checksumFormat t => "unrecognized checksum format " ++ Text.quoted t
  | other t => t

/-- A URL that cannot be used; the URL is given as text. -/
inductive UrlFault
  | unparsable (text : String) (cause : Url.ParseError)
  | noPath (url : String)
  | noFileName (url : String)
  | undecodable (url : String) (cause : Text.Utf8.Fault)
  | unusableFileName (url : String)
  | other (text : String)
  deriving Repr, DecidableEq

def UrlFault.message : UrlFault → String
  | unparsable t cause => "The url \"" ++ t ++ "\" cannot be parsed: " ++ cause.message
  | noPath u => "The url \"" ++ u ++ "\" does not contain a valid path"
  | noFileName u => "The url \"" ++ u ++ "\" does not contain a filename"
  | undecodable u cause =>
    "The filename of \"" ++ u ++ "\" is not valid UTF-8: " ++ cause.message
  | unusableFileName u => "The url \"" ++ u ++ "\" does not contain a usable filename"
  | other t => t

/-- What stopped a transport. -/
inductive Cause
  | io (e : IoError)
  | text (message : String)
  deriving Repr, DecidableEq

namespace Cause

def message : Cause → String
  | io e => e.message
  | text t => t

def kind? : Cause → Option IoKind
  | io e => some e.kind
  | text _ => none

end Cause

inductive Error
  /-- Found before any transfer. -/
  | config (fault : ConfigFault)
  | invalidUrl (fault : UrlFault)
  /-- The request got no answer. -/
  | transport (url : String) (cause : Cause)
  /-- The answer's status is neither a success nor "not modified". -/
  | status (url : String) (code : Nat) (reason : String)
  /-- The body could not be copied into the destination. -/
  | transfer (url : String) (cause : IoError)
  | checksumMismatch (expected actual : String)
  /-- The destination could not keep the new validators. -/
  | io (cause : IoError)
  | internal (text : String)
  deriving Repr, DecidableEq

namespace Error

def message : Error → String
  | config f => "Invalid configuration: " ++ f.message
  | invalidUrl f => "Invalid URL: " ++ f.message
  | transport url cause => "Transport failure for " ++ url ++ ": " ++ cause.message
  | status url code reason =>
    "HTTP status " ++ toString code ++ " " ++ reason ++ " for " ++ url
  | transfer url cause => "Transfer failed for " ++ url ++ ": " ++ cause.message
  | checksumMismatch expected actual =>
    "Checksum mismatch: expected " ++ expected ++ ", got " ++ actual
  | io _ => "I/O error"
  | internal t => "Internal error: " ++ t

def statusCode? : Error → Option Nat
  | status _ code _ => some code
  | _ => none

def isTransport : Error → Bool
  | transport .. => true
  | _ => false

/-- The failure underneath, of a transport, a transfer or the destination. -/
def cause? : Error → Option Cause
  | transport _ cause => some cause
  | transfer _ e => some (.io e)
  | io e => some (.io e)
  | _ => none

end Error

/-- The values that some step has no answer for. -/
inductive Crash
  /-- A time outside of the years 1970 to 9999 has no HTTP date. -/
  | timeWithoutDate
  /-- A wire header table is made for 24576 fields at most, and has 32768 slots at most. -/
  | tooManyHeaders
  /-- A progress bar needs two characters at least. -/
  | tooFewBarCharacters
  /-- The characters of a progress bar are equally wide. -/
  | unevenBarCharacters
  /-- The characters of a progress bar take up room. -/
  | flatBarCharacters
  /-- A field of a progress display has at most 65535 columns. -/
  | fieldTooWide
  deriving Repr, DecidableEq

/-- How a call ends. -/
inductive Outcome (α : Type) where
  | ok (a : α)
  | error (e : Error)
  | crash (c : Crash)
  deriving Repr, DecidableEq

namespace Outcome

variable {α β : Type}

def bind (x : Outcome α) (f : α → Outcome β) : Outcome β :=
  match x with
  | ok a => f a
  | error e => error e
  | crash c => crash c

instance : Monad Outcome where
  pure := ok
  bind := bind

def ofExcept : Except Error α → Outcome α
  | .ok a => ok a
  | .error e => error e

def isOk : Outcome α → Bool
  | ok _ => true
  | _ => false

end Outcome

end Refetch
