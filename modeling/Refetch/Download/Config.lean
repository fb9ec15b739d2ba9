import Refetch.Digest.Checksum
import Refetch.Http.Request
import Refetch.Progress.Style
/-!
# What is to be downloaded, and how

A configuration starts with every option off. A URL is required, but only a run finds it missing.
-/

namespace Refetch.Download

structure Config where
  url : Option String
  headers : HeaderList
  /-- Sent unless the headers name a user agent. -/
  userAgent : Option String
  /-- Asks with the stored entity tag and keeps the new one. -/
  useEtag : Bool
  /-- Asks with the stored time, compares it with the new one, and keeps that. -/
  onlyIfModified : Bool
  /-- Shows no display and reports at a lower level. -/
  quiet : Bool
  /-- An observer is set; otherwise the console shows the run unless it is quiet. -/
  listener : Bool
  style : Progress.Style
  checksum : Option Digest.Checksum
  deriving Repr, DecidableEq

namespace Config

def new : Config := ⟨none, ∅, none, false, false, false, false, .defaults, none⟩

def setUrl (c : Config) (url : String) : Config := { c with url := some url }

def addHeader (c : Config) (name value : String) : Config :=
  { c with headers := c.headers.add name value }

def addHeaders (c : Config) (headers : HeaderList) : Config :=
  { c with headers := c.headers.extend headers.toList }

/-- Expects the body to have this digest, if it is one. -/
def expect (c : Config) (hash : String) : Except Error Config :=
  (Digest.Checksum.parse hash).map fun checksum => { c with checksum := some checksum }

def inspect (c : Config) : String :=
  Text.Inspect.record "ActionConfig"
    [("url", Text.Inspect.option Text.quoted c.url),
     ("headers", c.headers.inspect),
     ("user_agent", Text.Inspect.option Text.quoted c.userAgent),
     ("use_etag", Text.Inspect.bool c.useEtag),
     ("only_if_modified", Text.Inspect.bool c.onlyIfModified),
     ("quiet", Text.Inspect.bool c.quiet),
     ("listener", Text.Inspect.bool c.listener),
     ("style_options", c.style.inspect),
     ("checksum", Text.Inspect.option Digest.Checksum.inspect c.checksum)]

end Config

end Refetch.Download
