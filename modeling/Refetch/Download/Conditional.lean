import Refetch.Dest.Basic
import Refetch.Download.Config
import Refetch.Download.Event
import Refetch.Time.HttpDate
/-!
# Conditional requests

The request of a run carries the configured headers, the stored validators as conditions, and the
user agent if the headers name none. A condition takes the place of configured values of its name.

That all headers have a place on the wire is checked before anything is sent.
-/

namespace Refetch.Download

def ifNoneMatch : String := "if-none-match"

def ifModifiedSince : String := "if-modified-since"

def userAgentName : String := "user-agent"

namespace Config

/-- The stored entity tag that is asked with; a blank one counts as none. -/
def conditionTag {σ : Type} [Dest σ] (c : Config) (d : σ) : Option String :=
  if c.useEtag then ((Dest.etag d).map Text.trim).filter (· ≠ "") else none

/-- The stored time that is asked with. -/
def conditionTime {σ : Type} [Dest σ] (c : Config) (d : σ) : Option Timestamp :=
  if c.onlyIfModified then Dest.lastModified d else none

/-- Makes a value the only one of its name, if there is a value. -/
def setIfSome (h : HeaderList) (name : String) : Option String → HeaderList
  | some value => h.set name value
  | none => h

/-- The user agent that has to be added. -/
def missingUserAgent (c : Config) : Option String :=
  if c.headers.contains userAgentName then none else c.userAgent

/-- The headers of the request, given the conditions. -/
def requestHeaders (c : Config) (tag date : Option String) : HeaderList :=
  let h := setIfSome (setIfSome c.headers ifNoneMatch tag) ifModifiedSince date
  match c.missingUserAgent with
  | some agent => h.add userAgentName agent
  | none => h

def request (c : Config) (url : Url) (tag date : Option String) : Request :=
  { (Request.new.setUrl url) with method := .get, headers := c.requestHeaders tag date }

end Config

/-- A request that can be sent, and the stored time that it asks with. -/
structure Prepared where
  request : Request
  time : Option Timestamp
  deriving Repr, DecidableEq

/-- The date of a time, if there is a time. -/
def dateOf : Option Timestamp → Outcome (Option String)
  | none => .ok none
  | some t =>
    match HttpDate.format t with
    | .ok date => .ok (some date)
    | .error e => .error e
    | .crash c => .crash c

/-- The message about a condition that is sent. -/
def sending (name value : String) (url : Url) : Event :=
  .logged .debug ("Sending " ++ name ++ " " ++ value ++ " for " ++ url.render)

/-- What is asked of the destination before the request, and what is said about it. -/
def conditionEvents {σ : Type} [Dest σ] (c : Config) (url : Url) (d : σ) : List Event :=
  (if c.useEtag then [.etagRead] else []) ++
    ((c.conditionTag d).map fun tag => sending "If-None-Match" tag url).toList ++
    (if c.onlyIfModified then [.lastModifiedRead] else [])

/-- Builds the request and checks it. -/
def prepare {σ : Type} [Dest σ] (c : Config) (url : Url) (d : σ) :
    List Event × Outcome Prepared :=
  match dateOf (c.conditionTime d) with
  | .crash x => (conditionEvents c url d, .crash x)
  | .error e => (conditionEvents c url d, .error e)
  | .ok date =>
    let request := c.request url (c.conditionTag d) date
    (conditionEvents c url d ++ (date.map fun t => sending "If-Modified-Since" t url).toList,
      match request.headers.toWire with
      | .ok _ => .ok ⟨request, c.conditionTime d⟩
      | .error e => .error e
      | .crash x => .crash x)

end Refetch.Download
