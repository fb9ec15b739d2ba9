import Refetch.Http.Body
import Refetch.Http.Method
import Refetch.Url.Basic
/-!
# Requests

A request starts as a `GET` without URL, headers and body. Method and body are set together, after
a check that they fit, so that they fit at any time.
-/

namespace Refetch

structure Request where
  url : Option Url
  method : Method
  headers : HeaderList
  body : Option Payload
  deriving Repr, DecidableEq

/-- The list with its entries. -/
def HeaderList.inspect (h : HeaderList) : String :=
  Text.Inspect.record "HeaderList"
    [("entries",
      Text.Inspect.list (fun e => Text.Inspect.pair (Text.quoted e.1) (Text.quoted e.2)) h.entries)]

namespace Request

def new : Request := ⟨none, .get, ∅, none⟩

def setUrl (r : Request) (url : Url) : Request := { r with url := some url }

/-- Method and body, if the name is one of a method that goes with such a body. -/
def checkMethod (name : String) (hasBody : Bool) : Except Error Method :=
  match Method.ofName? name with
  | none => .error (.config (.method name))
  | some m =>
    match m.checkBody hasBody with
    | .error e => .error e
    | .ok () => .ok m

/-- Sets method and body. A failure changes nothing. -/
def setMethod (r : Request) (name : String) (body : Option Payload) :
    Except Error Unit × Request :=
  match checkMethod name body.isSome with
  | .error e => (.error e, r)
  | .ok m => (.ok (), { r with method := m, body := body })

/-- Adds a header at the end. -/
def addHeader (r : Request) (name value : String) : Request :=
  { r with headers := r.headers.add name value }

/-- Makes a value the only one of its name. -/
def setHeader (r : Request) (name value : String) : Request :=
  { r with headers := r.headers.set name value }

def requireUrl (r : Request) : Except Error Url :=
  match r.url with
  | some u => .ok u
  | none => .error (.config .requestWithoutUrl)

/-- The request with its parts; of the body only whether there is one. -/
def inspect (r : Request) : String :=
  Text.Inspect.record "RequestParts"
    [("url", Text.Inspect.option (fun u => Text.quoted u.render) r.url),
     ("method", r.method.name),
     ("headers", r.headers.inspect),
     ("body", Text.Inspect.bool r.body.isSome)]

end Request

end Refetch
