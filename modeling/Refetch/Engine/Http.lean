import Refetch.Engine.Basic
import Refetch.Engine.Chunks
import Refetch.Engine.Cookie
import Refetch.Engine.Framing
import Refetch.Engine.Redirect
import Refetch.Text.Base64
/-!
# HTTP engines

An engine over a network. It checks and completes the headers of a request, uploads and frames the
body, keeps cookies, follows redirections, and makes a response of the last answer.

The two transports differ in how bodies are uploaded. The streaming transport reports a failure
with the URL of the request; the buffering transport with the URL at which it came about, and it can
try again.
-/

namespace Refetch

inductive Transport
  | streaming
  | buffering
  deriving Repr, DecidableEq

structure HttpConfig where
  transport : Transport
  /-- The redirections that are followed. -/
  maxRedirects : Nat
  /-- How often the buffering transport tries again. -/
  retries : Nat
  /-- Fields for requests that lack them. -/
  defaults : WireHeaders
  deriving Repr, DecidableEq

structure HttpEngine (ν : Type) where
  config : HttpConfig
  jar : CookieJar
  clock : Timestamp
  network : ν
  deriving Repr, DecidableEq

/-- Why there is no response. -/
inductive HttpFault
  /-- A header field cannot be sent. -/
  | field
  | scheme (url : Url)
  /-- There is no answer. -/
  | send (url : Url)
  /-- The body of the request did not get through. -/
  | body (url : Url)
  | redirections (url : Url)
  /-- There is no answer even after some more tries. -/
  | retries (n : Nat)
  deriving Repr, DecidableEq

namespace HttpFault

def message : HttpFault → String
  | field => "builder error"
  | scheme u => "builder error for url (" ++ u.render ++ ")"
  | send u => "error sending request for url (" ++ u.render ++ ")"
  | body u => "request or response body error for url (" ++ u.render ++ ")"
  | redirections u => "error following redirect for url (" ++ u.render ++ ")"
  | retries n => "Request failed after " ++ toString n ++ " retries"

/-- The same fault of another URL. -/
def at_ (url : Url) : HttpFault → HttpFault
  | scheme _ => scheme url
  | send _ => send url
  | body _ => body url
  | redirections _ => redirections url
  | fault => fault

end HttpFault

namespace Http

def contentType : String := "content-type"

/-- User info as the two parts of a credential, if the name is text. -/
def credential? (u : Url) : Option (String × Option String) :=
  match (Text.Utf8.decode (Url.Percent.decode u.username)).toOption with
  | none => none
  | some name =>
    if name.isEmpty && u.password.isNone then none
    else
      some (name, u.password.bind fun p => (Text.Utf8.decode (Url.Percent.decode p)).toOption)

/-- The field that proves a credential. -/
def authorization (name : String) (password : Option String) : Bytes :=
  Text.Utf8.encode
    ("Basic " ++ Text.Base64.encode (Text.Utf8.encode (name ++ ":" ++ password.getD "")))

/-- The URL that is asked, without a credential. -/
def withoutCredential (u : Url) : Url :=
  if (credential? u).isSome then Redirect.withoutUserInfo u else u

/-- The credential's field, unless the request has one. -/
def addAuthorization (u : Url) (h : WireHeaders) : WireHeaders :=
  match credential? u with
  | some (name, password) =>
    if h.contains "authorization" then h
    else h.append "authorization" (authorization name password)
  | none => h

/-- The first value of each default field that is lacking. -/
def addDefaults (defaults h : WireHeaders) : WireHeaders :=
  (("accept", Text.Utf8.encode "*/*") :: defaults.toList).foldr
    (fun (name, value) h => if h.contains name then h else h.append name value) h

/-- The field with the media type of the body, unless the request has one. -/
def addContentType (r : Request) (h : WireHeaders) : Except HttpFault WireHeaders :=
  match r.body.bind Payload.contentType? with
  | none => .ok h
  | some t =>
    if r.headers.contains contentType then .ok h
    else if isHeaderValue (Text.Utf8.encode t) then .ok (h.append contentType (Text.Utf8.encode t))
    else .error .field

/-- The host and the port, if it is not the scheme's own. -/
def hostValue (u : Url) : Bytes :=
  Text.Utf8.encode <|
    ((u.host.map Url.Host.render).getD "") ++
      match u.port with | some p => ":" ++ toString p | none => ""

/-- The URL as a peer sees it, without user info and fragment. Of a tunnel it is where it leads. -/
def askedUrl (method : Method) (u : Url) : Url :=
  let asked := Redirect.withoutFragment (Redirect.withoutUserInfo u)
  if method = .connect then { asked with path := .segments [], query := none } else asked

/-- One request of a chain of redirections. -/
structure Hop where
  method : Method
  url : Url
  headers : WireHeaders
  framing : Framing
  body : Option Bytes
  /-- The body can be sent again. -/
  repeatable : Bool
  deriving Repr, DecidableEq

/-- The request as it is sent, with the cookies that go with it. -/
def Hop.toWire (h : Hop) (clock : Timestamp) (jar : CookieJar) : WireRequest where
  method := h.method
  url := askedUrl h.method h.url
  headers :=
    let fields := match jar.header? clock h.url with
      | some value =>
        if h.headers.contains "cookie" then h.headers
        else h.headers.append "cookie" (Text.Utf8.encode value)
      | none => h.headers
    if fields.contains "host" then fields else fields.append "host" (hostValue h.url)
  framing := h.framing
  body := h.body.getD []

/-- The next request of the chain, if the answer leads on. -/
def Hop.next? (h : Hop) (a : WireAnswer) : Option Hop :=
  match Redirect.next? a.status h.method with
  | none => none
  | some (method, keepsBody) =>
    if keepsBody && h.body.isSome && !h.repeatable then none
    else
      match (a.headers.get? "location").bind fun v => (Text.Utf8.decode v).toOption with
      | none => none
      | some reference =>
        (Redirect.resolve? h.url reference).map fun target =>
          { method := method
            url := target
            headers := Redirect.headers h.url target keepsBody h.headers
            framing := if keepsBody then h.framing else .none
            body := if keepsBody then h.body else none
            repeatable := h.repeatable }

def isHttp (u : Url) : Bool := u.scheme == "http" || u.scheme == "https"

/-- The texts of the fields that set cookies. -/
def setCookies (a : WireAnswer) : List String :=
  (a.headers.getAll "set-cookie").filterMap fun v => (Text.Utf8.decode v).toOption

variable {ν : Type} [Network ν]

/-- How a chain ends, with what it changed. -/
structure Chain (ν : Type) where
  result : Except HttpFault (WireAnswer × Url)
  jar : CookieJar
  network : ν

/-- Sends a request and those that it leads to. -/
def follow (clock : Timestamp) (left : Nat) (h : Hop) (jar : CookieJar) (n : ν) : Chain ν :=
  if Network.reaches n h.url then
    match Network.send n (h.toWire clock jar) with
    | (none, n) => ⟨.error (.send h.url), jar, n⟩
    | (some a, n) =>
      let jar := jar.update clock h.url (setCookies a)
      match h.next? a, left with
      | none, _ => ⟨.ok (a, h.url), jar, n⟩
      | some _, 0 => ⟨.error (.redirections h.url), jar, n⟩
      | some next, left + 1 =>
        if isHttp next.url then follow clock left next jar n
        else ⟨.error (.scheme next.url), jar, n⟩
  else ⟨.error (.send h.url), jar, n⟩

/-- Whether another try may help. -/
def isTransient : Except HttpFault (WireAnswer × Url) → Bool
  | .error (.send _) => true
  | .error _ => false
  | .ok (a, _) => 500 ≤ a.status && a.status < 600 || a.status == 408 || a.status == 429

/-- Follows a chain again while that may help, `left` times at most, after `past` more tries than
one. A failure then tells only how many more there were. -/
def persevere (clock : Timestamp) (maxRedirects : Nat) (h : Hop) :
    (left past : Nat) → CookieJar → ν → Chain ν
  | 0, past, jar, n =>
    let c := follow clock maxRedirects h jar n
    { c with result := c.result.mapError (countTries past) }
  | left + 1, past, jar, n =>
    let c := follow clock maxRedirects h jar n
    if isTransient c.result then persevere clock maxRedirects h left (past + 1) c.jar c.network
    else { c with result := c.result.mapError (countTries past) }
where
  countTries (past : Nat) (fault : HttpFault) : HttpFault :=
    if past = 0 then fault else .retries past

/-- What was read of a body before anything is sent. -/
inductive Loaded
  | none
  | stream (length : Option Nat) (source : Script)
  | buffer (bs : Bytes)
  deriving Repr, DecidableEq

def load (t : Transport) : Option Payload → Except IoError Loaded
  | Option.none => .ok .none
  | some p =>
    match t with
    | .streaming => p.openReader.1.map (.stream p.contentLength?)
    | .buffering => p.readAll.map .buffer

/-- The request with this body. -/
def Hop.framed (method : Method) (url : Url) (repeatable : Bool) (f : Framed) : Hop :=
  ⟨method, url, f.fields, f.framing, some f.body, repeatable⟩

/-- The first request of the chain, with the body uploaded. The declared length of a stream takes the
place of one that the fields state. -/
def firstHop (method : Method) (url : Url) (fields : WireHeaders) (reachable : Bool) :
    Loaded → Except UploadFault Hop
  | .none => .ok ⟨method, url, fields.erase transferEncoding, .none, none, true⟩
  | .buffer bs =>
    (frame method fields (Upload.bufferFraming bs) bs).map (.framed method url true)
  | .stream length source =>
    (Upload.collect reachable length source).bind fun bs =>
      (frame method (if length.isSome then fields.erase contentLength else fields)
        (Upload.streamFraming length) bs).map (.framed method url false)

/-- The failure of a body that ends too early. -/
def bodyFailure : Transport → IoError
  | .streaming => .custom .other "request or response body error"
  | .buffering => .custom .other "error decoding response body"

def responseOf (t : Transport) (method : Method) (a : WireAnswer) (u : Url) :
    Response ChunkReader :=
  .answering method a.status (Redirect.withoutFragment (Redirect.withoutUserInfo u))
    (HeaderList.ofWire a.headers)
    (.new a.pieces (if a.broken then some (bodyFailure t) else none))

end Http

namespace HttpEngine

open Http

variable {ν : Type} [Network ν]

/-- Sends a request whose headers are complete. -/
def dispatch (e : HttpEngine ν) (method : Method) (url : Url) (fields : WireHeaders)
    (loaded : Loaded) : Chain ν :=
  match firstHop method url fields (isHttp url && Network.reaches e.network url) loaded with
  | .error .body => ⟨.error (.body url), e.jar, e.network⟩
  | .error .short => ⟨.error (if isHttp url then .send url else .scheme url), e.jar, e.network⟩
  | .ok hop =>
    if !isHttp url then ⟨.error (.scheme url), e.jar, e.network⟩
    else
      match e.config.transport with
      | .streaming =>
        let c := follow e.clock e.config.maxRedirects hop e.jar e.network
        { c with result := c.result.mapError (.at_ url) }
      | .buffering =>
        persevere e.clock e.config.maxRedirects hop e.config.retries 0 e.jar e.network

/-- The fields of the first request. -/
def fields (e : HttpEngine ν) (r : Request) (url : Url) (wire : WireHeaders) :
    Except HttpFault WireHeaders :=
  (addContentType r (addAuthorization url wire)).map (addDefaults e.config.defaults)

def exchange (e : HttpEngine ν) (r : Request) : Outcome (Response ChunkReader) × HttpEngine ν :=
  match r.requireUrl with
  | .error fault => (.error fault, e)
  | .ok url =>
    match r.headers.toWire with
    | .crash c => (.crash c, e)
    | .error fault => (.error fault, e)
    | .ok wire =>
      match load e.config.transport r.body with
      | .error io => (.error (.transport url.render (.io io)), e)
      | .ok loaded =>
        match e.fields r url wire with
        | .error fault => (.error (.transport url.render (.text fault.message)), e)
        | .ok fields =>
          let c := e.dispatch r.method (withoutCredential url) fields loaded
          (match c.result with
            | .error fault => .error (.transport url.render (.text fault.message))
            | .ok (a, final) => .ok (responseOf e.config.transport r.method a final),
            { e with jar := c.jar, network := c.network })

instance : Engine (HttpEngine ν) ChunkReader where
  exchange := exchange

end HttpEngine

end Refetch
