import Refetch.Download.Conditional
import Refetch.Download.Freshness
import Refetch.Download.Summary
import Refetch.Download.Transfer
import Refetch.Engine.Basic
import Refetch.Url.Parse
/-!
# Runs

One run: build a request that asks with the stored validators, have it carried out, decide whether
the kept copy is current, and if it is not, transfer the body and keep the new validators.

A response is closed on every way out, and before the validators are kept.
-/

namespace Refetch.Download

variable {ρ σ ε : Type} [Source ρ] [Dest σ] [Engine ε ρ]

/-- Keeps a new time, if there is one. -/
def keepTime (d : σ) : Option Timestamp → Step (Except IoError Unit) σ
  | some t => ⟨[.lastModifiedSet t], (Dest.setLastModified d t).1, (Dest.setLastModified d t).2⟩
  | none => ⟨[], .ok (), d⟩

/-- Keeps a new entity tag, if there is one. -/
def keepTag (d : σ) : Option String → Step (Except IoError Unit) σ
  | some tag => ⟨[.etagSet tag], (Dest.setEtag d tag).1, (Dest.setEtag d tag).2⟩
  | none => ⟨[], .ok (), d⟩

/-- Keeps new validators: the time, and then the entity tag unless the time could not be kept. -/
def persist (time : Option Timestamp) (tag : Option String) (d : σ) :
    Step (Except IoError Unit) σ :=
  let t := keepTime d time
  match t.outcome with
  | .error e => ⟨t.events, .error e, t.dest⟩
  | .ok () =>
    let s := keepTag t.dest tag
    ⟨t.events ++ s.events, s.outcome, s.dest⟩

/-- A message whose level depends on whether the run is quiet. -/
def report (c : Config) (text : String) : Event :=
  .logged (if c.quiet then .debug else .info) text

/-- Transfers the body of a response and keeps its validators. -/
def download (c : Config) (url : Url) (response : Response ρ) (body : ReaderBody ρ) (d : σ) :
    Step (Outcome Summary) σ :=
  let t := transfer c url body d
  match t.outcome with
  | .crash x => ⟨t.events ++ [.closed], .crash x, t.dest⟩
  | .error e => ⟨t.events ++ [.closed], .error e, t.dest⟩
  | .ok size =>
    let p := persist (c.remoteTime response.headers)
      (if c.useEtag then response.headers.get? "etag" else none) t.dest
    let events := t.events ++ .closed :: p.events
    match p.outcome with
    | .error e => ⟨events, .error (.io e), p.dest⟩
    | .ok () =>
      ⟨events ++ [report c ("Downloaded " ++ url.render ++ " (" ++ toString size ++
          " bytes) into " ++ Dest.describe p.dest)],
        .ok (((Summary.new response.url response.status).withStatus .downloaded).withSize size),
        p.dest⟩

/-- What is said about a response from elsewhere. -/
def redirection (url final : Url) : List Event :=
  if final.render = url.render then []
  else [.logged .debug (url.render ++ " was redirected to " ++ final.render)]

/-- Deals with a response. -/
def settle (c : Config) (url : Url) (stored : Option Timestamp) (response : Response ρ) (d : σ) :
    Step (Outcome Summary) σ :=
  let summary := Summary.new response.url response.status
  match judge response.status stored (c.remoteTime response.headers) with
  | .rejected =>
    ⟨[.closed], .error (.status url.render response.status response.reason), d⟩
  | .current =>
    ⟨redirection url response.url ++
        [report c (Dest.describe d ++ " is up to date"), .closed],
      .ok (summary.withStatus .upToDate), d⟩
  | .outdated =>
    let taken := response.takeBody
    let before := redirection url response.url ++ [.bodyTaken]
    match taken.1 with
    | none =>
      ⟨before ++ [report c (url.render ++ " answered " ++ toString response.status ++
          " without a body"), .closed],
        .ok (summary.withStatus .noContent), d⟩
    | some body =>
      let s := download c url taken.2 body d
      ⟨before ++ s.events, s.outcome, s.dest⟩

/-- What a run leaves behind. -/
structure Run (σ ε : Type) where
  events : List Event
  outcome : Outcome Summary
  dest : Option σ
  engine : ε
  /-- A response said that the destination is current. -/
  foundCurrent : Bool

/-- Has a prepared request carried out, and deals with the answer. -/
def send (c : Config) (url : Url) (p : Prepared) (d : σ) (e : ε) : Run σ ε :=
  let x := Engine.exchange e p.request
  let before := [.connecting, .logged .debug ("Fetching " ++ url.render), .executed p.request]
  match x.1 with
  | .crash c => ⟨before, .crash c, some d, x.2, false⟩
  | .error fault => ⟨before, .error fault, some d, x.2, false⟩
  | .ok response =>
    let s := settle c url p.time response d
    ⟨before ++ s.events, s.outcome, some s.dest, x.2,
      judge response.status p.time (c.remoteTime response.headers) == .current⟩

/-- Runs the download that a configuration describes. -/
def run (c : Config) (dest : Option σ) (e : ε) : Run σ ε :=
  match c.url with
  | none => ⟨[], .error (.config .noUrl), dest, e, false⟩
  | some text =>
    match dest with
    | none => ⟨[], .error (.config .noDestination), dest, e, false⟩
    | some d =>
      match Url.parse text with
      | .error cause => ⟨[], .error (.invalidUrl (.unparsable text cause)), dest, e, false⟩
      | .ok url =>
        let prepared := prepare c url d
        match prepared.2 with
        | .crash x => ⟨prepared.1, .crash x, dest, e, false⟩
        | .error fault => ⟨prepared.1, .error fault, dest, e, false⟩
        | .ok p =>
          let r := send c url p d e
          { r with events := prepared.1 ++ r.events }

end Refetch.Download
