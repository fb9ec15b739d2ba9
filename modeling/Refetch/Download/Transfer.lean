import Refetch.Dest.Basic
import Refetch.Digest.Stream
import Refetch.Download.Config
import Refetch.Download.Event
import Refetch.Progress.Console
import Refetch.Progress.Stream
/-!
# Transfers

A transfer copies a body into a destination and completes the destination once, whatever came before:
with success if all of the body was read, written and flushed and has the expected digest, and
without success otherwise.
-/

namespace Refetch.Download

/-- How a step ends, with its events and the destination after it. -/
structure Step (α σ : Type) where
  events : List Event
  outcome : α
  dest : σ

variable {ρ σ : Type} [Source ρ] [Dest σ]

/-- A copy, and the digest of it if one is expected. -/
structure CheckedCopy (σ : Type) where
  outcome : Except Error Nat
  traffic : List Traffic
  dest : σ

/-- Copies a source and compares its digest with the expected one. -/
def copyChecked (url : Url) (checksum : Option Digest.Checksum) (r : ρ) (d : σ) :
    CheckedCopy σ :=
  match checksum with
  | none =>
    let c := copy r d
    ⟨c.outcome.mapError (.transfer url.render), c.traffic, c.sink⟩
  | some k =>
    let c := copy (Digest.Hashing.new r : Digest.Hashing k.kind.algorithm ρ) d
    let actual := Text.Hex.encode c.source.hasher.finish
    ⟨match c.outcome with
      | .error e => .error (.transfer url.render e)
      | .ok n => if k.accepts actual then .ok n else .error (.checksumMismatch k.expected actual),
      c.traffic, c.sink⟩

/-- Fills an open sink, flushes it and lets it go. -/
def fill (url : Url) (checksum : Option Digest.Checksum) (r : ρ) (d : σ) :
    Step (Except Error Nat) σ :=
  let c := copyChecked url checksum (Progress.Stream.new r) d
  let copied := c.traffic.map Event.ofTraffic
  let release := Event.sinkClosed (Traffic.accepted c.traffic)
  match c.outcome with
  | .error e => ⟨copied ++ [release], .error e, (Dest.closeSink c.dest).2⟩
  | .ok n =>
    let f := Dest.flush c.dest
    ⟨copied ++ [.flushed, release],
      match f.1 with
      | .error e => .error (.transfer url.render e)
      | .ok () => .ok n,
      (Dest.closeSink f.2).2⟩

/-- Opens the body and the sink, and fills the sink. -/
def copyBody (url : Url) (checksum : Option Digest.Checksum) (body : ReaderBody ρ) (d : σ) :
    Step (Except Error Nat) σ :=
  match body.openReader.1 with
  | .error e => ⟨[], .error (.transfer url.render e), d⟩
  | .ok r =>
    let o := Dest.openSink d
    match o.1 with
    | .error e => ⟨[.sinkOpened], .error (.transfer url.render e), o.2⟩
    | .ok () =>
      let f := fill url checksum r o.2
      ⟨.sinkOpened :: f.events, f.outcome, f.dest⟩

/-- Completes the destination after a copy. The failure of the copy goes before that of the
completion, which is only logged then. -/
def completeCopy (url : Url) (copied : Except Error Nat) (d : σ) : Step (Except Error Nat) σ :=
  let c := Dest.complete d copied.isOk
  let events := [.completed copied.isOk, .finished (copied.isOk && c.1.isOk)]
  match copied, c.1 with
  | .ok n, .ok () => ⟨events, .ok n, c.2⟩
  | .ok _, .error e => ⟨events, .error (.transfer url.render e), c.2⟩
  | .error e, .ok () => ⟨events, .error e, c.2⟩
  | .error e, .error cleanup =>
    ⟨events ++ [.logged .warn
        ("Cleanup of " ++ Dest.describe c.2 ++ " failed: " ++ cleanup.message)],
      .error e, c.2⟩

/-- The crash of the console display, if one is shown. -/
def displayCrash? (c : Config) (name : String) (length : Option Nat) : Option Crash :=
  if c.listener || c.quiet then none
  else
    match (Progress.Console.new c.style name).start length with
    | .ok _ => none
    | .error crash => some crash

/-- Transfers a body. -/
def transfer (c : Config) (url : Url) (body : ReaderBody ρ) (d : σ) : Step (Outcome Nat) σ :=
  match displayCrash? c (Dest.describe d) body.length with
  | some crash => ⟨[.started body.length], .crash crash, d⟩
  | none =>
    let copied := copyBody url c.checksum body d
    let completed := completeCopy url copied.outcome copied.dest
    ⟨.started body.length ::
        .logged .debug ("Transferring " ++ url.render ++ " into " ++ Dest.describe d) ::
        (copied.events ++ completed.events),
      .ofExcept completed.outcome, completed.dest⟩

end Refetch.Download
