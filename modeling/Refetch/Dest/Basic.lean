import Refetch.Io.Copy
import Refetch.Time.Timestamp
/-!
# Destinations

A destination keeps one body and two validators of it: an entity tag, kept as it was written, and
the time of the last modification.

A transfer opens the sink, writes to it, lets it go and completes. Completion with success makes what
was written the body that the destination keeps; completion without success drops it.
-/

namespace Refetch

class Dest (σ : Type) extends Sink σ where
  /-- Starts a transfer. -/
  openSink : σ → Except IoError Unit × σ
  /-- Asks the sink to keep nothing back. -/
  flush : σ → Except IoError Unit × σ
  /-- Lets the sink go, which writes out what it kept back. Nobody hears of the failure. -/
  closeSink : σ → Except IoError Unit × σ
  /-- Ends a transfer, with success or not. -/
  complete : σ → Bool → Except IoError Unit × σ
  etag : σ → Option String
  lastModified : σ → Option Timestamp
  setEtag : σ → String → Except IoError Unit × σ
  setLastModified : σ → Timestamp → Except IoError Unit × σ
  /-- What messages call the destination. -/
  describe : σ → String

namespace Dest

variable {σ : Type} [Dest σ]

/-- Writes every chunk to the open sink and flushes it if asked. The first failure ends that. -/
def fillSink (flush : Bool) (d : σ) : List Bytes → Except IoError Unit × σ
  | [] => if flush then Dest.flush d else (.ok (), d)
  | bs :: rest =>
    let w := writeAll d bs
    match w.failure with
    | some e => (.error e, w.sink)
    | none => fillSink flush w.sink rest

/-- One transfer as a user of a destination makes it: open the sink, fill it and let it go. -/
def transfer (d : σ) (chunks : List Bytes) (flush : Bool) : Except IoError Unit × σ :=
  match Dest.openSink d with
  | (.error e, d) => (.error e, d)
  | (.ok (), d) =>
    let f := fillSink flush d chunks
    (f.1, (Dest.closeSink f.2).2)

end Dest

end Refetch
