import Refetch.Dest.Faulty
import Refetch.Dest.File
import Refetch.Dest.Memory
/-!
# Destinations of any kind

A destination in memory, in a file or with planned failures. Every call goes to the one inside, so
that a run need not know which kind it fills.
-/

namespace Refetch

inductive AnyDest
  | memory (d : MemoryDest)
  | file (d : OnDisk)
  | faulty (d : FaultyDest)

namespace AnyDest

/-- Carries out a call of the destination that is inside. -/
def call {α : Type} (act : {σ : Type} → [Dest σ] → σ → α × σ) : AnyDest → α × AnyDest
  | memory d => let (a, d) := act d; (a, memory d)
  | file d => let (a, d) := act d; (a, file d)
  | faulty d => let (a, d) := act d; (a, faulty d)

/-- Asks the destination that is inside. -/
def ask {α : Type} (query : {σ : Type} → [Dest σ] → σ → α) : AnyDest → α
  | memory d => query d
  | file d => query d
  | faulty d => query d

instance : Dest AnyDest where
  write d bs := d.call fun d => Sink.write d bs
  patience d := d.ask fun d => Sink.patience d
  accepted_le {d _ _} h := by
    cases d with
    | memory d => exact Sink.accepted_le (s := d) h
    | file d => exact Sink.accepted_le (s := d) h
    | faulty d => exact Sink.accepted_le (s := d) h
  patience_lt {d _ _} h := by
    cases d with
    | memory d => exact Sink.patience_lt (s := d) h
    | file d => exact Sink.patience_lt (s := d) h
    | faulty d => exact Sink.patience_lt (s := d) h
  openSink d := d.call fun d => Dest.openSink d
  flush d := d.call fun d => Dest.flush d
  closeSink d := d.call fun d => Dest.closeSink d
  complete d success := d.call fun d => Dest.complete d success
  etag d := d.ask fun d => Dest.etag d
  lastModified d := d.ask fun d => Dest.lastModified d
  setEtag d tag := d.call fun d => Dest.setEtag d tag
  setLastModified d t := d.call fun d => Dest.setLastModified d t
  describe d := d.ask fun d => Dest.describe d

/-- Puts a file destination on this disk. -/
def mount (disk : Storage.FileSystem) : AnyDest → AnyDest
  | file d => file { d with disk := disk }
  | d => d

/-- The disk that a file destination lives on. -/
def disk? : AnyDest → Option Storage.FileSystem
  | file d => some d.disk
  | _ => none

end AnyDest

end Refetch
