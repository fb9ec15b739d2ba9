import Refetch.Dest.Basic
/-!
# Destinations in memory

Bytes are staged while a transfer lasts, and become the data when it completes with success. The
destination also counts how often it was opened and keeps the flags of its completions.

A pool holds destinations that are known by handles; several handles can stand for one destination.
-/

namespace Refetch

structure MemoryDest where
  data : Bytes
  staging : Bytes
  etag : Option String
  lastModified : Option Timestamp
  opens : Nat
  completions : List Bool
  deriving Repr, DecidableEq

namespace MemoryDest

/-- An empty destination with validators as an earlier run leaves them. -/
def new (etag : Option String := none) (lastModified : Option Timestamp := none) : MemoryDest :=
  ⟨[], [], etag, lastModified, 0, []⟩

def openSink (d : MemoryDest) : MemoryDest := { d with opens := d.opens + 1, staging := [] }

def write (d : MemoryDest) (bs : Bytes) : MemoryDest := { d with staging := d.staging ++ bs }

def complete (d : MemoryDest) (success : Bool) : MemoryDest :=
  { d with
    data := if success then d.staging else d.data
    staging := []
    completions := d.completions ++ [success] }

instance : Dest MemoryDest where
  write d bs := (.ok bs.length, d.write bs)
  patience _ := 0
  accepted_le := by intro d bs n e; cases e; exact Nat.le_refl _
  patience_lt := by intro d bs e he; cases he
  openSink d := (.ok (), d.openSink)
  flush d := (.ok (), d)
  closeSink d := (.ok (), d)
  complete d success := (.ok (), d.complete success)
  etag d := d.etag
  lastModified d := d.lastModified
  setEtag d t := (.ok (), { d with etag := some t })
  setLastModified d t := (.ok (), { d with lastModified := some t })
  describe _ := "<memory>"

/-- Destinations and, for each handle, the number of the destination that it stands for. -/
structure Pool where
  cells : List MemoryDest
  handles : List Nat
  deriving Repr, DecidableEq

namespace Pool

/-- A pool of one destination with one handle. -/
def ofDest (d : MemoryDest) : Pool := ⟨[d], [0]⟩

def get? (p : Pool) (handle : Nat) : Option MemoryDest := do p.cells[← p.handles[handle]?]?

/-- What every handle shows. -/
def states (p : Pool) : List MemoryDest :=
  (List.range p.handles.length).filterMap p.get?

/-- Puts a new state in the place of the destination that a handle stands for. -/
def put (p : Pool) (handle : Nat) (d : MemoryDest) : Pool :=
  match p.handles[handle]? with
  | some i => { p with cells := p.cells.set i d }
  | none => p

/-- A new handle, the last one, for the destination that a handle stands for. -/
def share (p : Pool) (handle : Nat) : Pool :=
  match p.handles[handle]? with
  | some i => { p with handles := p.handles ++ [i] }
  | none => p

/-- A new destination and its handle, the last one. -/
def insert (p : Pool) (d : MemoryDest) : Pool :=
  ⟨p.cells ++ [d], p.handles ++ [p.cells.length]⟩

end Pool

end MemoryDest

end Refetch
