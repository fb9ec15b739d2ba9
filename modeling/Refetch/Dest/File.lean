import Refetch.Dest.Basic
import Refetch.Storage.FileSystem
import Refetch.Url.FileName
/-!
# Destinations in files

The body is written to a temporary file beside the target, which takes the target's name when the
transfer completes with success. A buffer stands between the sink and the file: bytes are held back
there until it is full, the sink is flushed or the sink is let go. The entity tag is kept in a file
of its own, whose name is the target's with `.etag` after it, and counts only while the target
exists. That file is written in place, so that it may be left with a part of the tag. The time of the
last modification is that of the target.

1. `FileDest` is the destination alone; each operation takes and gives the file system.
2. `OnDisk` joins it with a file system and is a `Dest`.
-/

namespace Refetch

open Storage (FileSystem Location Path)

structure FileDest where
  path : String
  /-- The temporary file of the transfer under way. -/
  pending : Option Location
  /-- What the open sink holds back. -/
  buffer : Bytes
  deriving Repr, DecidableEq

namespace FileDest

def new (path : String) : FileDest := ⟨path, none, []⟩

/-- The size of the buffer of an open sink. -/
def capacity : Nat := 8192

/-- The target in a directory that has the file name of a URL. -/
def inDirectory (directory : String) (url : Url) : Except Error FileDest :=
  match url.fileName with
  | .ok name => .ok (new (Path.join directory name))
  | .error fault => .error (.invalidUrl fault)

def target (d : FileDest) : Path := Path.ofText d.path

/-- The file that keeps the entity tag. -/
def etagPath (d : FileDest) : String := d.path ++ ".etag"

/-- Removes the temporary file of a transfer, if there is one. -/
def discard (d : FileDest) (fs : FileSystem) : Except IoError Unit × FileSystem :=
  match d.pending with
  | some loc => fs.removeFile (.ofLocation loc)
  | none => (.ok (), fs)

/-- Lets the temporary file go. Of a failure to remove it nobody hears. -/
def release (d : FileDest) (fs : FileSystem) : FileSystem := (d.discard fs).2

/-- Makes the directory and a temporary file in it. -/
def prepare (d : FileDest) (fs : FileSystem) : Except IoError Location × FileSystem :=
  match fs.mkdirAll d.target.directory with
  | (.error e, fs) => (.error e, fs)
  | (.ok (), fs) => fs.makeTemporary d.target.directory (fs.locate d.target)

/-- Begins with a new temporary file. An earlier one goes only when the new one is there. -/
def openSink (d : FileDest) (fs : FileSystem) : Except IoError Unit × FileDest × FileSystem :=
  match d.prepare fs with
  | (.error e, fs) => (.error e, d, fs)
  | (.ok loc, fs) => (.ok (), { d with pending := some loc, buffer := [] }, d.release fs)

/-- Writes out what is held back. What cannot be written stays so. -/
def flush (d : FileDest) (fs : FileSystem) : Except IoError Unit × FileDest × FileSystem :=
  match d.pending with
  | none => (.ok (), d, fs)
  | some loc =>
    let (r, left, fs) := fs.appendAll loc d.buffer
    (r, { d with buffer := left }, fs)

/-- Writes out what is held back if so many more bytes have no room beside it. -/
def makeRoom (d : FileDest) (fs : FileSystem) (n : Nat) :
    Except IoError Unit × FileDest × FileSystem :=
  if capacity < d.buffer.length + n then d.flush fs else (.ok (), d, fs)

/-- Adds to the buffer what is smaller than it, and all else to the temporary file. -/
def write (d : FileDest) (fs : FileSystem) (bs : Bytes) :
    Except IoError Nat × FileDest × FileSystem :=
  match d.pending with
  | none => (.ok bs.length, d, fs)
  | some loc =>
    match d.makeRoom fs bs.length with
    | (.error e, d, fs) => (.error e, d, fs)
    | (.ok (), d, fs) =>
      if capacity ≤ bs.length then
        let (r, fs) := fs.append loc bs
        (r, d, fs)
      else (.ok bs.length, { d with buffer := d.buffer ++ bs }, fs)

theorem write_le {d : FileDest} {fs : FileSystem} {bs : Bytes} {n : Nat}
    (h : (d.write fs bs).1 = .ok n) : n ≤ bs.length := by
  unfold write at h
  split at h
  · cases h
    exact Nat.le_refl _
  · split at h
    · cases h
    · split at h
      · rw [FileSystem.append_ok h]
        exact FileSystem.room_le _ _
      · cases h
        exact Nat.le_refl _

theorem verdicts_flush (d : FileDest) (fs : FileSystem) :
    (d.flush fs).2.2.verdicts.length ≤ fs.verdicts.length ∧
      ∀ e, (d.flush fs).1 = .error e → (d.flush fs).2.2.verdicts.length < fs.verdicts.length := by
  unfold flush
  split
  · exact ⟨Nat.le_refl _, nofun⟩
  · exact FileSystem.verdicts_appendAll fs _ d.buffer

/-- A write that fails uses up a verdict. -/
theorem verdicts_write_lt {d : FileDest} {fs : FileSystem} {bs : Bytes} {e : IoError}
    (h : (d.write fs bs).1 = .error e) :
    (d.write fs bs).2.2.verdicts.length < fs.verdicts.length := by
  have hr : (d.makeRoom fs bs.length).2.2.verdicts.length ≤ fs.verdicts.length ∧
      ∀ e, (d.makeRoom fs bs.length).1 = .error e →
        (d.makeRoom fs bs.length).2.2.verdicts.length < fs.verdicts.length := by
    unfold makeRoom
    split
    · exact d.verdicts_flush fs
    · exact ⟨Nat.le_refl _, nofun⟩
  unfold write at h ⊢
  split at h
  · cases h
  · rename_i loc hp
    split at h <;> rename_i d' fs' hm <;> rw [hm] at hr
    · exact hr.2 _ rfl
    · split at h
      · rename_i hc
        rw [if_pos hc]
        exact Nat.lt_of_lt_of_le ((FileSystem.verdicts_append fs' loc bs).2 e h) hr.1
      · cases h

/-- Writes out what is held back, which otherwise is lost. -/
def closeSink (d : FileDest) (fs : FileSystem) : Except IoError Unit × FileDest × FileSystem :=
  let (r, d, fs) := d.flush fs
  (r, { d with buffer := [] }, fs)

/-- Gives the temporary file the target's name, or removes it. If it cannot get the name it goes
too. -/
def complete (d : FileDest) (fs : FileSystem) (success : Bool) :
    Except IoError Unit × FileDest × FileSystem :=
  match d.pending with
  | none => (.ok (), d, fs)
  | some loc =>
    if success then
      match fs.renameFile (.ofLocation loc) d.target with
      | (.ok (), fs) => (.ok (), { d with pending := none }, fs)
      | (.error e, fs) => (.error e, { d with pending := none }, d.release fs)
    else
      match d.discard fs with
      | (.ok (), fs) => (.ok (), { d with pending := none }, fs)
      | (.error e, fs) => (.error (FileSystem.faultAt loc e), { d with pending := none }, fs)

def etag (d : FileDest) (fs : FileSystem) : Option String :=
  if fs.contains d.target then fs.readText? (Path.ofText d.etagPath) else none

def setEtag (d : FileDest) (fs : FileSystem) (tag : String) : Except IoError Unit × FileSystem :=
  fs.writeFile (Path.ofText d.etagPath) (Text.Utf8.encode tag)

def lastModified (d : FileDest) (fs : FileSystem) : Option Timestamp := fs.modified? d.target

def setLastModified (d : FileDest) (fs : FileSystem) (t : Timestamp) :
    Except IoError Unit × FileSystem :=
  fs.setModified d.target t

end FileDest

/-- A file destination and the file system that it lives on. -/
structure OnDisk where
  dest : FileDest
  disk : FileSystem
  deriving Repr, DecidableEq

namespace OnDisk

def flush (d : OnDisk) : Except IoError Unit × OnDisk :=
  let (r, dest, disk) := d.dest.flush d.disk
  (r, ⟨dest, disk⟩)

def write (d : OnDisk) (bs : Bytes) : Except IoError Nat × OnDisk :=
  let (r, dest, disk) := d.dest.write d.disk bs
  (r, ⟨dest, disk⟩)

instance : Dest OnDisk where
  write := write
  patience d := d.disk.verdicts.length
  accepted_le h := FileDest.write_le h
  patience_lt h _ := FileDest.verdicts_write_lt h
  openSink d := let (r, dest, disk) := d.dest.openSink d.disk; (r, ⟨dest, disk⟩)
  flush := flush
  closeSink d := let (r, dest, disk) := d.dest.closeSink d.disk; (r, ⟨dest, disk⟩)
  complete d success := let (r, dest, disk) := d.dest.complete d.disk success; (r, ⟨dest, disk⟩)
  etag d := d.dest.etag d.disk
  lastModified d := d.dest.lastModified d.disk
  setEtag d tag := let (r, disk) := d.dest.setEtag d.disk tag; (r, { d with disk := disk })
  setLastModified d t := let (r, disk) := d.dest.setLastModified d.disk t; (r, { d with disk := disk })
  describe d := d.dest.path

end OnDisk

end Refetch
