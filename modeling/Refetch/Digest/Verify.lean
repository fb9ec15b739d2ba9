import Refetch.Digest.Stream
import Refetch.Storage.FileSystem
/-!
# Verification of files

A file passes if no digest is expected of it, or if it is there and has the expected digest. That
the expectation is no digest at all is found before the file is looked at.
-/

namespace Refetch.Digest

open Storage (FileSystem Path)

def verifyFile (fs : FileSystem) (path : String) (expected : Option String) :
    Except Error Bool :=
  match expected with
  | none => .ok true
  | some hash =>
    match Checksum.parse hash with
    | .error e => .error e
    | .ok checksum =>
      if fs.contains (Path.ofText path) then
        match fs.readFile (Path.ofText path) with
        | .error e => .error (.io e)
        | .ok data =>
          match digestSource checksum.kind (Script.ofChunks [data]) with
          | .error e => .error (.io e)
          | .ok actual => .ok (checksum.accepts actual)
      else .ok false

end Refetch.Digest
