import Refetch.Download.Config
import Refetch.Http.Status
import Refetch.Time.HttpDate
/-!
# Freshness

What an answer says about the copy that the destination keeps. Its status decides, or else the two
times of modification. Entity tags have no say here: they only go into the request.
-/

namespace Refetch.Download

inductive Verdict
  /-- The status is neither a success nor "not modified". -/
  | rejected
  | current
  /-- A body has to be transferred, if there is one. -/
  | outdated
  deriving Repr, DecidableEq

/-- The time in the answer's headers, if times count and it is a date. -/
def Config.remoteTime (c : Config) (headers : HeaderList) : Option Timestamp :=
  if c.onlyIfModified then (headers.get? "last-modified").bind HttpDate.parse? else none

/-- The kept copy is at least as new as the remote one, both times being known. -/
def isAsNew : Option Timestamp → Option Timestamp → Bool
  | some stored, some remote => decide (remote ≤ stored)
  | _, _ => false

def judge (code : Nat) (stored remote : Option Timestamp) : Verdict :=
  if !Status.isSuccess code && code != Status.notModified then .rejected
  else if code == Status.notModified || isAsNew stored remote then .current
  else .outdated

end Refetch.Download
