import Refetch.Url.Basic
/-!
# Summaries

What a run that ended well has to tell: the URL and the status of the answer, what became of it, and
how many bytes were written.
-/

namespace Refetch.Download

inductive Status
  /-- The body was transferred into the destination. -/
  | downloaded
  /-- The destination is current; nothing was transferred. -/
  | upToDate
  /-- The answer was a success without a body. -/
  | noContent
  deriving Repr, DecidableEq

def Status.name : Status → String
  | downloaded => "Downloaded"
  | upToDate => "UpToDate"
  | noContent => "NoContent"

structure Summary where
  url : Url
  code : Nat
  size : Nat
  status : Status
  deriving Repr, DecidableEq

namespace Summary

/-- Without content until something else is said. -/
def new (url : Url) (code : Nat) : Summary := ⟨url, code, 0, .noContent⟩

def withStatus (s : Summary) (status : Status) : Summary := { s with status := status }

def withSize (s : Summary) (size : Nat) : Summary := { s with size := size }

def isUpToDate (s : Summary) : Bool := s.status == .upToDate

end Summary

end Refetch.Download
