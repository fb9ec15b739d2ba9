import Refetch.Header.ContentLength
import Refetch.Http.Body
import Refetch.Http.Status
import Refetch.Url.Basic
/-!
# Responses

A response has a status, the URL that it came from, headers, and perhaps an entity. The entity can be
taken once, and not after the response was closed.
-/

namespace Refetch

structure Response (ρ : Type) where
  status : Nat
  url : Url
  reason : String
  headers : HeaderList
  /-- What is left to be taken. -/
  entity : Option (ReaderBody ρ)
  deriving Repr, DecidableEq

namespace Response

variable {ρ : Type}

/-- The response to a method whose body, if the status permits one, comes from this source. -/
def answering (method : Method) (status : Nat) (url : Url) (headers : HeaderList) (source : ρ) :
    Response ρ where
  status := status
  url := url
  reason := Status.phrase status
  headers := headers
  entity :=
    if Status.permitsBody method status then
      some ⟨some source, headers.contentLength?, headers.get? "content-type"⟩
    else none

/-- Gives the entity away. -/
def takeBody (r : Response ρ) : Option (ReaderBody ρ) × Response ρ :=
  (r.entity, { r with entity := none })

/-- Lets go of the entity. -/
def close (r : Response ρ) : Response ρ := { r with entity := none }

end Response

end Refetch
