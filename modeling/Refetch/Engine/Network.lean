import Refetch.Header.Wire
import Refetch.Http.Method
import Refetch.Url.Basic
/-!
# Networks

What is on the other side of an engine. A network knows which URLs lead to a peer, and answers
requests one by one: with a head and the pieces of a body, or not at all.
-/

namespace Refetch

/-- How the end of a body is made known. -/
inductive Framing
  | none
  | length (bytes : Nat)
  | chunked
  deriving Repr, DecidableEq

/-- A request as it reaches a peer. The URL has neither user info nor fragment. -/
structure WireRequest where
  method : Method
  url : Url
  headers : WireHeaders
  framing : Framing
  body : Bytes
  deriving Repr, DecidableEq

structure WireAnswer where
  status : Nat
  headers : WireHeaders
  /-- The body piece by piece. -/
  pieces : List Bytes
  /-- The connection ended before the body did. -/
  broken : Bool
  deriving Repr, DecidableEq

class Network (ν : Type) where
  /-- There is a peer for this URL. -/
  reaches : ν → Url → Bool
  /-- The answer to a request; none if the peer gives none that can be understood. -/
  send : ν → WireRequest → Option WireAnswer × ν

/-- A network without peers. -/
structure Isolated where
  deriving Repr, DecidableEq

instance : Network Isolated where
  reaches _ _ := false
  send n _ := (none, n)

end Refetch
