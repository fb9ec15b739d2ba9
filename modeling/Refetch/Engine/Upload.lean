import Refetch.Engine.Network
import Refetch.Http.Request
/-!
# Uploads

The body of a request goes to the peer in one of two ways.

1. A stream is sent while it is read, in pieces of at most 8192 bytes, and ends when they make up its
   declared length or at the end of its source. It cannot be sent twice.
2. A buffered body is read to its end before anything is sent, whatever its declared length, and can
   be sent again.
-/

namespace Refetch

/-- Why a body did not get through. -/
inductive UploadFault
  /-- The source failed, or nobody took the pieces. -/
  | body
  /-- The source ended before the declared length. -/
  | short
  deriving Repr, DecidableEq

namespace Upload

/-- The greatest size of a piece. -/
def pieceSize (length : Option Nat) : Nat := min (length.getD 8192) 8192

theorem pieceSize_pos {length : Option Nat} {done : Nat} (h : some done ≠ length) (hd : done = 0) :
    0 < pieceSize length := by
  cases length with
  | none => decide
  | some n =>
    have : n ≠ 0 := fun e => h (by rw [hd, e])
    simp only [pieceSize, Option.getD_some]
    omega

/-- Reads pieces until `done` bytes are the declared length or the source ends. While nobody takes
them, there is room for one piece only. -/
def pump (reachable : Bool) (length : Option Nat) (n : Nat) (hn : 0 < n) (done : Nat)
    (s : Script) : Except UploadFault Bytes :=
  if some done = length then .ok []
  else
    match h : Source.read s n with
    | ⟨.ok [], _, _⟩ => .ok []
    | ⟨.error _, _, _⟩ => .error .body
    | ⟨.ok (b :: bs), rest, _⟩ =>
      if !reachable && 0 < done then .error .body
      else
        have : Source.remaining rest < Source.remaining s := by
          have := Source.remaining_lt (r := s) hn (by rw [h]; simp)
          rwa [h] at this
        (pump reachable length n hn (done + (b :: bs).length) rest).map ((b :: bs) ++ ·)
termination_by Source.remaining s

/-- What is read of a stream. -/
def collect (reachable : Bool) (length : Option Nat) (s : Script) : Except UploadFault Bytes :=
  if h : some 0 = length then .ok []
  else pump reachable length (pieceSize length) (pieceSize_pos h rfl) 0 s

/-- The first bytes of a body, if there are so many. -/
def cut (n : Nat) (bs : Bytes) : Except UploadFault Bytes :=
  if bs.length < n then .error .short else .ok (bs.take n)

/-- What is known of a stream. -/
def streamFraming : Option Nat → Framing
  | some n => .length n
  | none => .chunked

/-- What is known of a buffered body. -/
def bufferFraming (bs : Bytes) : Framing := if bs.isEmpty then .none else .length bs.length

end Upload

end Refetch
