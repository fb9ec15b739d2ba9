import Refetch.Engine.Basic
/-!
# Scripted engines

An engine that answers from a list of replies, in order, and with the status 599 once the list is
used up. It asks nothing of a request but its URL, and gives out a body whatever the status.
-/

namespace Refetch.Scripted

/-- What a reply carries. -/
inductive Content
  | none
  | script (s : Script)
  /-- A body whose source was given away before. -/
  | consumed
  deriving Repr, DecidableEq

inductive Reply
  | failure (cause : Cause)
  | answer (status : Nat) (reason : String) (headers : HeaderList) (content : Content)
      (url : Option Url)
  deriving Repr, DecidableEq

/-- The body with the length that the headers declare. -/
def body (headers : HeaderList) : Content → Option (ReaderBody Script)
  | .none => Option.none
  | .script s => some ⟨some s, headers.contentLength?, Option.none⟩
  | .consumed => some ⟨Option.none, headers.contentLength?, Option.none⟩

/-- The answer when no reply is left. -/
def exhausted : Reply := .answer 599 "" ∅ .none none

def respond (url : Url) : Reply → Outcome (Response Script)
  | .failure cause => .error (.transport url.render cause)
  | .answer status reason headers content final =>
    .ok ⟨status, final.getD url, reason, headers, body headers content⟩

end Refetch.Scripted

namespace Refetch

/-- The replies that are left. -/
structure ScriptedEngine where
  replies : List Scripted.Reply
  deriving Repr, DecidableEq

instance : Engine ScriptedEngine Script where
  exchange e r :=
    match r.requireUrl with
    | .error fault => (.error fault, e)
    | .ok url => (Scripted.respond url (e.replies.headD Scripted.exhausted), ⟨e.replies.tail⟩)

end Refetch
