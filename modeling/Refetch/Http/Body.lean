import Refetch.Io.Source
import Refetch.Text.Inspect
/-!
# Bodies

A body has a declared length, which may be unknown, and a declared media type. A body of bytes can
be opened any number of times; a body over a source gives its source away once.
-/

namespace Refetch

structure BytesBody where
  data : Bytes
  contentType : Option String
  deriving Repr, DecidableEq

namespace BytesBody

def contentLength (b : BytesBody) : Nat := b.data.length

/-- A fresh reader over all of the data. -/
def openReader (b : BytesBody) : Script := [.bytes b.data]

def inspect (b : BytesBody) : String :=
  Text.Inspect.record "BytesBody"
    [("len", Text.Inspect.nat b.data.length),
     ("content_type", Text.Inspect.option Text.quoted b.contentType)]

end BytesBody

/-- The failure of opening a body whose source was given away. -/
def alreadyOpened : IoError := .custom .other "body can only be opened once"

structure ReaderBody (ρ : Type) where
  source : Option ρ
  length : Option Nat
  contentType : Option String
  deriving Repr, DecidableEq

namespace ReaderBody

variable {ρ : Type}

/-- Gives the source away, or fails if that happened before. -/
def openReader (b : ReaderBody ρ) : Except IoError ρ × ReaderBody ρ :=
  match b.source with
  | some r => (.ok r, { b with source := none })
  | none => (.error alreadyOpened, b)

/-- Gives the source away together with the body itself, which is not left to be opened again. -/
def intoReader (b : ReaderBody ρ) : Except IoError ρ :=
  match b.source with
  | some r => .ok r
  | none => .error alreadyOpened

def inspect (b : ReaderBody ρ) : String :=
  Text.Inspect.record "ReaderBody"
    [("length", Text.Inspect.option Text.Inspect.nat b.length),
     ("content_type", Text.Inspect.option Text.quoted b.contentType),
     ("consumed", Text.Inspect.bool b.source.isNone)]

end ReaderBody

/-- The body of a request. -/
inductive Payload
  | bytes (body : BytesBody)
  | reader (body : ReaderBody Script)
  deriving Repr, DecidableEq

namespace Payload

def contentLength? : Payload → Option Nat
  | bytes b => some b.contentLength
  | reader b => b.length

def contentType? : Payload → Option String
  | bytes b => b.contentType
  | reader b => b.contentType

def isRepeatable : Payload → Bool
  | bytes _ => true
  | reader _ => false

def openReader : Payload → Except IoError Script × Payload
  | bytes b => (.ok b.openReader, bytes b)
  | reader b => let (r, b') := b.openReader; (r, reader b')

/-- All bytes of the body; the declared length has no say. -/
def readAll (p : Payload) : Except IoError Bytes :=
  match p.openReader.1 with
  | .error e => .error e
  | .ok r =>
    let d := Source.readToEnd r
    match d.failure with
    | some e => .error e
    | none => .ok d.data

end Payload

end Refetch
