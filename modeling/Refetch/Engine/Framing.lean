import Refetch.Engine.Upload
import Refetch.Header.ContentLength
/-!
# Framing

The peer must know where the body of a request ends: it has a length, or comes in chunks that tell
which is the last. Fields of the request that say so count for more than what is known of the body.

1. A request without a body has no transfer coding.
2. A body whose request names a transfer coding comes in chunks. They become the last coding, and no
   length is stated beside them.
3. A body whose request states a length is cut to it, and not sent if it is shorter.
4. Otherwise the body is as long as it is known to be. If that is not known it comes in chunks, but
   with methods that hardly ever have a body none is sent.

What is left over of a stream that is cut is dropped with its connection. Whether its source fails
for that is a matter of timing; here it does not.
-/

namespace Refetch

namespace Method

def connect : Method := ⟨"CONNECT"⟩

/-- Methods that hardly ever have a body. -/
def isBodiless (m : Method) : Bool := m.forbidsBody || m == connect

end Method

namespace Http

def transferEncoding : String := "transfer-encoding"

def contentLength : String := "content-length"

/-- The fields that tell where a body ends. -/
def framingFields : List String := [transferEncoding, contentLength]

/-- The parts of a value between its commas, if it is plain text. -/
def commaParts? (value : Bytes) : Option (List (List Char)) :=
  if isPlainValue value then
    some (((value.map fun b => Char.ofNat b.toNat).splitOn ',').map Text.trimChars)
  else none

/-- Digits without a sign. -/
def readStated (part : List Char) : Option Nat :=
  if part.isEmpty then none else readDigits 0 part

/-- The length that the values state, if all their parts state the same. -/
def statedLength? (values : List Bytes) : Option Nat :=
  match (values.mapM commaParts?).bind fun parts => parts.flatten.mapM readStated with
  | some (n :: ns) => if ns.all (· == n) then some n else none
  | _ => none

/-- The last coding of the value is that of chunks. -/
def endsInChunks (value : Bytes) : Bool :=
  match (commaParts? value).bind List.getLast? with
  | some coding => coding.map Char.toLower == "chunked".toList
  | none => false

/-- The values with chunks as their last coding. -/
def endInChunks : List Bytes → List Bytes
  | [] => []
  | [value] => if endsInChunks value then [value] else [value ++ Text.Utf8.encode ", chunked"]
  | value :: values => value :: endInChunks values

/-- The fields of a body that comes in chunks. -/
def chunkedFields (w : WireHeaders) : WireHeaders :=
  let coded : WireHeaders :=
    ⟨w.fields.map fun f => (f.1, if f.1 == transferEncoding then endInChunks f.2 else f.2)⟩
  if (statedLength? (w.getAll contentLength)).isSome then coded.erase contentLength else coded

/-- A body as it is sent, and the fields that go with it. A field that only repeats the framing is
left out. -/
structure Framed where
  fields : WireHeaders
  framing : Framing
  body : Bytes
  deriving Repr, DecidableEq

/-- Frames a body, of which `own` is known. -/
def frame (method : Method) (fields : WireHeaders) (own : Framing) (bs : Bytes) :
    Except UploadFault Framed :=
  if own = .none then .ok ⟨fields.erase transferEncoding, .none, []⟩
  else if fields.contains transferEncoding then .ok ⟨chunkedFields fields, .chunked, bs⟩
  else
    match statedLength? (fields.getAll contentLength), own with
    | some n, _ => (Upload.cut n bs).map (⟨fields, .length n, ·⟩)
    | none, .length n => (Upload.cut n bs).map (⟨fields.erase contentLength, .length n, ·⟩)
    | none, _ =>
      if method.isBodiless then .ok ⟨fields, .none, []⟩ else .ok ⟨fields, .chunked, bs⟩

end Http

end Refetch
